import WebSocket.Proofs.Connection.SessionEnd
import WebSocket.Proofs.Frame.RoundTrip

/-!
The answers to Pings. Of an idle connection only the Pongs and the last Close frame come
onto the wire, one Pong for every sound Ping and in their order. A Pong is written before
anything comes of a later frame, and without its Pings a session takes the same course.
-/

namespace WebSocket

def Output.byte? : Output → Option Byte
  | told .. => none
  | wrote byte => some byte

theorem Output.bytes_of_wrote (bytes : Bytes) : (bytes.map wrote).filterMap byte? = bytes := by
  induction bytes with
  | nil => rfl
  | cons byte rest induction => exact congrArg (byte :: ·) induction

theorem Happening.bytes_of_outputs (happening : Happening) :
    happening.outputs.filterMap Output.byte? = happening.wrote := by
  unfold outputs
  split
  · rfl
  · exact Output.bytes_of_wrote _

theorem History.bytes_of_outputs (history : History) :
    (history.flatMap Happening.outputs).filterMap Output.byte? = history.flatMap Happening.wrote := by
  rw [List.filterMap_flatMap]
  exact congrArg history.flatMap (funext Happening.bytes_of_outputs)

theorem Deed.bytes_of_told (setup : Setup) (event : Event) :
    (told setup event).filterMap Output.byte? = [] := by
  simp [told, List.filterMap_map, Function.comp_def, Output.byte?]

def Frame.onWire (frames : List Frame) : Bytes :=
  frames.flatMap fun frame => frame.serialize frame.mask

namespace Setup

/-- The frames as they are sent, under the mask keys from `key` on. -/
def masked (setup : Setup) : (key : Nat) → List Frame → List Frame
  | _, [] => []
  | key, frame :: rest =>
      { frame with mask := some (setup.maskKey key) } :: setup.masked (key + 1) rest

theorem bytes_of_outputs (setup : Setup) (key : Nat) (deeds : List Deed) :
    (setup.outputs key deeds).filterMap Output.byte? =
      Frame.onWire (setup.masked key (deeds.filterMap Deed.sent?)) := by
  induction deeds generalizing key with
  | nil => rfl
  | cons deed rest induction =>
      rw [outputs, List.filterMap_append, induction]
      cases deed with
      | tells event =>
          rw [Deed.outputs, Deed.bytes_of_told]
          rfl
      | sends frame =>
          rw [Deed.outputs, List.filterMap_append, Output.bytes_of_wrote, Deed.bytes_of_told,
            List.append_nil]
          rfl

theorem drain_masked (setup : Setup) {options : ParseOptions}
    (policy : options.maskPolicy = .required) (key : Nat) {frames : List Frame}
    (short : ∀ frame ∈ frames, frame.payload.length ≤ Frame.maxControlPayload)
    (room : Frame.maxControlPayload ≤ options.maxFrameSize) :
    let sent := setup.masked key frames
    Frame.drain options (Frame.onWire sent) =
      ⟨sent.map fun frame => .frame frame (frame.wireSize true), none, []⟩ := by
  induction frames generalizing key with
  | nil => exact Frame.drain_waits (Frame.waits_nil options)
  | cons frame rest induction =>
      have fits := short frame List.mem_cons_self
      have bounded : frame.payload.length ≤ Frame.Header.payloadBound :=
        Nat.le_trans fits (by decide)
      have admitted : options.maskPolicy.check (some (setup.maskKey key)).isSome = .ok () := by
        rw [policy]
        rfl
      have behind := induction (key + 1) fun other member => short other (List.mem_cons_of_mem _ member)
      have first := frame.drain_serialize (some (setup.maskKey key))
        (Frame.onWire (setup.masked (key + 1) rest)) bounded (Nat.le_trans fits room) admitted
      rw [behind] at first
      exact first

end Setup

theorem Finale.answer_short (ending : Finale) :
    ending.answer.payload.length ≤ Frame.maxControlPayload := by
  have coded : ∀ (code : UInt16) (reason : String),
      (Utf8.encode (Utf8.cut 123 reason)).length ≤ 123 →
      (Frame.close (some code) reason).payload.length ≤ Frame.maxControlPayload := by
    intro code reason short
    change (BigEndian.encode 2 _ ++ Utf8.encode (Utf8.cut 123 reason)).length ≤ 125
    rw [List.length_append, BigEndian.encode_length]
    omega
  cases ending with
  | fault found => exact coded _ _ (by decide)
  | close content =>
      cases content with
      | none => exact Nat.zero_le _
      | some close => exact coded _ _ (by decide)

theorem Frame.Parsed.short_of_sound {parsed : Parsed} {payload : Bytes}
    (sound : parsed.isSoundPing = true) (isPing : parsed.ping? = some payload) :
    payload.length ≤ maxControlPayload := by
  cases parsed with
  | frame frame consumed =>
      rw [ping?, Option.ite_none_right_eq_some] at isPing
      obtain ⟨opcode, same⟩ := isPing
      obtain rfl := Option.some.inj same
      simp only [isSoundPing, Bool.and_eq_true, Option.isNone_iff_eq_none] at sound
      have check : (.longControl, frame.opcode.isControl && decide (125 < frame.payload.length)) ∈
          frame.ruleChecks := by
        simp [ruleChecks]
      have absent := Fault.not_found sound.2 check
      simpa [opcode, Opcode.isControl, maxControlPayload] using absent
  | _ => cases isPing

namespace Course

variable (limits : Limits) (bytes : Bytes)

theorem short_of_sent (refusal : Option Fault) (begun : Option Draft) (frames : List Frame.Parsed) :
    let course := along limits refusal begun frames
    ∀ frame ∈ (course.handled.filterMap fun entry => entry.1.ping?).map Frame.pong ++
        course.ending.toList.map Finale.answer,
      frame.payload.length ≤ Frame.maxControlPayload := by
  intro course frame member
  rcases List.mem_append.mp member with pong | last
  · obtain ⟨payload, among, rfl⟩ := List.mem_map.mp pong
    obtain ⟨entry, handled, isPing⟩ := List.mem_filterMap.mp among
    obtain ⟨begun, -, goesOn⟩ := handled_of_along refusal begun frames handled
    have sound := sound_of_ping goesOn
    rw [isPing] at sound
    exact Frame.Parsed.short_of_sound sound isPing
  · obtain ⟨ending, -, rfl⟩ := List.mem_map.mp last
    exact ending.answer_short

/-- The answer to a Ping comes between what comes of the earlier and of the later frames. -/
theorem deeds_around_ping {front behind : List (Frame.Parsed × List Deed)}
    {entry : Frame.Parsed × List Deed} {payload : Bytes}
    (split : (ofBytes limits none bytes).handled = front ++ entry :: behind)
    (isPing : entry.1.ping? = some payload) (streamEnds : Bool) :
    (ofBytes limits none bytes).deeds streamEnds =
      front.flatMap Prod.snd ++ (.tells (.ping payload) :: .sends (.pong payload) ::
        deeds ⟨behind, (ofBytes limits none bytes).ending⟩ streamEnds) := by
  have among : entry ∈ (ofBytes limits none bytes).handled := by
    rw [split]
    exact List.mem_append_right _ List.mem_cons_self
  obtain ⟨begun, own, -⟩ := handled_of_along _ _ _ among
  rw [deeds_of_ping begun isPing] at own
  rw [deeds, split, List.flatMap_append, List.flatMap_cons, own, List.append_assoc,
    List.append_assoc]
  rfl

end Course

namespace World

variable {start world : World} {history : History}

theorem Smooth.written (smooth : start.Smooth history world) :
    world.hub.stream.written = start.hub.stream.written ++ history.flatMap Happening.wrote := by
  obtain ⟨run, -⟩ := smooth
  induction run with
  | refl => exact (List.append_nil _).symm
  | act _ _ _ member induction =>
      rw [follow_eq, List.flatMap_append, ← List.append_assoc, ← induction, List.flatMap_singleton]
      exact Action.written_of_effect member
  | goOn _ _ _ induction => exact induction
  | begin _ begins _ => exact begins.elim
  | drift _ drifts induction =>
      obtain rfl := drifts
      exact induction

open Connection

/-- Without trouble, such a loop writes one Pong for every sound Ping before the ending, in
their order, and then the answer to the ending, and nothing else; a peer reads exactly
these frames. The Pong comes behind all that comes of the earlier frames and before all
that comes of the later ones. Without the Pings the frames take the same course. -/
theorem pongs_answer_pings (setup : Setup) (hub : Hub) (pending : Bytes)
    (tolerant : setup.config.closeOnViolation = false)
    (calm : ∀ observer ∈ setup.observers, ∀ event, observer.cancels event = false)
    (idle : hub.ground.IsIdle) {history : History} {world : World}
    (smooth : (solo setup hub
      ((Task.receive pending { limits := setup.config.limits }).script setup)).Smooth history world) :
    let limits := setup.config.limits
    let inflow := hub.stream.reading.inflow
    let drained := Frame.drain (.serverFrames limits) (pending ++ inflow.bytes)
    let course := Course.ofBytes limits none (pending ++ inflow.bytes)
    let pings := (drained.parsed.take course.handled.length).filter Frame.Parsed.isSoundPing
    let pongs := (pings.filterMap Frame.Parsed.ping?).map Frame.pong
    let sent := setup.masked hub.keysDrawn (pongs ++ course.ending.toList.map Finale.answer)
    let outputs := allOutputs setup hub pending
    (∃ written, world.hub.stream.written = hub.stream.written ++ written ∧
        written <+: Frame.onWire sent ∧ (world.IsThrough → written = Frame.onWire sent)) ∧
      (hub.Flows → ∃ later final, world.Smooth later final ∧
        final.hub.stream.written = hub.stream.written ++ Frame.onWire sent) ∧
      (∀ options : ParseOptions, options.maskPolicy = .required →
        Frame.maxControlPayload ≤ options.maxFrameSize →
        Frame.drain options (Frame.onWire sent) =
          ⟨sent.map fun frame => .frame frame (frame.wireSize true), none, []⟩) ∧
      history.flatMap Happening.outputs <+: outputs ∧
      (∀ front entry behind payload, course.handled = front ++ entry :: behind →
        entry.1.ping? = some payload →
          let key := hub.keysDrawn + keysOf (front.flatMap Prod.snd)
          outputs = setup.outputs hub.keysDrawn (front.flatMap Prod.snd) ++
            (Deed.outputs setup key (.tells (.ping payload)) ++
              Deed.outputs setup key (.sends (.pong payload))) ++
            setup.outputs (key + 1) (Course.deeds ⟨behind, course.ending⟩ inflow.ends)) ∧
      Course.along limits (Frame.refusal? limits drained.pending) none
          (drained.parsed.filter fun parsed => !parsed.isSoundPing) =
        ⟨course.handled.filter fun entry => entry.1.ping?.isNone, course.ending⟩ := by
  intro limits inflow drained course pings pongs sent outputs
  obtain ⟨now, script, left, rfl, split, yields⟩ := course_of_run tolerant calm idle smooth
  have answered : (course.handled.filterMap fun entry => entry.1.ping?).map Frame.pong = pongs :=
    congrArg (List.map Frame.pong) (Course.pings_of_along _ _ _)
  have frames : (course.deeds inflow.ends).filterMap Deed.sent? =
      pongs ++ course.ending.toList.map Finale.answer := by
    rw [← answered]
    exact Course.sent_of_deeds _ _ _ _
  have wire : outputs.filterMap Output.byte? = Frame.onWire sent :=
    (setup.bytes_of_outputs _ _).trans
      (congrArg (fun frames => Frame.onWire (setup.masked _ frames)) frames)
  have bytes : history.flatMap Happening.wrote ++ left.filterMap Output.byte? = Frame.onWire sent := by
    rw [← wire, ← history.bytes_of_outputs, ← List.filterMap_append]
    exact congrArg _ split.symm
  refine ⟨⟨_, smooth.written, ⟨_, bytes⟩, fun through => ?_⟩, fun flows => ?_, ?_, ⟨left, split.symm⟩,
    ?_, Course.along_without_pings _ _ _⟩
  · rw [solo_through] at through
    subst through
    obtain ⟨_, -, rfl⟩ := yields
    rw [← bytes]
    exact (List.append_nil _).symm
  · have flowing := flows_of_run smooth.run flows
    obtain ⟨later, final, last, further, rfl, -⟩ := catches_up tolerant calm yields flowing
    refine ⟨later, _, further, ?_⟩
    rw [further.written, smooth.written, List.append_assoc, ← bytes, History.bytes_of_outputs]
    rfl
  · intro options policy room
    refine setup.drain_masked policy hub.keysDrawn ?_ room
    rw [← answered]
    exact Course.short_of_sent _ _ _ _
  · intro front entry behind payload handled isPing key
    have deeds := Course.deeds_around_ping limits _ handled isPing inflow.ends
    have apart : outputs = setup.outputs hub.keysDrawn (course.deeds inflow.ends) := rfl
    rw [apart, deeds, Setup.outputs_append, List.append_assoc, List.append_assoc]
    rfl

/-- One observer, and mask keys that differ. -/
def keyedSetup : Setup := { observers := [{}], maskKey := fun drawn => ⟨1, 2, 3, UInt8.ofNat drawn⟩ }

/-- The first fragment of a text, a Ping, the other fragment, and a Close. The bytes come
in two parts, and the first part ends in the middle of the Ping. -/
def pingBetween : World :=
  solo keyedSetup
    { phase := .opened
      stream := { reading := { cues :=
        [.data [0x01, 0x01, 0x61, 0x89, 0x01], .data [0x07, 0x80, 0x01, 0x62, 0x88, 0x00]] } } }
    ((Task.receive [] { limits := {} }).script keyedSetup)

def pingBetweenPlayed : History × World := play (List.replicate 45 0) ([], pingBetween)

theorem pongs_answer_ping_between_fragments :
    pingBetweenPlayed.2.hub.stream.written =
        (Frame.pong [7]).serialize (some ⟨1, 2, 3, 0⟩) ++
          (Frame.close none "").serialize (some ⟨1, 2, 3, 1⟩) ∧
      allOutputs keyedSetup pingBetween.hub [] =
        keyedSetup.outputs 0 [.tells (.ping [7]), .sends (.pong [7]), .tells (.text "ab"),
          .tells (.close none), .sends (.close none ""), .tells .closed] ∧
      pingBetweenPlayed.1.flatMap Happening.outputs <+: allOutputs keyedSetup pingBetween.hub [] := by
  have calm : ∀ observer ∈ keyedSetup.observers, ∀ event, observer.cancels event = false := by
    intro observer member event
    obtain rfl := List.mem_singleton.mp member
    rfl
  have idle : pingBetween.hub.ground.IsIdle := ⟨rfl, rfl, rfl, rfl, rfl⟩
  have smooth : pingBetween.Smooth pingBetweenPlayed.1 pingBetweenPlayed.2 :=
    ⟨run_in_of_play _ .refl, by decide⟩
  have alone : pingBetweenPlayed.2.actors = [⟨.done none, false⟩] := rfl
  have course : Course.ofBytes keyedSetup.config.limits none
      ([] ++ pingBetween.hub.stream.reading.inflow.bytes) =
        ⟨[(.frame (.of false .text [0x61]) 3, []),
          (.frame (.ping [7]) 3, [.tells (.ping [7]), .sends (.pong [7])]),
          (.frame (.of true .continuation [0x62]) 3, [.tells (.text "ab")])],
          some (.close none)⟩ := by
    decide +kernel
  obtain ⟨⟨written, wire, -, all⟩, -, -, outputs, around, -⟩ :=
    pongs_answer_pings keyedSetup _ [] rfl calm idle smooth
  refine ⟨?_, ?_, outputs⟩
  · rw [wire, all (through_of_one alone rfl)]
    decide +kernel
  · have apart := around [(.frame (.of false .text [0x61]) 3, [])] _ _ [7]
      (congrArg Course.handled course) rfl
    rw [course] at apart
    exact apart

end World

end WebSocket
