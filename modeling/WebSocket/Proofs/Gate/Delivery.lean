import Mathlib.Data.List.Nodup
import WebSocket.Proofs.Frame.Chunks
import WebSocket.Proofs.Gate.Shutdown

/-!
What the peer of a gate reads. If every send is told success, then the peer finds
the frames on the wire, each one once, in the order in which their senders came in.
Whoever sends after the gate was shut down is refused and writes nothing.
-/

namespace WebSocket

namespace GateCall

/-- What the peer gets from a call that was sent under the given key. -/
def arrival (key : MaskKey) : GateCall → Option Frame.Parsed
  | send frame => some (.frame { frame with mask := some key } (frame.wireSize true))
  | shutdown => none

def image (key : MaskKey) : GateCall → Bytes
  | send frame => frame.serialize (some key)
  | shutdown => []

theorem image_of_carries {call : GateCall} {content : Bytes} (carries : call.Carries content) :
    ∃ key, content = call.image key := by
  cases call with
  | send frame => exact carries
  | shutdown => exact ⟨⟨0, 0, 0, 0⟩, carries⟩

/-- The frame is not longer than a peer with these options admits. -/
def Fits (options : ParseOptions) (call : GateCall) : Prop :=
  ∀ frame, call = send frame →
    frame.payload.length ≤ Frame.Header.payloadBound ∧ frame.payload.length ≤ options.maxFrameSize

theorem drain_images {options : ParseOptions} (policy : options.maskPolicy = .required)
    (sealed : List (GateCall × MaskKey)) (fit : ∀ pair ∈ sealed, pair.1.Fits options) :
    Frame.drain options (sealed.flatMap fun pair => pair.1.image pair.2) =
      ⟨sealed.filterMap fun pair => pair.1.arrival pair.2, none, []⟩ := by
  induction sealed with
  | nil => exact Frame.drain_waits (Frame.waits_nil options)
  | cons pair rest induction =>
      obtain ⟨call, key⟩ := pair
      have behind := induction fun other member => fit other (List.mem_cons_of_mem _ member)
      cases call with
      | shutdown => exact behind
      | send frame =>
          obtain ⟨bounded, within⟩ := fit _ List.mem_cons_self frame rfl
          have admitted : options.maskPolicy.check (some key).isSome = .ok () := by
            rw [policy]
            rfl
          rw [List.flatMap_cons, image, frame.drain_serialize (some key) _ bounded within admitted, behind]
          rfl

end GateCall

namespace World

open GateCall Passage

variable {setup : Setup} {stream : Stream} {calls : List GateCall} {world : World} {history : History}

/-- Every send of a frame was told that it has succeeded. -/
def AllSent (calls : List GateCall) (history : History) : Prop :=
  ∀ (id : Nat) (frame : Frame), calls[id]? = some (.send frame) →
    ⟨id, .report id (.sent (.ok .success)), some ()⟩ ∈ history

theorem visit_eq_of_actor (run : (ofCalls setup stream calls).RunIn isolated history world)
    {first second : Visit} (member : first ∈ history.visits) (memberToo : second ∈ history.visits)
    (same : first.actor = second.actor) : first = second :=
  List.inj_on_of_nodup_map (actors_nodup run) member memberToo same

theorem sent_of_visit (run : (ofCalls setup stream calls).RunIn isolated history world)
    (sent : AllSent calls history) {visit : Visit} (member : visit ∈ history.visits) {frame : Frame}
    (sends : calls[visit.actor]? = some (.send frame)) :
    visit.passage.stage = .gone ∧ visit.passage.written = visit.passage.content := by
  obtain ⟨other, found, same, gone, -, whole⟩ := visit_of_report run (sent _ frame sends)
  obtain rfl := visit_eq_of_actor run found member same
  exact ⟨gone, whole rfl⟩

theorem image_of_visit (run : (ofCalls setup stream calls).RunIn isolated history world)
    (sent : AllSent calls history) {visit : Visit} (member : visit ∈ history.visits) :
    ∃ call key, calls[visit.actor]? = some call ∧ visit.passage.written = call.image key := by
  obtain ⟨call, found, carries⟩ := carries_of_visit run member
  obtain ⟨key, same⟩ := image_of_carries carries
  refine ⟨call, key, found, ?_⟩
  cases call with
  | send frame => rw [(sent_of_visit run sent member found).2, same]
  | shutdown =>
      have part := (sound_of_visit run member).part
      rw [same] at part
      exact List.prefix_nil.mp part

theorem keys_of_visits (run : (ofCalls setup stream calls).RunIn isolated history world)
    (sent : AllSent calls history) :
    ∃ keys : Nat → MaskKey, ∀ visit ∈ history.visits, ∃ call, calls[visit.actor]? = some call ∧
      visit.passage.written = call.image (keys visit.actor) := by
  have each : ∀ id, ∃ key, ∀ visit ∈ history.visits, visit.actor = id →
      ∃ call, calls[visit.actor]? = some call ∧ visit.passage.written = call.image key := by
    intro id
    by_cases visited : ∃ visit ∈ history.visits, visit.actor = id
    · obtain ⟨visit, member, own⟩ := visited
      obtain ⟨call, key, found, written⟩ := image_of_visit run sent member
      refine ⟨key, fun other memberToo same => ?_⟩
      obtain rfl := visit_eq_of_actor run memberToo member (same.trans own.symm)
      exact ⟨call, found, written⟩
    · exact ⟨⟨0, 0, 0, 0⟩, fun visit member own => absurd ⟨visit, member, own⟩ visited⟩
  choose keys written using each
  exact ⟨keys, fun visit member => written visit.actor visit member rfl⟩

theorem entered_of_sent (run : (ofCalls setup stream calls).RunIn isolated history world)
    (sent : AllSent calls history) {id : Nat} {frame : Frame}
    (sends : calls[id]? = some (.send frame)) : id ∈ history.entrances := by
  obtain ⟨ledger, booked, account⟩ := booked_of_calls run
  obtain ⟨visit, member, rfl, gone, -⟩ := visit_of_report run (sent id frame sends)
  rw [booked.visits, Ledger.visits_eq] at member
  rw [account.entrances]
  refine List.mem_map_of_mem (List.mem_append_left _ ?_)
  exact (List.mem_append.mp member).resolve_right fun present => booked.not_gone present gone

theorem entrances_nodup (run : (ofCalls setup stream calls).RunIn isolated history world) :
    history.entrances.Nodup := by
  obtain ⟨ledger, booked, account⟩ := booked_of_calls run
  have visits := actors_nodup run
  rw [booked.visits, Ledger.visits, List.map_append] at visits
  rw [account.entrances]
  exact (List.nodup_append.mp visits).1

def sealedCall (calls : List GateCall) (keys : Nat → MaskKey) (id : Nat) : Option (GateCall × MaskKey) :=
  calls[id]?.map fun call => (call, keys id)

/-- What was written by those who have come in. Who still waits has written nothing. -/
theorem wire_of_entrances (run : (ofCalls setup stream calls).RunIn isolated history world)
    {keys : Nat → MaskKey}
    (written : ∀ visit ∈ history.visits, ∃ call, calls[visit.actor]? = some call ∧
      visit.passage.written = call.image (keys visit.actor)) :
    world.hub.stream.written = stream.written ++
      (history.entrances.filterMap (sealedCall calls keys)).flatMap fun pair => pair.1.image pair.2 := by
  obtain ⟨ledger, booked, account⟩ := booked_of_calls run
  have nothing : ledger.line.flatMap (·.passage.written) = [] :=
    List.flatMap_eq_nil_iff.mpr fun visit member => Ledger.nothing_written booked member
  have images : ∀ visits : List Visit, (∀ visit ∈ visits, visit ∈ history.visits) →
      visits.flatMap (·.passage.written) =
        ((visits.map Visit.actor).filterMap (sealedCall calls keys)).flatMap
          fun pair => pair.1.image pair.2 := by
    intro visits all
    induction visits with
    | nil => rfl
    | cons visit rest induction =>
        obtain ⟨call, found, same⟩ := written visit (all visit List.mem_cons_self)
        have here : sealedCall calls keys visit.actor = some (call, keys visit.actor) := by
          rw [sealedCall, found]
          rfl
        rw [List.flatMap_cons, List.map_cons, List.filterMap_cons_some here, List.flatMap_cons, same,
          induction fun other member => all other (List.mem_cons_of_mem _ member)]
  rw [account.wire, account.entrances, Ledger.visits, List.flatMap_append, nothing, List.append_nil]
  refine congrArg (stream.written ++ ·) (images _ fun visit member => ?_)
  rw [booked.visits]
  exact List.mem_append_left _ member

theorem RunIn.actors_length_le {start : World} {setting : Setting}
    (run : start.RunIn setting history world) : start.actors.length ≤ world.actors.length := by
  induction run with
  | refl => exact Nat.le_refl _
  | @act history world index actor action next effect before here doing member induction =>
      rw [follow_eq]
      cases effect.reply <;> simp <;> omega
  | goOn _ _ _ induction => simpa [putActor] using induction
  | begin _ _ induction =>
      rw [addActor, List.length_append]
      omega
  | drift _ _ induction => exact induction

theorem actor_of_call (run : (ofCalls setup stream calls).RunIn isolated history world) {id : Nat}
    {call : GateCall} (found : calls[id]? = some call) : ∃ actor, world.actors[id]? = some actor := by
  have within := run.actors_length_le
  rw [of_calls_eq, List.length_mapIdx] at within
  exact ⟨_, List.getElem?_eq_getElem (Nat.lt_of_lt_of_le (List.getElem?_eq_some_iff.mp found).1 within)⟩

theorem visit_of_shutdown (run : (ofCalls setup stream calls).RunIn isolated history world)
    {place shutter : Nat}
    (shuts : history[place]? = some ⟨shutter, .report shutter (.closed (.ok ())), some ()⟩) :
    ∃ visit ∈ history.visits, visit.place < place ∧ visit.passage.content = [] ∧
      visit.passage.stage = .gone := by
  obtain ⟨permitted, before, earlier, -⟩ := permitted_of_calls run shuts
  rcases permitted with ⟨away, -, -, passage, stands, empty⟩ | ⟨passage, -, never⟩
  · obtain ⟨ledger, booked, -⟩ := booked_of_calls earlier
    obtain ⟨visit, member, -, rfl⟩ := booked.latest shutter passage stands
    rw [← booked.visits] at member
    have gone := away _ stands
    refine ⟨visit, History.gone_of_take member gone, ?_, empty, gone⟩
    exact (History.of_take (History.joined_of_visit member)).1
  · exact never.elim

/-- What comes after the gate was shut down. -/
def ComesLate (history : History) (place sender : Nat) : Prop :=
  (∃ shutter, history[place]? = some ⟨shutter, .report shutter (.closed (.ok ())), some ()⟩) ∧
    ∀ happening ∈ history.take place, happening.actor ≠ sender

theorem refused_of_late (run : (ofCalls setup stream calls).RunIn isolated history world)
    {place sender : Nat} (late : ComesLate history place sender) {visit : Visit}
    (member : visit ∈ history.visits) (own : visit.actor = sender) : visit.passage.IsRefused := by
  obtain ⟨⟨shutter, shuts⟩, absent⟩ := late
  obtain ⟨shut, found, earlier, empty, -⟩ := visit_of_shutdown run shuts
  have behind : place ≤ visit.place := by
    by_contra early
    exact absent _ (History.mem_take (Nat.lt_of_not_le early) (History.joined_of_visit member)) own
  exact refused_behind run found member empty (Nat.lt_of_lt_of_le earlier behind)

theorem late_of_take {place sender later : Nat} {action : Action} {reply : Option action.Reply}
    (late : ComesLate history place sender) (found : history[later]? = some ⟨sender, action, reply⟩) :
    place ≤ later := by
  by_contra early
  exact late.2 _ (History.mem_take (Nat.lt_of_not_le early) found) rfl

theorem ComesLate.append {place sender : Nat} (late : ComesLate history place sender)
    (more : History) : ComesLate (history ++ more) place sender := by
  obtain ⟨⟨shutter, shuts⟩, absent⟩ := late
  have within := (List.getElem?_eq_some_iff.mp shuts).1
  refine ⟨⟨shutter, (List.getElem?_append_left within).trans shuts⟩, ?_⟩
  rwa [List.take_append_of_le_length (Nat.le_of_lt within)]

theorem ComesLate.take {place sender later : Nat} (late : ComesLate history place sender)
    (between : place < later) : ComesLate (history.take later) place sender := by
  obtain ⟨⟨shutter, shuts⟩, absent⟩ := late
  refine ⟨⟨shutter, (List.getElem?_take_of_lt between).trans shuts⟩, ?_⟩
  rwa [List.take_take, Nat.min_eq_left (Nat.le_of_lt between)]

theorem wrote_of_late (run : (ofCalls setup stream calls).RunIn isolated history world)
    {place sender : Nat} (late : ComesLate history place sender) {happening : Happening}
    (member : happening ∈ history) (own : happening.actor = sender) : happening.wrote = [] := by
  obtain ⟨sender, action, reply⟩ := happening
  obtain rfl := own
  cases action with
  | write bytes deadline =>
      obtain ⟨later, found⟩ := List.mem_iff_getElem?.mp member
      have between : place < later := by
        refine Nat.lt_of_le_of_ne (late_of_take late found) ?_
        rintro rfl
        obtain ⟨⟨shutter, shuts⟩, -⟩ := late
        cases found.symm.trans shuts
      obtain ⟨permitted, before, earlier, -⟩ := permitted_of_calls run found
      rcases permitted with ⟨-, outside, -⟩ | ⟨passage, stands, permitted⟩
      · cases outside
      · obtain ⟨ledger, booked, -⟩ := booked_of_calls earlier
        obtain ⟨visit, present, own, rfl⟩ := booked.present_of_permits stands permitted
        have inVisits : visit ∈ History.visits (history.take later) := by
          rw [booked.visits, Ledger.visits_eq]
          exact List.mem_append_right _ present
        have inside : visit.passage.stage = .inside := permitted.1
        have refused := refused_of_late earlier (late.take between) inVisits own
        rcases refused with waiting | ⟨barred | gone, -⟩
        · cases inside.symm.trans waiting
        · cases inside.symm.trans barred
        · cases inside.symm.trans gone
  | _ => rfl

theorem report_of_late (run : (ofCalls setup stream calls).RunIn isolated history world)
    {place sender : Nat} (late : ComesLate history place sender) {frame : Frame}
    (sends : calls[sender]? = some (.send frame)) {id : Nat} {report : Report}
    (reported : ⟨sender, .report id report, some ()⟩ ∈ history) :
    id = sender ∧ report = .sent (.ok .fatalError) := by
  obtain ⟨later, found⟩ := List.mem_iff_getElem?.mp reported
  obtain ⟨permitted, before, earlier, -⟩ := permitted_of_calls run found
  rcases permitted with ⟨away, -, permitted⟩ | ⟨passage, -, never⟩
  · rcases report with (failure | status) | (failure | done) | _ | _ | _ | _
    · exact permitted.elim
    · obtain ⟨same, passage, stands, -, told⟩ := permitted
      obtain ⟨visit, member, own, rfl⟩ := visit_of_gone earlier stands (away passage stands)
      have refused := refused_of_late run late member own
      have gone := away _ stands
      refine ⟨same, ?_⟩
      rcases refused with waiting | ⟨-, fatal, -⟩
      · cases gone.symm.trans waiting
      · rw [← told, fatal]
    · exact permitted.elim
    · obtain ⟨-, passage, stands, empty⟩ := permitted
      exact absurd empty (content_of_sender earlier sends stands)
    all_goals exact permitted.elim
  · exact never.elim

theorem no_writer_of_late (run : (ofCalls setup stream calls).RunIn isolated history world)
    {place sender : Nat} (late : ComesLate history place sender) : world.hub.hasWriter = false := by
  obtain ⟨⟨shutter, shuts⟩, -⟩ := late
  obtain ⟨visit, member, -, empty, gone⟩ := visit_of_shutdown run shuts
  obtain ⟨ledger, booked, account⟩ := booked_of_calls run
  exact account.shut visit (booked.visits ▸ member) empty (.inr gone)

/-- Over all runs of any calls: if every send was told success, then a peer that
requires masks and admits the largest payload reads exactly their frames, each one
once and each under some key, in the order in which their senders have come in, and
nothing is left over. Whoever sends after the gate was shut down writes nothing, can
be told nothing but a fatal error, and can always come to be told so. -/
theorem peer_recovers (run : (ofCalls setup stream calls).RunIn isolated history world) :
    (∀ options : ParseOptions, options.maskPolicy = .required →
      (∀ call ∈ calls, call.Fits options) → stream.written = [] → AllSent calls history →
      ∃ keys : Nat → MaskKey,
        Frame.drain options world.hub.stream.written =
          ⟨history.entrances.filterMap fun id => calls[id]?.bind (arrival (keys id)), none, []⟩ ∧
        history.entrances.Nodup ∧
        ∀ (id : Nat) (frame : Frame), calls[id]? = some (.send frame) → id ∈ history.entrances) ∧
    ∀ (place sender : Nat) (frame : Frame), calls[sender]? = some (.send frame) →
      ComesLate history place sender →
      (∀ happening ∈ history, happening.actor = sender → happening.wrote = []) ∧
      (∀ id report, ⟨sender, .report id report, some ()⟩ ∈ history →
        id = sender ∧ report = .sent (.ok .fatalError)) ∧
      ∃ more after, (ofCalls setup stream calls).RunIn isolated (history ++ more) after ∧
        ⟨sender, .report sender (.sent (.ok .fatalError)), some ()⟩ ∈ history ++ more := by
  constructor
  · intro options policy fit empty sent
    obtain ⟨keys, written⟩ := keys_of_visits run sent
    refine ⟨keys, ?_, entrances_nodup run, fun id frame => entered_of_sent run sent⟩
    have fits : ∀ pair ∈ history.entrances.filterMap (sealedCall calls keys), pair.1.Fits options := by
      intro pair member
      obtain ⟨id, -, found⟩ := List.mem_filterMap.mp member
      obtain ⟨call, here, rfl⟩ := Option.map_eq_some_iff.mp found
      exact fit call (List.mem_of_getElem? here)
    rw [wire_of_entrances run written, empty, List.nil_append, drain_images policy _ fits,
      List.filterMap_filterMap]
    have same : ∀ id, (sealedCall calls keys id).bind (fun pair => pair.1.arrival pair.2) =
        calls[id]?.bind (arrival (keys id)) := by
      intro id
      unfold sealedCall
      cases calls[id]? <;> rfl
    simp only [same]
  · intro place sender frame sends late
    refine ⟨fun happening => wrote_of_late run late, fun id report => report_of_late run late sends, ?_⟩
    obtain ⟨actor, here⟩ := actor_of_call run sends
    obtain ⟨more, after, id, report, reached, found⟩ :=
      sender_can_report run (no_writer_of_late run late) sends here
    obtain ⟨rfl, rfl⟩ := report_of_late reached (late.append more) sends found
    exact ⟨more, after, reached, found⟩

/-- Two calls under different keys, on a stream that takes the first frame in pieces.
The second one comes in while the first one still waits. -/
def twoSent : History × World :=
  play [0, 1, 1, 1, 0, 1, 1, 1, 1, 1, 1, 1, 0, 0, 0, 0, 0, 0]
    ([], ofCalls { maskKey := fun drawn => ⟨1, 2, 3, UInt8.ofNat drawn⟩ }
      { writing := { cues := [.accept 3, .accept 1] } } [.send (.text "hello"), .send (.text "x")])

def shutFirst : History × World :=
  play [0, 0, 0, 0, 0, 0, 0, 1, 1, 1, 1, 1] ([], ofCalls {} {} [.shutdown, .send (.text "x")])

theorem peer_recovers_in_order :
    (∃ keys : Nat → MaskKey,
      Frame.drain ⟨5, .required⟩ twoSent.2.hub.stream.written =
        ⟨[.frame { Frame.text "x" with mask := some (keys 1) } 7,
          .frame { Frame.text "hello" with mask := some (keys 0) } 11], none, []⟩) ∧
    (∀ happening ∈ shutFirst.1, happening.actor = 1 → happening.wrote = []) ∧
    ∃ more, ⟨1, .report 1 (.sent (.ok .fatalError)), some ()⟩ ∈ shutFirst.1 ++ more := by
  constructor
  · have fits : ∀ call ∈ [GateCall.send (.text "hello"), .send (.text "x")], call.Fits ⟨5, .required⟩ := by
      intro call member frame same
      rcases List.mem_cons.mp member with rfl | member
      · cases same
        exact ⟨by decide, by decide⟩
      · cases List.mem_singleton.mp member
        cases same
        exact ⟨by decide, by decide⟩
    have sent : AllSent [.send (.text "hello"), .send (.text "x")] twoSent.1 := by
      have first : twoSent.1[17]? = some ⟨0, .report 0 (.sent (.ok .success)), some ()⟩ := rfl
      have second : twoSent.1[11]? = some ⟨1, .report 1 (.sent (.ok .success)), some ()⟩ := rfl
      intro id frame sends
      match id with
      | 0 => exact List.mem_of_getElem? first
      | 1 => exact List.mem_of_getElem? second
      | _ + 2 => cases sends
    obtain ⟨keys, drained, -⟩ :=
      (peer_recovers (run_in_of_play _ .refl)).1 ⟨5, .required⟩ rfl fits rfl sent
    exact ⟨keys, drained⟩
  · have shuts : shutFirst.1[6]? = some ⟨0, .report 0 (.closed (.ok ())), some ()⟩ := rfl
    have late : ComesLate shutFirst.1 6 1 := ⟨⟨0, shuts⟩, by decide⟩
    obtain ⟨silent, -, more, after, -, told⟩ :=
      (peer_recovers (run_in_of_play _ .refl)).2 6 1 (.text "x") rfl late
    exact ⟨silent, more, told⟩

end World

end WebSocket
