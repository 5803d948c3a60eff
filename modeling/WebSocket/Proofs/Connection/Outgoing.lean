import WebSocket.Proofs.Connection.CloseSent
import WebSocket.Proofs.Connection.Usage

/-!
What a connection sends. Frames get to the gate from many places, some of them made of what the
application passes and some of what the peer has sent. All of them keep to the rules and are
masked, and nothing else ever gets onto the wire than such frames and first parts of them.
-/

namespace WebSocket

namespace Frame

/-- A peer that requires masks reads a frame that was sent, whatever comes behind it. -/
def IsReadBack (frame : Frame) (key : MaskKey) (content : Bytes) : Prop :=
  ∀ (options : ParseOptions) (rest : Bytes), options.maskPolicy = .required →
    frame.payload.length ≤ options.maxFrameSize → frame.payload.length ≤ Header.payloadBound →
    parse options (content ++ rest) = .ok (.frame { frame with mask := some key } content.length)

theorem read_back (frame : Frame) (key : MaskKey) :
    frame.IsReadBack key (frame.serialize (some key)) := by
  intro options rest policy within bounded
  have admitted : options.maskPolicy.check (some key).isSome = .ok () := by
    rw [policy]
    rfl
  rw [serialize_length, serialize_eq_encode]
  exact frame.parse_encode (some key) options rest bounded within admitted

end Frame

namespace World

open Connection

variable {start world : World} {history : History}

theorem queued_of_visit {visit : Visit} (member : visit ∈ history.visits) :
    ∃ happening ∈ history, happening.action = .queueForGate visit.passage.content :=
  ⟨_, List.mem_of_getElem? (History.joined_of_visit member), rfl⟩

/-- Whatever the application passes and whatever the peer sends, all that is put in line at the
gate, if it is anything, is a frame that keeps to the rules, under a key; and a Close frame says
nothing, or it gives a code that may travel with a text behind it. The wire carries these frames
in their order, each of them as far as it was written. -/
theorem outgoing_frames (empty : start.actors = []) (gate : start.hub.gate = {})
    (run : start.RunIn usage history world) :
    (∀ happening ∈ history, ∀ content, happening.action = .queueForGate content → content ≠ [] →
      ∃ (frame : Frame) (key : MaskKey), content = frame.serialize (some key) ∧
        frame.validate = .ok () ∧
        (frame.opcode = .close → IsFarewell frame.payload ∧ frame.payload.length ≤ 125) ∧
        (∃ first second rest, content = first :: second :: rest ∧ (second &&& 0x80 != 0) = true) ∧
        frame.IsReadBack key content) ∧
      world.hub.stream.written =
        start.hub.stream.written ++ history.visits.flatMap (·.passage.written) ∧
      ∀ visit ∈ history.visits, visit.passage.written <+: visit.passage.content ∧
        ∃ happening ∈ history, happening.action = .queueForGate visit.passage.content := by
  obtain ⟨ledger, booked, account⟩ := booked_of_session empty gate (session_of_usage run)
  refine ⟨?_, ?_, ?_⟩
  · intro happening member content queues some
    have sound := sound_of_run empty run member (by simp [queues])
    rw [queues] at sound
    obtain ⟨frame, key, proper, rfl⟩ := sound.resolve_left some
    exact ⟨frame, key, rfl, proper.valid, proper.farewell, frame.masked_serialize key,
      frame.read_back key⟩
  · rw [booked.visits]
    exact account.wire
  · intro visit member
    have sound := booked.sound visit (booked.visits ▸ member)
    exact ⟨sound.part, queued_of_visit member⟩

def farewell : History × World :=
  play [0, 0, 0, 0, 0, 0, 0, 0]
    ([], (World.addActor { setup := {}, hub := { phase := .opened } }
      ⟨(Call.script {} (.send (.close (some 3000) "bye"))).bind fun result =>
        .act (.report 0 result) fun _ => .done none, false⟩))

theorem outgoing_frames_of_farewell :
    let content : Bytes := [0x88, 0x85, 0, 0, 0, 0, 0x0B, 0xB8, 0x62, 0x79, 0x65]
    farewell.1[4]? = some ⟨0, .queueForGate content, some ()⟩ ∧
      (∃ (frame : Frame) (key : MaskKey), content = frame.serialize (some key) ∧
        frame.validate = .ok () ∧
        (frame.opcode = .close → IsFarewell frame.payload ∧ frame.payload.length ≤ 125)) ∧
      farewell.2.hub.stream.written = [] ++ farewell.1.visits.flatMap (·.passage.written) := by
  intro content
  have run : World.RunIn usage { setup := {}, hub := { phase := .opened } } farewell.1 farewell.2 := by
    apply run_in_of_play
    exact .begin .refl (.call (.send (.close (some 3000) "bye")) 0)
  have queues : farewell.1[4]? = some ⟨0, .queueForGate content, some ()⟩ := rfl
  obtain ⟨handed, wire, -⟩ := outgoing_frames rfl rfl run
  obtain ⟨frame, key, same, valid, closes, -⟩ :=
    handed _ (List.mem_of_getElem? queues) content rfl (List.cons_ne_nil _ _)
  exact ⟨queues, ⟨frame, key, same, valid, closes⟩, wire⟩

end World

end WebSocket
