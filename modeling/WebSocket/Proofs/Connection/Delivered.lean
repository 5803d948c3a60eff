import WebSocket.Proofs.Connection.Deeds
import WebSocket.Proofs.Connection.Usage
import WebSocket.Proofs.Message.Rejection

/-!
The kinds of the messages that are put together and delivered. An assembler only ever marks a text
or a binary message as begun, even where it refuses the frame. So whatever it gives back is one of the
two, a text is one that can be read, and the observers are told of it as what it is.
-/

namespace WebSocket

namespace Assembler

variable {assembler : Assembler} {frame : Frame} {message : Message}

def IsTyped (assembler : Assembler) : Prop :=
  ∀ kind ∈ assembler.opcode, kind = .text ∨ kind = .binary

theorem extend_given (given : (assembler.extend frame).1 = .ok (some message)) :
    assembler.opcode = some message.opcode ∧
      (message.opcode = .text → Utf8.isValid message.payload = true) := by
  unfold extend at given
  split at given
  · cases given
  split at given
  · cases given
  dsimp only at given
  split at given
  · cases given
  split at given
  · cases given
  rename_i opcode begun
  split at given
  · cases given
  · rename_i sound
    cases given
    refine ⟨begun, fun isText => ?_⟩
    by_contra broken
    exact sound ⟨isText, broken⟩

/-- Where a message has begun, its final fragment does not pass without an answer. -/
theorem extend_final (begun : assembler.opcode ≠ none) (fin : frame.fin = true) :
    (assembler.extend frame).1 ≠ .ok none := by
  unfold extend
  split
  · nofun
  split
  · nofun
  simp only [fin, Bool.not_true, Bool.false_eq_true, if_false]
  split
  · rename_i idle
    exact absurd idle begun
  split <;> nofun

theorem extend_opcode (assembler : Assembler) (frame : Frame) :
    (assembler.extend frame).2.opcode = assembler.opcode ∨ (assembler.extend frame).2.opcode = none := by
  unfold extend
  split
  · exact .inl rfl
  split
  · exact .inl rfl
  dsimp only
  split
  · exact .inl rfl
  split
  · exact .inl rfl
  split <;> exact .inr rfl

inductive Pushes (assembler : Assembler) (frame : Frame) : Prop where
  | passes (isControl : frame.opcode.isControl = true)
      (same : assembler.push frame = (.ok none, assembler))
  | refuses (failure : Error) (same : assembler.push frame = (.error failure, assembler))
  | takes (kind : Opcode) (typed : kind = .text ∨ kind = .binary)
      (same : assembler.push frame = { assembler with opcode := some kind }.extend frame)

theorem IsTyped.pushes (typed : assembler.IsTyped) (frame : Frame) : assembler.Pushes frame := by
  cases isData : frame.opcode.isControl with
  | true => exact .passes isData (push_control assembler isData)
  | false =>
      cases known : assembler.opcode with
      | none =>
          have pushed := push_idle known isData
          by_cases continues : frame.opcode = .continuation
          · exact .refuses _ (pushed.trans (if_pos continues))
          · have kind : frame.opcode = .text ∨ frame.opcode = .binary := by
              cases opcode : frame.opcode <;> simp_all [Opcode.isControl]
            exact .takes frame.opcode kind (pushed.trans (if_neg continues))
      | some kind =>
          have pushed := push_begun known isData
          by_cases continues : frame.opcode = .continuation
          · have same : { assembler with opcode := some kind } = assembler := by rw [← known]
            exact .takes kind (typed kind known) (by rw [pushed, if_pos continues, same])
          · exact .refuses _ (pushed.trans (if_neg continues))

theorem IsTyped.push (typed : assembler.IsTyped) (frame : Frame) : (assembler.push frame).2.IsTyped := by
  cases typed.pushes frame with
  | passes _ same | refuses _ same => rwa [same]
  | takes kind isTyped same =>
      rw [same]
      intro left member
      rcases extend_opcode { assembler with opcode := some kind } frame with kept | cleared
      · rw [kept] at member
        obtain rfl : kind = left := Option.some.inj member
        exact isTyped
      · rw [cleared] at member
        cases member

theorem Arises.typed {limits : Limits} (arises : assembler.Arises limits) : assembler.IsTyped := by
  obtain ⟨frames, rfl⟩ := arises
  induction frames using List.reverseRecOn with
  | nil => exact nofun
  | append_singleton frames frame induction =>
      rw [after_append]
      exact induction.push frame

theorem IsTyped.given (typed : assembler.IsTyped)
    (given : (assembler.push frame).1 = .ok (some message)) :
    (message.opcode = .text ∨ message.opcode = .binary) ∧
      (message.opcode = .text → Utf8.isValid message.payload = true) := by
  cases typed.pushes frame with
  | passes _ same | refuses _ same =>
      rw [same] at given
      cases given
  | takes kind isTyped same =>
      rw [same] at given
      obtain ⟨begun, valid⟩ := extend_given given
      obtain rfl : kind = message.opcode := Option.some.inj begun
      exact ⟨isTyped, valid⟩

theorem IsTyped.push_final (typed : assembler.IsTyped) (isData : frame.opcode.isControl = false)
    (fin : frame.fin = true) : (assembler.push frame).1 ≠ .ok none := by
  cases typed.pushes frame with
  | passes isControl _ =>
      rw [isData] at isControl
      cases isControl
  | refuses failure same =>
      rw [same]
      nofun
  | takes kind _ same =>
      rw [same]
      exact extend_final (Option.some_ne_none kind) fin

end Assembler

namespace Message

variable {message : Message}

theorem text_of_valid (valid : Utf8.isValid message.payload = true) :
    ∃ content, message.text = .ok content ∧ Utf8.encode content = message.payload := by
  obtain ⟨content, decoded⟩ := Option.isSome_iff_exists.mp valid
  exact ⟨content, by rw [text, decoded], (Utf8.decode_eq_some_iff.mp decoded).symm⟩

/-- What the observers are told of a message: the text itself, or the bytes. -/
inductive Tells : Message → Event → Prop where
  | text (content : String) : Tells ⟨.text, Utf8.encode content⟩ (.text content)
  | binary (payload : Bytes) : Tells ⟨.binary, payload⟩ (.binary payload)

theorem tells_of_typed (typed : message.opcode = .text ∨ message.opcode = .binary)
    (valid : message.opcode = .text → Utf8.isValid message.payload = true) :
    ∃ event, message.Tells event := by
  obtain ⟨opcode, payload⟩ := message
  rcases typed with rfl | rfl
  · obtain ⟨content, -, rfl⟩ := text_of_valid (valid rfl)
    exact ⟨_, .text content⟩
  · exact ⟨_, .binary payload⟩

end Message

namespace Connection

theorem deliver_eq (setup : Setup) (assembler : Assembler) {message : Message} {event : Event}
    (tells : message.Tells event) :
    deliver setup message assembler = (notify setup event).bind fun _ => .done (some assembler) := by
  cases tells with
  | text content =>
      have read : Message.text ⟨.text, Utf8.encode content⟩ = .ok content := by
        rw [Message.text, Utf8.decode_eq_some_iff.mpr rfl]
      rw [deliver, read]
      rfl
  | binary payload => rfl

end Connection

namespace World

open Connection

/-- Whatever an assembler has been given before, and whether it took it or not, each message that it
gives back is a text or a binary one, and a text can be read and has just the bytes that were put
together. A final data frame is never answered with nothing. So a receive loop that is given a message
tells the observers of it as what it is and goes on; it never finds that a text cannot be read. And in
every run of a connection that is opened and used, a receive loop goes on with no other assembler than
one that has been given some frames. -/
theorem delivers_typed (limits : Limits) (earlier : List Frame) (frame : Frame) :
    let assembler := Assembler.after { limits } earlier
    (∀ message, (assembler.push frame).1 = .ok (some message) →
      (message.opcode = .text ∨ message.opcode = .binary) ∧
      (message.opcode = .text →
        ∃ content, message.text = .ok content ∧ Utf8.encode content = message.payload)) ∧
    (frame.opcode.isControl = false → frame.fin = true → (assembler.push frame).1 ≠ .ok none) ∧
    (∀ setup message next, frame.opcode.isControl = false → frame.validate = .ok () →
      assembler.push frame = (.ok (some message), next) →
      ∃ event, message.Tells event ∧
        dispatch setup assembler frame = (notify setup event).bind fun _ => .done (some next)) ∧
    ∀ (start world : World) (history : History), start.actors = [] →
      start.setup.config.limits = limits → start.RunIn usage history world →
      ∀ actor ∈ world.actors, ∀ pending held,
        actor.script.MayEnd (some (.receive pending held)) →
        ∃ frames, held = Assembler.after { limits } frames := by
  intro assembler
  have typed : assembler.IsTyped := Assembler.Arises.typed ⟨earlier, rfl⟩
  refine ⟨fun message given => ?_, typed.push_final, ?_, ?_⟩
  · obtain ⟨kind, valid⟩ := typed.given given
    exact ⟨kind, fun isText => Message.text_of_valid (valid isText)⟩
  · intro setup message next isData kept pushed
    obtain ⟨kind, valid⟩ := typed.given (congrArg Prod.fst pushed)
    obtain ⟨event, tells⟩ := Message.tells_of_typed kind valid
    refine ⟨event, tells, ?_⟩
    rw [dispatch_data setup assembler isData kept, pushed]
    exact deliver_eq setup next tells
  · rintro start world history empty rfl run actor member pending held ends
    exact (serves_of_run empty run actor member).ending ends

/-- A connection is opened, and its receive loop is about to begin with nothing. -/
def listening : History × World :=
  play [0, 0] ([], ({ setup := {} } : World).addActor
    ⟨(proceed {} true []).bind fun _ => .done none, false⟩)

/-- A text that is cut within a character. -/
theorem delivers_typed_of_cut_character :
    let assembler := Assembler.after { limits := {} } [.of false .text [0xC3]]
    let frame : Frame := .of true .continuation [0xA9]
    (assembler.push frame).1 = .ok (some ⟨.text, [0xC3, 0xA9]⟩) ∧
      (∃ content, Message.text ⟨.text, [0xC3, 0xA9]⟩ = .ok content ∧ Utf8.encode content = [0xC3, 0xA9]) ∧
      (∃ event next, dispatch {} assembler frame =
        (notify {} event).bind fun _ => .done (some next)) ∧
      ∃ actor ∈ listening.2.actors, actor.script.MayEnd (some (.receive [] { limits := {} })) ∧
        ∃ frames, ({ limits := {} } : Assembler) = Assembler.after { limits := {} } frames := by
  intro assembler frame
  have pushed : assembler.push frame = (.ok (some ⟨.text, [0xC3, 0xA9]⟩), { limits := {} }) := by
    decide +kernel
  have given := congrArg Prod.fst pushed
  obtain ⟨typed, -, tells, runs⟩ := delivers_typed {} [.of false .text [0xC3]] frame
  obtain ⟨event, -, dispatched⟩ := tells {} _ _ rfl rfl pushed
  have run : RunIn usage { setup := {} } listening.1 listening.2 := by
    apply run_in_of_play
    exact .begin .refl (.opening true [])
  have loop : (⟨receive {} [] { limits := {} }, false⟩ : Actor) ∈ listening.2.actors :=
    List.mem_of_getElem? (i := 1) rfl
  have ends : (receive {} [] { limits := {} }).MayEnd (some (.receive [] { limits := {} })) :=
    .later false (.later (0 : Nat) (.later .timedOut .here))
  exact ⟨given, (typed _ given).2 rfl, ⟨event, _, dispatched⟩,
    _, loop, ends, runs _ _ _ rfl rfl run _ loop _ _ ends⟩

end World

end WebSocket
