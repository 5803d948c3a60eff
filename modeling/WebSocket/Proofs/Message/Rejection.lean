import WebSocket.Proofs.Message.Reassembly

/-!
Frames that an assembler refuses, because they come out of turn or because their message would
have too many fragments or bytes. A refused frame leaves the assembler as it was, unless it would
have been the first of its message. Such a frame leaves the mark that a message of its kind has
begun, so that all frames behind it are judged as parts of a message without its first fragment.
-/

namespace WebSocket.Assembler

/-- The answers that refuse a frame, but do not find fault with a whole text. -/
inductive Refuses : Except Error (Option Message) → Prop where
  | outOfTurn (reason : String) : Refuses (.error (.protocolViolation reason))
  | tooMany (count max : Nat) : Refuses (.error (.tooManyFragments count max))
  | tooLarge (size max : Nat) : Refuses (.error (.messageTooLarge size max))

def IsFirst (assembler : Assembler) (frame : Frame) : Prop :=
  assembler.opcode = none ∧ frame.opcode ≠ .continuation

instance (assembler : Assembler) (frame : Frame) : Decidable (assembler.IsFirst frame) :=
  inferInstanceAs (Decidable (_ ∧ _))

/-- What a refused frame leaves behind. -/
def withMark (assembler : Assembler) (frame : Frame) : Assembler :=
  if assembler.IsFirst frame then { assembler with opcode := some frame.opcode } else assembler

variable {assembler : Assembler} {frame : Frame}

theorem extend_of_refused (refused : Refuses (assembler.extend frame).1) :
    (assembler.extend frame).2 = assembler := by
  unfold extend at refused ⊢
  split at refused
  · rfl
  split at refused
  · rfl
  dsimp only at refused ⊢
  split at refused
  · cases refused
  split at refused
  · cases refused
  split at refused
  · cases refused
  · cases refused

section

variable {kind : Opcode}

theorem push_begun (begun : assembler.opcode = some kind) (isData : frame.opcode.isControl = false) :
    assembler.push frame =
      if frame.opcode = .continuation then assembler.extend frame
      else (.error (.protocolViolation "Expected continuation frame"), assembler) := by
  cases opcode : frame.opcode with
  | continuation | text | binary => simp [push, opcode, begun, Opcode.isControl]
  | _ =>
      rw [opcode] at isData
      cases isData

theorem push_idle (idle : assembler.opcode = none) (isData : frame.opcode.isControl = false) :
    assembler.push frame =
      if frame.opcode = .continuation then
        (.error (.protocolViolation "Unexpected continuation frame"), assembler)
      else { assembler with opcode := some frame.opcode }.extend frame := by
  cases opcode : frame.opcode with
  | continuation | text | binary => simp [push, opcode, idle, Opcode.isControl]
  | _ =>
      rw [opcode] at isData
      cases isData

/-- A frame that is refused changes nothing but the mark of a message that it would begin. -/
theorem push_of_refused (refused : Refuses (assembler.push frame).1) :
    (assembler.push frame).2 = assembler.withMark frame := by
  cases isData : frame.opcode.isControl with
  | true =>
      rw [push_control assembler isData] at refused
      cases refused
  | false =>
      by_cases continues : frame.opcode = .continuation
      · have unmarked : assembler.withMark frame = assembler := by simp [withMark, IsFirst, continues]
        rw [unmarked]
        cases known : assembler.opcode with
        | none => rw [push_idle known isData, if_pos continues]
        | some kind =>
            rw [push_begun known isData, if_pos continues] at refused ⊢
            exact extend_of_refused refused
      · cases known : assembler.opcode with
        | none =>
            rw [push_idle known isData, if_neg continues] at refused ⊢
            rw [extend_of_refused refused, withMark, if_pos ⟨known, continues⟩]
        | some kind =>
            rw [push_begun known isData, if_neg continues]
            simp [withMark, IsFirst, known]

theorem extend_last (begun : assembler.opcode = some kind) (fin : frame.fin = true)
    (few : assembler.fragmentCount + 1 ≤ assembler.limits.fragmentCount)
    (small : (assembler.buffer ++ frame.payload).length ≤ assembler.limits.messageSize)
    (sound : kind = .text → Utf8.isValid (assembler.buffer ++ frame.payload) = true) :
    (assembler.extend frame).1 = .ok (some ⟨kind, assembler.buffer ++ frame.payload⟩) := by
  have counted : assembler.limits.checkFragmentCount (assembler.fragmentCount + 1) = .ok () := by
    rw [Limits.checkFragmentCount, if_neg (Nat.not_lt.mpr few)]
  have sized : assembler.limits.checkMessageSize
      (assembler.buffer.length + frame.payload.length) = .ok () := by
    simpa [Limits.checkMessageSize] using small
  have valid : ¬(kind = .text ∧ ¬Utf8.isValid (assembler.buffer ++ frame.payload)) := by
    rintro ⟨isText, broken⟩
    exact broken (sound isText)
  simp only [extend, counted, sized, fin, begun, Bool.not_true, Bool.false_eq_true, if_false]
  rw [if_neg valid]

end

theorem answer_tells_begun (frame : Frame) (continues : frame.opcode = .continuation)
    {idle begun : Assembler} (isIdle : idle.opcode = none) {kind : Opcode}
    (hasBegun : begun.opcode = some kind) : (begun.push frame).1 ≠ (idle.push frame).1 := by
  have isData : frame.opcode.isControl = false := by
    rw [continues]
    rfl
  rw [push_begun hasBegun isData, push_idle isIdle isData, if_pos continues, if_pos continues]
  unfold extend
  split
  · rename_i failure failed
    unfold Limits.checkFragmentCount at failed
    split at failed
    · cases failed
      simp
    · cases failed
  split
  · rename_i failure failed
    unfold Limits.checkMessageSize at failed
    split at failed
    · cases failed
      simp
    · cases failed
  dsimp only
  split
  · simp
  split
  · simp
  split
  · simp
  · simp

/-- Whatever an assembler has been given before, a frame that it refuses changes neither what it
holds nor the number of fragments. All frames behind a refused one are answered as if it had never
been there, exactly if it would not have begun a message. If it would, then the message counts as
begun: other data frames are out of turn until a final continuation has come, and with that one
the message is given back without its first fragment. -/
theorem refused_frame (limits : Limits) (earlier : List Frame) (frame : Frame)
    (refused : Refuses ((after { limits } earlier).push frame).1) :
    let assembler := after { limits } earlier
    let next := (assembler.push frame).2
    next = { assembler with opcode := next.opcode } ∧
      (next = assembler ↔ ¬assembler.IsFirst frame) ∧
      ((∀ later, next.answers later = assembler.answers later) ↔ ¬assembler.IsFirst frame) ∧
      (assembler.IsFirst frame →
        next = ⟨limits, some frame.opcode, [], 0⟩ ∧
          ∀ other, other.opcode.isControl = false →
            (other.opcode ≠ .continuation →
              next.push other = (.error (.protocolViolation "Expected continuation frame"), next)) ∧
            (other.opcode = .continuation → other.fin = true → 1 ≤ limits.fragmentCount →
              other.payload.length ≤ limits.messageSize →
              (frame.opcode = .text → Utf8.isValid other.payload = true) →
              (next.push other).1 = .ok (some ⟨frame.opcode, other.payload⟩))) := by
  intro assembler next
  have left : next = assembler.withMark frame := push_of_refused refused
  by_cases first : assembler.IsFirst frame
  · have marked : next = { assembler with opcode := some frame.opcode } := by
      rw [left, withMark, if_pos first]
    have begun : next.opcode = some frame.opcode := by rw [marked]
    have clear : assembler = { limits } := clear_of_idle earlier first.1
    refine ⟨by rw [begun, marked], ?_, ?_, fun _ => ⟨?_, fun other isData => ⟨?_, ?_⟩⟩⟩
    · refine iff_of_false (fun same => ?_) (not_not_intro first)
      rw [same, first.1] at begun
      cases begun
    · refine iff_of_false (fun same => ?_) (not_not_intro first)
      have answers := same [.of true .continuation []]
      exact answer_tells_begun (.of true .continuation []) rfl first.1 begun (List.cons.inj answers).1
    · rw [marked, clear]
    · intro other
      rw [push_begun begun isData, if_neg other]
    · intro continues fin few small sound
      rw [push_begun begun isData, if_pos continues]
      rw [marked, clear] at begun ⊢
      exact extend_last begun fin few small sound
  · have same : next = assembler := by rw [left, withMark, if_neg first]
    refine ⟨by rw [same], iff_of_true same first, iff_of_true (fun later => ?_) first,
      fun isFirst => absurd isFirst first⟩
    rw [same]

/-- A continuation that would make its message too large, behind a text that was taken. -/
theorem refused_frame_of_large_continuation :
    let limits : Limits := { messageSize := 3 }
    let assembler := after { limits } [.text "a", .of false .binary [1, 2]]
    let next := (assembler.push (.of true .continuation [3, 4])).2
    Refuses (assembler.push (.of true .continuation [3, 4])).1 ∧
      next.answers [.of true .continuation [3]] = [.ok (some ⟨.binary, [1, 2, 3]⟩)] := by
  intro limits assembler next
  have answer : (assembler.push (.of true .continuation [3, 4])).1 = .error (.messageTooLarge 4 3) := by
    decide +kernel
  have refused : Refuses (assembler.push (.of true .continuation [3, 4])).1 := by
    rw [answer]
    exact .tooLarge 4 3
  obtain ⟨-, -, same, -⟩ := refused_frame limits _ (.of true .continuation [3, 4]) refused
  refine ⟨refused, (same.mpr (by decide) _).trans ?_⟩
  decide +kernel

/-- A first frame of four bytes where three are allowed is refused, and yet the text behind it is
out of turn, and a continuation behind that is given back as the whole of the refused message.
Without the refused frame the text is given back, and the continuation is out of turn. -/
theorem not_refused_without_trace :
    let limits : Limits := { messageSize := 3 }
    let behind : List Frame := [.text "a", .of true .continuation [5]]
    answers { limits } (.binary [1, 2, 3, 4] :: behind) =
        [.error (.messageTooLarge 4 3), .error (.protocolViolation "Expected continuation frame"),
          .ok (some ⟨.binary, [5]⟩)] ∧
      answers { limits } behind =
        [.ok (some ⟨.text, [97]⟩), .error (.protocolViolation "Unexpected continuation frame")] ∧
      ¬∀ (limits : Limits) (earlier : List Frame) (frame : Frame),
        Refuses ((after { limits } earlier).push frame).1 →
        ((after { limits } earlier).push frame).2 = after { limits } earlier := by
  intro limits behind
  refine ⟨by decide +kernel, by decide +kernel, fun unchanged => ?_⟩
  have same := unchanged limits [] (.binary [1, 2, 3, 4]) (.tooLarge 4 3)
  exact absurd same (by decide)

end WebSocket.Assembler
