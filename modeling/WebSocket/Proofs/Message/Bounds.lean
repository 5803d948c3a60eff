import WebSocket.Proofs.Frame.Chunks
import WebSocket.Proofs.Message.Reassembly

/-!
How much a reader has to keep. Bytes that wait for the rest of their frame are fewer than the
largest frame has, and an assembler never holds more bytes or fragments than one message may have,
whatever it is given and whether it takes it or not.
-/

namespace WebSocket

/-- Two bytes, eight for the size and four for the key. -/
def Frame.Header.largest : Nat := 14

namespace Frame

theorem Header.announced_size_le (second : Byte) : announcedSize second ≤ largest := by
  have width : extendedWidth (second &&& 0x7F).toNat ≤ 8 := by
    unfold extendedWidth
    split
    · omega
    split <;> omega
  unfold announcedSize largest
  split <;> omega

theorem Header.size_le {buffer : Bytes} {header : Header} (parsed : Header.parse buffer = .ok header) :
    header.size ≤ largest := by
  unfold Header.parse at parsed
  split at parsed
  · rename_i first second rest
    dsimp only at parsed
    split at parsed
    · cases parsed
    split at parsed
    · cases parsed
    · cases parsed
      exact announced_size_le second
  · cases parsed

theorem Header.length_of_missing {buffer : Bytes} {needed : Nat}
    (missing : Header.parse buffer = .error needed) : buffer.length < largest := by
  unfold Header.parse at missing
  split at missing
  · rename_i first second rest
    have announced := announced_size_le second
    dsimp only at missing
    split at missing
    · rename_i short
      rw [is_shorter_iff] at short
      unfold announcedSize at announced
      omega
    split at missing
    · rename_i short
      rw [is_shorter_iff] at short
      omega
    · cases missing
  · rename_i tiny
    cases buffer with
    | nil => decide
    | cons first rest =>
        cases rest with
        | nil => exact Nat.lt_of_sub_eq_succ rfl
        | cons second rest => exact absurd rfl (tiny first second rest)

theorem length_of_waits {options : ParseOptions} {pending : Bytes} (waits : Waits options pending) :
    pending.length < options.maxFrameSize + Header.largest := by
  obtain ⟨needed, result⟩ := waits
  unfold parse at result
  split at result
  · rename_i missing
    have short := Header.length_of_missing missing
    omega
  · rename_i header parsed
    have size := Header.size_le parsed
    split at result
    · cases result
    · rename_i passed
      have bounded : header.payloadSize ≤ options.maxFrameSize := by
        unfold Header.check at passed
        split at passed
        · cases passed
        split at passed
        · cases passed
        · omega
      have result := Except.ok.inj result
      unfold Header.read at result
      split at result
      · rename_i short
        rw [is_shorter_iff] at short
        omega
      · split at result <;> cases result

end Frame

namespace Assembler

variable {limits : Limits} {assembler : Assembler} {frame : Frame}

/-- The assembler holds no more than a part of one message, and nothing if none has begun. -/
structure IsWithin (limits : Limits) (assembler : Assembler) : Prop where
  small : assembler.buffer.length ≤ limits.messageSize
  few : assembler.fragmentCount ≤ limits.fragmentCount
  clear : assembler.opcode = none → assembler.buffer = [] ∧ assembler.fragmentCount = 0

theorem extend_fits (assembler : Assembler) (frame : Frame)
    (small : assembler.buffer.length ≤ assembler.limits.messageSize)
    (few : assembler.fragmentCount ≤ assembler.limits.fragmentCount) :
    let next := (assembler.extend frame).2
    next.buffer.length ≤ assembler.limits.messageSize ∧
      next.fragmentCount ≤ assembler.limits.fragmentCount := by
  unfold extend
  split
  · exact ⟨small, few⟩
  rename_i counted
  split
  · exact ⟨small, few⟩
  rename_i sized
  have count : assembler.fragmentCount + 1 ≤ assembler.limits.fragmentCount := by
    simpa [Limits.checkFragmentCount] using counted
  have size : (assembler.buffer ++ frame.payload).length ≤ assembler.limits.messageSize := by
    simpa [Limits.checkMessageSize] using sized
  dsimp only
  split
  · exact ⟨size, count⟩
  split
  · exact ⟨size, count⟩
  split
  · exact ⟨Nat.zero_le _, Nat.zero_le _⟩
  · exact ⟨Nat.zero_le _, Nat.zero_le _⟩

theorem extended_message (assembler : Assembler) {message : Message}
    (given : (assembler.extend frame).1 = .ok (some message)) :
    message.payload.length ≤ assembler.limits.messageSize := by
  unfold extend at given
  split at given
  · cases given
  split at given
  · cases given
  rename_i sized
  dsimp only at given
  split at given
  · cases given
  split at given
  · cases given
  split at given
  · cases given
  · cases given
    simpa [Limits.checkMessageSize] using sized

theorem push_cases (assembler : Assembler) (frame : Frame) :
    ((∀ message, (assembler.push frame).1 ≠ .ok (some message)) ∧ (assembler.push frame).2 = assembler) ∨
      ∃ opcode, assembler.push frame = { assembler with opcode }.extend frame := by
  unfold push
  split
  · exact .inl ⟨nofun, rfl⟩
  split
  · exact .inl ⟨nofun, rfl⟩
  · exact .inr ⟨assembler.opcode, rfl⟩
  · exact .inl ⟨nofun, rfl⟩
  · exact .inr ⟨some frame.opcode, rfl⟩

theorem push_fits (assembler : Assembler) (frame : Frame)
    (small : assembler.buffer.length ≤ assembler.limits.messageSize)
    (few : assembler.fragmentCount ≤ assembler.limits.fragmentCount) :
    let next := (assembler.push frame).2
    next.buffer.length ≤ assembler.limits.messageSize ∧
      next.fragmentCount ≤ assembler.limits.fragmentCount := by
  rcases push_cases assembler frame with ⟨-, same⟩ | ⟨opcode, extended⟩
  · rw [same]
    exact ⟨small, few⟩
  · rw [extended]
    exact extend_fits { assembler with opcode } frame small few

theorem pushed_message {message : Message} (given : (assembler.push frame).1 = .ok (some message)) :
    message.payload.length ≤ assembler.limits.messageSize := by
  rcases push_cases assembler frame with ⟨nothing, -⟩ | ⟨opcode, extended⟩
  · exact absurd given (nothing message)
  · rw [extended] at given
    exact extended_message { assembler with opcode } given

/-- It has been given some frames since it was new, and nothing else has changed it. -/
def Arises (limits : Limits) (assembler : Assembler) : Prop :=
  ∃ frames, assembler = after { limits } frames

theorem arises_new (limits : Limits) : Arises limits { limits } := ⟨[], rfl⟩

namespace Arises

theorem push (arises : assembler.Arises limits) (frame : Frame) :
    (assembler.push frame).2.Arises limits := by
  obtain ⟨frames, rfl⟩ := arises
  exact ⟨frames ++ [frame], (after_append _ frames [frame]).symm⟩

theorem own_limits (arises : assembler.Arises limits) : assembler.limits = limits := by
  obtain ⟨frames, rfl⟩ := arises
  have tidy : IsTidy limits (after { limits } frames) := tidy_after frames
  rcases tidy with clear | ⟨own, -⟩
  · rw [clear]
  · exact own

theorem within (arises : assembler.Arises limits) : assembler.IsWithin limits := by
  obtain ⟨frames, rfl⟩ := arises
  have fits : (after { limits } frames).buffer.length ≤ limits.messageSize ∧
      (after { limits } frames).fragmentCount ≤ limits.fragmentCount := by
    induction frames using List.reverseRecOn with
    | nil => exact ⟨Nat.zero_le _, Nat.zero_le _⟩
    | append_singleton frames frame induction =>
        have own : (after { limits } frames).limits = limits := own_limits ⟨frames, rfl⟩
        have fits := push_fits (after { limits } frames) frame
        rw [own] at fits
        rw [after_append]
        exact fits induction.1 induction.2
  refine ⟨fits.1, fits.2, fun idle => ?_⟩
  rw [clear_of_idle frames idle]
  exact ⟨rfl, rfl⟩

theorem message_fits (arises : assembler.Arises limits) {message : Message}
    (given : (assembler.push frame).1 = .ok (some message)) :
    message.payload.length ≤ limits.messageSize := by
  have fits := pushed_message given
  rwa [arises.own_limits] at fits

end Arises

end Assembler

end WebSocket
