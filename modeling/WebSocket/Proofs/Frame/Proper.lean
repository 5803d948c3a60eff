import WebSocket.Error
import WebSocket.Proofs.Frame.RoundTrip
import WebSocket.Proofs.Text.Encoding

/-!
Frames that may be sent. They keep to the rules for all frames, and a Close frame says nothing or
gives a code that may travel, with a text behind it. On the wire they are masked.
-/

namespace WebSocket

/-- What the payload of a Close frame may be. -/
inductive IsFarewell : Bytes → Prop where
  | nothing : IsFarewell []
  | code (number : Nat) (reason : String) (sendable : CloseCode.Sendable number) :
      IsFarewell (BigEndian.encode 2 number ++ Utf8.encode reason)

namespace Frame

structure IsProper (frame : Frame) : Prop where
  valid : frame.validate = .ok ()
  farewell : frame.opcode = .close →
    IsFarewell frame.payload ∧ frame.payload.length ≤ maxControlPayload

theorem proper_of_valid {frame : Frame} (valid : frame.validate = .ok ())
    (other : frame.opcode ≠ .close) : frame.IsProper := ⟨valid, fun isClose => absurd isClose other⟩

theorem proper_pong {payload : Bytes} (short : payload.length ≤ maxControlPayload) :
    (pong payload).IsProper := by
  apply proper_of_valid
  · simpa [validate, pong, of, Opcode.isControl] using short
  · exact nofun

theorem proper_close {code : Option UInt16} (reason : String)
    (sendable : ∀ number ∈ code, CloseCode.Sendable number.toNat) : (close code reason).IsProper := by
  have short : (close code reason).payload.length ≤ maxControlPayload := by
    cases code with
    | none => exact Nat.zero_le _
    | some number =>
        have cut := Utf8.encode_cut_length (maxControlPayload - 2) reason
        have room : 2 ≤ maxControlPayload := by decide
        simp only [close, of, List.length_append, BigEndian.encode_length]
        omega
  refine ⟨?_, fun _ => ⟨?_, short⟩⟩
  · simpa [validate, close, of, Opcode.isControl] using short
  · cases code with
    | none => exact .nothing
    | some number => exact .code number.toNat _ (sendable number rfl)

theorem sendable_of_close_frame {frame : Frame} {content : Option CloseFrame}
    (read : frame.closeFrame = .ok content) : ∀ close ∈ content, close.code.isValid = true := by
  rintro close ⟨⟩
  unfold closeFrame at read
  split at read
  · cases read
  · cases read
  · dsimp only at read
    split at read
    · cases read
    · rename_i sendable
      cases reason : frame.closeReason with
      | error failure =>
          rw [reason] at read
          cases read
      | ok text =>
          rw [reason] at read
          cases read
          simpa using sendable

/-- The content is a frame that may be sent, under some key. -/
def Sends (content : Bytes) : Prop :=
  ∃ (frame : Frame) (key : MaskKey), frame.IsProper ∧ content = frame.serialize (some key)

theorem masked_serialize (frame : Frame) (key : MaskKey) :
    ∃ first second rest, frame.serialize (some key) = first :: second :: rest ∧
      (second &&& 0x80 != 0) = true := by
  have fields := frame.encode_eq_fields (some key) []
  rw [List.append_nil] at fields
  refine ⟨_, _, _, (frame.serialize_eq_encode (some key)).trans fields, ?_⟩
  exact length_byte_masked frame.payload.length true

end Frame

theorem Error.sendable_close_code (failure : Error) : CloseCode.Sendable failure.closeCode.toNat := by
  have codes : failure.closeCode = 1007 ∨ failure.closeCode = 1009 ∨ failure.closeCode = 1002 := by
    cases failure <;> simp [closeCode]
  rcases codes with code | code | code <;> rw [code] <;> decide

end WebSocket
