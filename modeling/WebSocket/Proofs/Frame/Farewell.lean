import WebSocket.Proofs.Frame.Proper
import WebSocket.Proofs.Frame.Shortest
import WebSocket.Proofs.Text.Boundary

/-!
What a Close frame says, and back again. A frame made of a code and a reason is read as this
code with as much of the reason as there is room for, if the code may travel. A frame that
can be read is the one that is made of what it says.
-/

namespace WebSocket

namespace CloseCode

theorem is_valid_of_number (number : UInt16) :
    (ofNumber number).isValid = true ↔ Sendable number.toNat := by
  rw [isValid, number_of_number, decide_eq_true_iff]

end CloseCode

namespace Frame

/-- How much of a reason a Close frame has room for. -/
def maxReason : Nat := maxControlPayload - 2

theorem close_payload (number : UInt16) (reason : String) :
    (close (some number) reason).payload =
      BigEndian.encode 2 number.toNat ++ Utf8.encode (Utf8.cut maxReason reason) := rfl

theorem encode_number (number : UInt16) : ∃ high low, BigEndian.encode 2 number.toNat = [high, low] ∧
    UInt16.ofNat (BigEndian.decode [high, low]) = number := by
  have two : (BigEndian.encode 2 number.toNat).length = 2 := BigEndian.encode_length 2 _
  obtain ⟨high, low, pair⟩ := List.length_eq_two.mp two
  refine ⟨high, low, pair, ?_⟩
  rw [← pair, BigEndian.decode_encode 2 _ number.toNat_lt, UInt16.ofNat_toNat]

theorem close_valid (number : UInt16) (reason : String) :
    (close (some number) reason).validate = .ok () := by
  have cut := Utf8.encode_cut_length maxReason reason
  have short : (close (some number) reason).payload.length ≤ maxControlPayload := by
    rw [close_payload, List.length_append, BigEndian.encode_length]
    simp only [maxReason, maxControlPayload] at cut ⊢
    omega
  simpa [validate, close, of, Opcode.isControl] using short

theorem close_code_of_close (number : UInt16) (reason : String) :
    (close (some number) reason).closeCode = some (.ofNumber number) := by
  obtain ⟨high, low, pair, decoded⟩ := encode_number number
  rw [closeCode, close_payload, pair]
  change some (CloseCode.ofNumber (UInt16.ofNat (BigEndian.decode [high, low]))) = _
  rw [decoded]

theorem close_reason_of_close (number : UInt16) (reason : String) :
    (close (some number) reason).closeReason = .ok (Utf8.cut maxReason reason) := by
  have behind : (close (some number) reason).payload.drop 2 =
      Utf8.encode (Utf8.cut maxReason reason) := by
    rw [close_payload, List.drop_left' (BigEndian.encode_length 2 _)]
  rw [closeReason, behind, Utf8.decode_eq_some_iff.mpr rfl]
  split
  · rename_i nothing
    have short := nothing.resolve_left (fun other => other rfl)
    rw [close_payload, List.length_append, BigEndian.encode_length] at short
    have empty : Utf8.encode (Utf8.cut maxReason reason) = [] :=
      List.length_eq_zero_iff.mp (by omega)
    have blank : Utf8.encode "" = [] := rfl
    have same := Utf8.decode_eq_some_iff.mpr (empty.trans blank.symm).symm
    rw [blank, Utf8.decode_eq_some_iff.mpr blank.symm] at same
    rw [← Option.some.inj same]
  · rfl

theorem close_frame_of_close (number : UInt16) (reason : String) :
    (close (some number) reason).closeFrame =
      if CloseCode.Sendable number.toNat then
        .ok (some ⟨.ofNumber number, Utf8.cut maxReason reason⟩)
      else .error (.protocolViolation s!"Invalid close code {number}") := by
  obtain ⟨high, low, pair, -⟩ := encode_number number
  unfold closeFrame
  rw [close_payload, pair, close_code_of_close, close_reason_of_close]
  simp only [List.cons_append, Option.getD_some, CloseCode.number_of_number, Bool.not_eq_true',
    ← Bool.not_eq_true, CloseCode.is_valid_of_number, ite_not]
  rfl

theorem cons_of_encode_decode (high low : Byte) :
    BigEndian.encode 2 (UInt16.ofNat (BigEndian.decode [high, low])).toNat = [high, low] := by
  have bound := BigEndian.decode_lt [high, low]
  have whole : (UInt16.ofNat (BigEndian.decode [high, low])).toNat = BigEndian.decode [high, low] :=
    UInt16.toNat_ofNat_of_lt' (by simpa using bound)
  rw [whole]
  exact BigEndian.encode_decode [high, low]

theorem payload_of_close_frame {frame : Frame} {content : CloseFrame} (isClose : frame.opcode = .close)
    (read : frame.closeFrame = .ok (some content)) :
    frame.payload = BigEndian.encode 2 content.code.number.toNat ++ Utf8.encode content.reason := by
  unfold closeFrame at read
  split at read
  · cases read
  · cases read
  · rename_i notEmpty notOne
    obtain ⟨high, low, rest, whole⟩ : ∃ high low rest, frame.payload = high :: low :: rest := by
      match payload : frame.payload with
      | [] => exact absurd payload notEmpty
      | [byte] => exact absurd payload (notOne byte)
      | high :: low :: rest => exact ⟨high, low, rest, rfl⟩
    have code : frame.closeCode = some (.ofNumber (UInt16.ofNat (BigEndian.decode [high, low]))) := by
      simp [closeCode, isClose, whole]
    have reason : ∀ text, frame.closeReason = .ok text → rest = Utf8.encode text := by
      intro text said
      rw [closeReason, whole] at said
      split at said
      · rename_i nothing
        have empty : rest = [] := by simpa [isClose] using nothing
        rw [← Except.ok.inj said, empty]
        rfl
      · cases decoded : Utf8.decode rest with
        | none => simp [decoded] at said
        | some found =>
            simp [decoded] at said
            rw [← said]
            exact Utf8.decode_eq_some_iff.mp decoded
    rw [code] at read
    dsimp only at read
    split at read
    · cases read
    · cases said : frame.closeReason with
      | error failure => simp [said, bind, Except.bind] at read
      | ok text =>
          simp [said, bind, Except.bind] at read
          rw [← read, whole, reason text said, CloseCode.number_of_number, cons_of_encode_decode]
          rfl

theorem control_of_valid {frame : Frame} (isControl : frame.opcode.isControl = true)
    (valid : frame.validate = .ok ()) :
    frame = { of true frame.opcode frame.payload with mask := frame.mask } ∧
      frame.payload.length ≤ maxControlPayload := by
  obtain ⟨fin, rsv1, rsv2, rsv3, opcode, mask, payload⟩ := frame
  simp only at isControl
  cases fin <;> cases rsv1 <;> cases rsv2 <;> cases rsv3 <;>
    simp [validate, isControl, of] at valid ⊢
  exact valid

theorem close_of_close_frame {frame : Frame} {content : CloseFrame} (isClose : frame.opcode = .close)
    (valid : frame.validate = .ok ()) (read : frame.closeFrame = .ok (some content)) :
    close (some content.code.number) content.reason = { frame with mask := none } := by
  have whole := payload_of_close_frame isClose read
  have isControl : frame.opcode.isControl = true := by
    rw [isClose]
    rfl
  obtain ⟨shape, short⟩ := control_of_valid isControl valid
  have fits : (Utf8.encode content.reason).length ≤ maxReason := by
    rw [whole, List.length_append, BigEndian.encode_length] at short
    simp only [maxReason, maxControlPayload] at short ⊢
    omega
  have same : (close (some content.code.number) content.reason).payload = frame.payload := by
    rw [close_payload, Utf8.cut_of_fits fits, whole]
  calc close (some content.code.number) content.reason
      = of true .close (close (some content.code.number) content.reason).payload := rfl
    _ = { frame with mask := none } := by
      rw [same, shape, isClose]
      rfl

end Frame

end WebSocket
