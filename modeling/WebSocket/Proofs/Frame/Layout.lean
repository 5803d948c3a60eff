import Mathlib.Algebra.Group.Nat.Even
import WebSocket.Frame.Write
import WebSocket.Proofs.Frame.Mask

/-!
What a written frame looks like. `write` fills its buffer from the front, piece
after piece, so that a buffer with enough room ends up as the frame's form on
the wire followed by what stood behind it.
-/

namespace WebSocket

namespace BigEndian

theorem decode_append_byte (bytes : Bytes) (byte : Byte) :
    decode (bytes ++ [byte]) = decode bytes * 256 + byte.toNat := by
  simp [decode, List.foldl_append]

theorem decode_encode (width value : Nat) (fits : value < 256 ^ width) :
    decode (encode width value) = value := by
  induction width generalizing value with
  | zero =>
      rw [pow_zero] at fits
      simp only [encode, decode, List.foldl_nil]
      omega
  | succ width induction =>
      have quotient : value / 256 < 256 ^ width := by
        rw [pow_succ] at fits
        exact Nat.div_lt_of_lt_mul (by rwa [Nat.mul_comm] at fits)
      rw [encode, decode_append_byte, induction _ quotient, UInt8.toNat_ofNat']
      omega

end BigEndian

namespace Bytes

theorem splice_behind (front buffer bytes : Bytes) :
    (front ++ buffer.drop front.length).splice front.length bytes =
      (front ++ bytes) ++ buffer.drop (front ++ bytes).length := by
  simp only [splice, List.take_left, List.length_append, List.drop_append, List.drop_drop]
  rw [List.drop_eq_nil_of_le (Nat.le_add_right _ _), Nat.add_sub_cancel_left, List.nil_append]

theorem splice_over (front back : Bytes) {old new : Bytes} (same : new.length = old.length) :
    (front ++ old ++ back).splice front.length new = front ++ new ++ back := by
  have behind : (front ++ old ++ back).drop (front.length + old.length) = back := by
    rw [← List.length_append]
    exact List.drop_left
  rw [splice, same, behind, List.append_assoc front, List.take_left]

end Bytes

namespace Frame

variable (frame : Frame) (mask : Option MaskKey)

/-- The two fixed bytes and the longer length. -/
def opening (masked : Bool) : Bytes :=
  [frame.firstByte, frame.secondByte masked] ++
    BigEndian.encode (lengthWidth frame.payload.length) frame.payload.length

def prelude : Bytes := frame.opening mask.isSome ++ mask.elim [] MaskKey.toBytes

def carried : Bytes := mask.elim frame.payload fun key => key.apply frame.payload

theorem opening_length (masked : Bool) :
    (frame.opening masked).length = 2 + lengthWidth frame.payload.length := by
  simp [opening, BigEndian.encode_length]
  omega

theorem prelude_length :
    (frame.prelude mask).length =
      2 + lengthWidth frame.payload.length + if mask.isSome then 4 else 0 := by
  cases mask <;> simp [prelude, opening_length, MaskKey.toBytes]

theorem carried_length : (frame.carried mask).length = frame.payload.length := by
  cases mask with
  | none => rfl
  | some key => exact key.apply_length frame.payload

theorem encode_eq_prelude : frame.encode mask = frame.prelude mask ++ frame.carried mask := by
  cases mask <;> simp [encode, prelude, opening, carried]

theorem encode_length : (frame.encode mask).length = frame.wireSize mask.isSome := by
  rw [encode_eq_prelude, List.length_append, prelude_length, carried_length, wireSize]

theorem splice_opening (masked : Bool) (buffer : Bytes) :
    (buffer.splice 0 [frame.firstByte, frame.secondByte masked]).splice 2
        (BigEndian.encode (lengthWidth frame.payload.length) frame.payload.length) =
      frame.opening masked ++ buffer.drop (frame.opening masked).length := by
  have headed := Bytes.splice_behind [] buffer [frame.firstByte, frame.secondByte masked]
  simp only [List.length_nil, List.drop_zero, List.nil_append] at headed
  rw [headed]
  exact Bytes.splice_behind [frame.firstByte, frame.secondByte masked] buffer _

theorem write_eq (buffer : Bytes) (room : frame.wireSize mask.isSome ≤ buffer.length) :
    frame.write mask buffer =
      (.ok (frame.wireSize mask.isSome),
        frame.encode mask ++ buffer.drop (frame.wireSize mask.isSome)) := by
  rw [write, if_neg (by omega)]
  dsimp only
  rw [splice_opening, ← frame.opening_length mask.isSome, ← encode_length]
  cases mask with
  | none =>
      dsimp only
      rw [Bytes.splice_behind, encode_eq_prelude, prelude, Option.elim_none, List.append_nil]
      rfl
  | some key =>
      have keyed : (frame.opening true ++ key.toBytes).length = (frame.opening true).length + 4 := by
        simp [MaskKey.toBytes]
      dsimp only [Option.isSome_some]
      rw [Bytes.splice_behind, ← keyed, Bytes.splice_behind, List.append_assoc _ frame.payload,
        List.drop_left, List.take_left, ← List.append_assoc,
        Bytes.splice_over _ _ (key.apply_length frame.payload), encode_eq_prelude]
      simp [prelude, carried, key.apply_length]

theorem serialize_eq_encode : frame.serialize mask = frame.encode mask := by
  have room : frame.wireSize mask.isSome ≤
      (List.replicate (frame.wireSize mask.isSome) (0 : Byte)).length := by
    rw [List.length_replicate]
  rw [serialize, frame.write_eq mask _ room]
  dsimp only
  rw [← encode_length, List.take_left]

theorem serialize_length : (frame.serialize mask).length = frame.wireSize mask.isSome := by
  rw [serialize_eq_encode, encode_length]

end Frame

end WebSocket
