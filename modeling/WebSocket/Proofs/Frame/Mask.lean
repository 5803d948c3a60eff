import Mathlib.Tactic.IntervalCases
import WebSocket.Frame.Mask

/-!
Masking word by word is masking byte by byte, in either byte order, and a key
undoes itself. The key repeats every four bytes, so a word of the payload
always meets the same word of the key.
-/

namespace WebSocket

namespace ByteOrder

theorem byte_eq_of_bits {left right : Byte}
    (same : ∀ place < 8, left.toBitVec.getLsbD place = right.toBitVec.getLsbD place) :
    left = right := by
  rw [← UInt8.toBitVec_inj]
  exact BitVec.eq_of_getLsbD_eq same

theorem unpack_pack_little (a b c d : Byte) : little.unpack (little.pack a b c d) = [a, b, c, d] := by
  simp only [unpack, pack, List.cons.injEq, and_true]
  refine ⟨?_, ?_, ?_, ?_⟩ <;>
  · apply byte_eq_of_bits
    intro place bound
    interval_cases place <;> simp

theorem unpack_pack (order : ByteOrder) (a b c d : Byte) :
    order.unpack (order.pack a b c d) = [a, b, c, d] := by
  cases order with
  | little => exact unpack_pack_little a b c d
  | big =>
      have reversed : big.unpack (big.pack a b c d) =
          (little.unpack (little.pack d c b a)).reverse := rfl
      rw [reversed, unpack_pack_little]
      rfl

theorem unpack_xor (order : ByteOrder) (first second : UInt32) :
    order.unpack (first ^^^ second) =
      List.zipWith (fun byte keyByte => byte ^^^ keyByte) (order.unpack first)
        (order.unpack second) := by
  have shifted (places : UInt32) : (first ^^^ second) >>> places =
      first >>> places ^^^ second >>> places := by
    rw [← UInt32.toBitVec_inj]
    simp [BitVec.ushiftRight_xor_distrib]
  cases order <;> simp [unpack, shifted]

end ByteOrder

namespace MaskKey

theorem byte_at_add_four (key : MaskKey) (index : Nat) : key.byteAt (index + 4) = key.byteAt index := by
  simp only [byteAt, Nat.add_mod_right]

theorem apply_length (key : MaskKey) (payload : Bytes) : (key.apply payload).length = payload.length := by
  simp [apply]

theorem apply_word (key : MaskKey) (a b c d : Byte) (rest : Bytes) :
    key.apply (a :: b :: c :: d :: rest) =
      [a ^^^ key.first, b ^^^ key.second, c ^^^ key.third, d ^^^ key.fourth] ++ key.apply rest := by
  simp only [apply, List.mapIdx_cons, List.cons_append, List.nil_append, List.cons.injEq]
  refine ⟨rfl, rfl, rfl, rfl, ?_⟩
  congr 1
  funext index byte
  rw [← byte_at_add_four key index]

theorem apply_words_eq_apply (order : ByteOrder) (key : MaskKey) (payload : Bytes) :
    key.applyWords order payload = key.apply payload := by
  induction payload using applyWords.induct with
  | case1 a b c d rest induction =>
      rw [applyWords, ByteOrder.unpack_xor, ByteOrder.unpack_pack, ByteOrder.unpack_pack, induction,
        apply_word]
      rfl
  | case2 remainder short =>
      -- At most three bytes are left, and each meets the key byte of its own place.
      match remainder, short with
      | [], _ => rfl
      | [_], _ => rfl
      | [_, _], _ => rfl
      | [_, _, _], _ => rfl
      | _ :: _ :: _ :: _ :: _, short => exact absurd rfl (short _ _ _ _ _)

theorem apply_apply (key : MaskKey) (payload : Bytes) : key.apply (key.apply payload) = payload := by
  apply List.ext_getElem
  · simp only [apply_length]
  · intro index _ _
    simp only [apply, List.getElem_mapIdx, UInt8.xor_assoc, UInt8.xor_self, UInt8.xor_zero]

theorem of_bytes_to_bytes (key : MaskKey) (rest : Bytes) : ofBytes? (key.toBytes ++ rest) = some key := rfl

theorem apply_get (key : MaskKey) (payload : Bytes) (place : Nat) :
    (key.apply payload)[place]? = payload[place]?.map (· ^^^ key.byteAt place) := by
  rw [apply, List.getElem?_mapIdx]

/-- Whether a payload is masked byte by byte, or word by word on a machine of either byte order, each
byte meets the key byte of its own place. So whoever masks has the payload back after masking once
more with the same key, in the same way or in another one. -/
theorem every_way_masks_alike (key : MaskKey) (payload : Bytes) (order other : ByteOrder) :
    key.applyWords order payload = key.apply payload ∧
      (∀ place, (key.applyWords order payload)[place]? =
        payload[place]?.map (· ^^^ key.byteAt place)) ∧
      key.apply (key.apply payload) = payload ∧
      key.apply (key.applyWords order payload) = payload ∧
      key.applyWords order (key.apply payload) = payload ∧
      key.applyWords other (key.applyWords order payload) = payload := by
  rw [key.apply_words_eq_apply order payload, key.apply_words_eq_apply order (key.apply payload),
    key.apply_words_eq_apply other (key.apply payload)]
  have back := key.apply_apply payload
  exact ⟨rfl, key.apply_get payload, back, back, back, back⟩

/-- One word and a rest of one byte, masked on machines of different byte orders. -/
example : MaskKey.applyWords .big ⟨0x37, 0xfa, 0x21, 0x3d⟩
    (MaskKey.applyWords .little ⟨0x37, 0xfa, 0x21, 0x3d⟩ [0x48, 0x65, 0x6c, 0x6c, 0x6f]) =
      [0x48, 0x65, 0x6c, 0x6c, 0x6f] := by decide

end MaskKey

end WebSocket
