import WebSocket.Text.Utf8

/-!
The bytes of a text, character by character. A byte of the ASCII range always stands for
the character of its number: no longer character has such a byte in it.
-/

namespace WebSocket.Utf8

theorem encode_append (first second : String) :
    encode (first ++ second) = encode first ++ encode second := by
  rw [encode, String.toByteArray_append, ByteArray.toList_data_append]
  rfl

theorem encode_eq_flat_map (text : String) :
    encode text = text.toList.flatMap String.utf8EncodeChar := by
  calc encode text = encode (String.ofList text.toList) := by rw [String.ofList_toList]
    _ = text.toList.flatMap String.utf8EncodeChar := by
      rw [encode, String.toByteArray_ofList]
      exact List.toList_data_toByteArray

theorem encode_cut_length (room : Nat) (text : String) : (encode (cut room text)).length ≤ room := by
  rw [encode_eq_flat_map, cut, String.toList_ofList]
  generalize text.toList = characters
  induction characters generalizing room with
  | nil => exact Nat.zero_le room
  | cons character rest induction =>
      rw [fitting]
      split
      · rename_i fits
        have behind := induction (room - character.utf8Size)
        rw [List.flatMap_cons, List.length_append, String.length_utf8EncodeChar]
        omega
      · exact Nat.zero_le room

theorem mem_encode_char {byte : Byte} (ascii : byte.toNat < 128) (character : Char) :
    byte ∈ String.utf8EncodeChar character ↔ character.toNat = byte.toNat := by
  have numbered (value : Nat) : byte = UInt8.ofNat value ↔ byte.toNat = value % 256 := by
    rw [← UInt8.toNat_inj, UInt8.toNat_ofNat']
  change _ ↔ character.val.toNat = byte.toNat
  -- every byte of a longer character is at least 128
  fun_cases String.utf8EncodeChar character <;>
    simp only [List.mem_cons, List.not_mem_nil, or_false, numbered] <;> omega

theorem mem_encode_iff {byte : Byte} (ascii : byte.toNat < 128) (text : String) :
    byte ∈ encode text ↔ ∃ character ∈ text.toList, character.toNat = byte.toNat := by
  simp only [encode_eq_flat_map, List.mem_flatMap, mem_encode_char ascii]

end WebSocket.Utf8
