import Mathlib.Data.List.Induction
import WebSocket.Proofs.Frame.Front
import WebSocket.Proofs.Frame.RoundTrip

/-!
Writing a frame that was read. It comes out under its own key and reads as itself again, and it has
the bytes that it was read from exactly if these spelled its size in the shortest way.
-/

namespace WebSocket

namespace BigEndian

theorem decode_lt (bytes : Bytes) : decode bytes < 256 ^ bytes.length := by
  induction bytes using List.reverseRecOn with
  | nil => decide
  | append_singleton bytes byte induction =>
      have digit := byte.toNat_lt
      rw [decode_append_byte, List.length_append, List.length_singleton, pow_succ]
      omega

theorem encode_decode (bytes : Bytes) : encode bytes.length (decode bytes) = bytes := by
  induction bytes using List.reverseRecOn with
  | nil => rfl
  | append_singleton bytes byte induction =>
      have digit := byte.toNat_lt
      have quotient : (decode bytes * 256 + byte.toNat) / 256 = decode bytes := by omega
      have remainder : UInt8.ofNat (decode bytes * 256 + byte.toNat) = byte := by
        apply UInt8.toNat_inj.mp
        rw [UInt8.toNat_ofNat']
        omega
      rw [decode_append_byte, List.length_append, List.length_singleton, encode, quotient, induction,
        remainder]

end BigEndian

namespace Frame

/-- A size can be spelled with so many bytes behind the second one. -/
inductive Spells : (width size : Nat) → Prop where
  | short {size : Nat} (bound : size ≤ 125) : Spells 0 size
  | medium {size : Nat} (bound : size < 256 ^ 2) : Spells 2 size
  | long {size : Nat} (bound : size < 256 ^ 8) : Spells 8 size

/-- So many bytes can spell the size, and no smaller number of them can. -/
def IsShortest (width size : Nat) : Prop :=
  Spells width size ∧ ∀ other, Spells other size → width ≤ other

theorem length_width_le {width size : Nat} (spells : Spells width size) : lengthWidth size ≤ width := by
  unfold lengthWidth
  cases spells with
  | short bound => rw [if_pos bound]
  | medium bound =>
      split
      · exact Nat.zero_le 2
      · rw [if_pos (by omega)]
  | long bound =>
      split
      · exact Nat.zero_le 8
      · split <;> decide

theorem spells_length_width {size : Nat} (small : size < sizeBound) : Spells (lengthWidth size) size := by
  unfold lengthWidth
  split
  · rename_i bound
    exact .short bound
  · split
    · rename_i bound
      exact .medium (by omega)
    · exact .long small

theorem is_shortest_iff {width size : Nat} (small : size < sizeBound) :
    IsShortest width size ↔ width = lengthWidth size := by
  constructor
  · intro shortest
    have most := shortest.2 _ (spells_length_width small)
    have least := length_width_le shortest.1
    omega
  · rintro rfl
    exact ⟨spells_length_width small, fun other spells => length_width_le spells⟩

/-- How many bytes the frame at the front of a buffer spells its size with, behind the second byte. -/
def sizeWidth (buffer : Bytes) : Nat :=
  match buffer with
  | _ :: second :: _ => Header.extendedWidth (second &&& 0x7F).toNat
  | _ => 0

theorem every_byte {motive : Byte → Prop} (table : ∀ number < 256, motive (UInt8.ofNat number))
    (byte : Byte) : motive byte := by
  have entry := table byte.toNat byte.toNat_lt
  rwa [UInt8.ofNat_toNat] at entry

theorem first_of_bits (first : Byte) : ∀ opcode ∈ Opcode.ofByte? (first &&& 0x0F),
    opcode.toByte ||| (if first &&& 0x80 != 0 then 0x80 else 0) |||
        (if first &&& 0x40 != 0 then 0x40 else 0) ||| (if first &&& 0x20 != 0 then 0x20 else 0) |||
        (if first &&& 0x10 != 0 then 0x10 else 0) = first := by
  induction first using every_byte with
  | table number bound =>
      revert number
      decide +kernel

theorem seven_bits_or (byte : Byte) :
    (byte &&& 0x7F) ||| (if byte &&& 0x80 != 0 then 0x80 else 0) = byte ∧
      (byte &&& 0x7F).toNat < 128 := by
  induction byte using every_byte with
  | table number bound =>
      revert number
      decide +kernel

theorem short_length_of_width {short size : Nat} (bound : short < 128)
    (width : Header.extendedWidth short = lengthWidth size)
    (own : lengthWidth size = 0 → short = size) : (shortLength size).toNat = short := by
  unfold shortLength
  unfold Header.extendedWidth at width
  unfold lengthWidth at width own
  by_cases small : size ≤ 125
  · rw [if_pos small] at own ⊢
    rw [UInt8.toNat_ofNat', own rfl]
    omega
  · rw [if_neg small] at width ⊢
    by_cases medium : size ≤ 65535
    · rw [if_pos medium] at width ⊢
      have read : short = 126 := by
        split at width
        · cases width
        · split at width
          · assumption
          · cases width
      rw [read]
      rfl
    · rw [if_neg medium] at width ⊢
      have read : short = 127 := by
        split at width
        · cases width
        · split at width
          · cases width
          · omega
      rw [read]
      rfl

namespace Front

variable (front : Front)

theorem size_width (behind : Bytes) :
    sizeWidth (front.bytes ++ behind) = front.sizeField.length := front.size_field_length.symm

theorem spells_declared : Spells front.sizeField.length front.declared := by
  have sized := front.size_field_length
  have decoded := BigEndian.decode_lt front.sizeField
  unfold declared
  unfold Header.extendedWidth at sized
  split at sized
  · rename_i short
    rw [sized, if_pos (List.length_eq_zero_iff.mp sized)]
    exact .short short
  · split at sized
    · rw [if_neg (List.ne_nil_of_length_pos (by omega)), sized]
      exact .medium (sized ▸ decoded)
    · rw [if_neg (List.ne_nil_of_length_pos (by omega)), sized]
      exact .long (sized ▸ decoded)

theorem second_of_shortest (shortest : front.sizeField.length = lengthWidth front.declared) :
    front.second = lengthByte front.declared front.isMasked := by
  obtain ⟨joined, bound⟩ := seven_bits_or front.second
  have own : lengthWidth front.declared = 0 → (front.second &&& 0x7F).toNat = front.declared := by
    intro none
    rw [← shortest] at none
    rw [declared, if_pos (List.length_eq_zero_iff.mp none)]
  have width := front.size_field_length.symm.trans shortest
  have short : shortLength front.declared = front.second &&& 0x7F :=
    UInt8.toNat_inj.mp (short_length_of_width bound width own)
  rw [lengthByte, short, isMasked]
  exact joined.symm

theorem bytes_of_shortest (shortest : front.sizeField.length = lengthWidth front.declared) :
    front.bytes = front.first :: lengthByte front.declared front.isMasked ::
      (BigEndian.encode (lengthWidth front.declared) front.declared ++ front.keyField) := by
  have spelled : front.sizeField = BigEndian.encode (lengthWidth front.declared) front.declared := by
    rw [← shortest]
    by_cases none : front.sizeField = []
    · rw [none]
      rfl
    · rw [declared, if_neg none, BigEndian.encode_decode]
  rw [bytes, ← front.second_of_shortest shortest, ← spelled]

theorem header_payload (behind : Bytes) : front.header.payload (front.bytes ++ behind) =
    front.key?.elim (behind.take front.declared) fun key => key.apply (behind.take front.declared) := by
  have carried : (front.bytes ++ behind).drop front.header.size = behind := List.drop_left
  have mask : front.header.mask = front.key? := rfl
  rw [Header.payload, carried, mask]
  cases front.key? with
  | none => rfl
  | some key => exact key.apply_words_eq_apply .little _

theorem header_payload_length {behind : Bytes} (enough : front.declared ≤ behind.length) :
    (front.header.payload (front.bytes ++ behind)).length = front.declared := by
  have taken : (behind.take front.declared).length = front.declared :=
    List.length_take_of_le enough
  rw [header_payload]
  cases front.key? with
  | none => exact taken
  | some key => exact (key.apply_length _).trans taken

end Front

/-- The payload of a whole frame, and where it was read from: its front, and then itself as it
travelled. -/
theorem origin_of_parse {options : ParseOptions} {buffer : Bytes} {frame : Frame} {consumed : Nat}
    (result : parse options buffer = .ok (.frame frame consumed)) :
    ∃ (front : Front) (behind : Bytes),
      buffer = front.bytes ++ (frame.carried frame.mask ++ behind) ∧
      consumed = front.bytes.length + front.declared ∧
      front.header.check options = .ok () ∧ front.first = frame.firstByte ∧
      frame.payload.length = front.declared ∧ frame.mask = front.key? := by
  unfold parse at result
  split at result
  · cases result
  · rename_i header headerRead
    obtain ⟨front, behind, rfl, rfl⟩ := Front.of_parse headerRead
    split at result
    · cases result
    · rename_i passed
      unfold Header.read at result
      split at result
      · cases result
      · rename_i whole
        split at result
        · cases result
        · rename_i opcode known
          have enough : front.declared ≤ behind.length := by
            rw [is_shorter_iff, List.length_append] at whole
            have size : front.header.size = front.bytes.length := rfl
            have payloadSize : front.header.payloadSize = front.declared := rfl
            omega
          have payload := front.header_payload behind
          have length := front.header_payload_length enough
          cases result
          refine ⟨front, behind.drop front.declared, ?_, rfl, passed, ?_, length, rfl⟩
          · have travelled : front.key?.elim (front.header.payload (front.bytes ++ behind))
                (fun key => key.apply (front.header.payload (front.bytes ++ behind))) =
                  behind.take front.declared := by
              rw [payload]
              cases front.key? with
              | none => rfl
              | some key => exact key.apply_apply _
            change _ = _ ++ (front.key?.elim _ _ ++ _)
            rw [travelled, List.take_append_drop]
          · exact (first_of_bits front.first opcode known).symm

theorem serialize_eq_fields (frame : Frame) (mask : Option MaskKey) :
    frame.serialize mask =
      frame.firstByte :: lengthByte frame.payload.length mask.isSome ::
        (BigEndian.encode (lengthWidth frame.payload.length) frame.payload.length ++
          (mask.elim [] MaskKey.toBytes ++ frame.carried mask)) := by
  have fields := frame.encode_eq_fields mask []
  rwa [List.append_nil, List.append_nil, ← serialize_eq_encode] at fields

theorem wire_size_le (front : Front) {frame : Frame} (payload : frame.payload.length = front.declared)
    (mask : frame.mask = front.key?) :
    frame.wireSize frame.mask.isSome ≤ front.bytes.length + front.declared := by
  have shorter := length_width_le front.spells_declared
  have keyed := front.key_field_length
  rw [mask, front.key_is_some, wireSize, payload, front.bytes_length, keyed, Front.isMasked]
  omega

theorem parse_own {options : ParseOptions} {frame : Frame} {front : Front}
    (passed : front.header.check options = .ok ()) (payload : frame.payload.length = front.declared)
    (mask : frame.mask = front.key?) :
    parse options (frame.serialize frame.mask) =
      .ok (.frame frame (frame.wireSize frame.mask.isSome)) := by
  obtain ⟨admitted, within, total⟩ := (front.header.check_ok_iff options).mp passed
  have shorter := wire_size_le front payload mask
  have small : frame.payload.length < sizeBound := by
    rw [payload]
    exact Nat.lt_of_le_of_lt (Nat.le_add_left _ _) total
  have passes : (frame.header frame.mask).check options = .ok () := by
    apply (Header.check_ok_iff _ _).mpr
    refine ⟨?_, ?_, ?_⟩
    · change options.maskPolicy.check front.key?.isSome = .ok () at admitted
      rw [← mask] at admitted
      exact admitted
    · change frame.payload.length ≤ options.maxFrameSize
      rw [payload]
      exact within
    · rw [header_total]
      exact Nat.lt_of_le_of_lt shorter total
  have headerRead := Header.parse_encode frame frame.mask small []
  have whole := Header.read_encode frame frame.mask []
  rw [List.append_nil] at headerRead whole
  rw [serialize_eq_encode, parse_of_header headerRead passes, whole]

/-- The bytes of a whole frame are those that are written exactly if its size is spelled in as many
bytes. -/
theorem serialize_eq_iff (front : Front) {frame : Frame} (first : front.first = frame.firstByte)
    (payload : frame.payload.length = front.declared) (mask : frame.mask = front.key?) :
    frame.serialize frame.mask = front.bytes ++ frame.carried frame.mask ↔
      front.sizeField.length = lengthWidth frame.payload.length := by
  constructor
  · intro same
    have lengths := congrArg List.length same
    have keyed := front.key_field_length
    have keys := front.key_is_some
    rw [serialize_length, wireSize, List.length_append, carried_length, front.bytes_length, mask, keys,
      Front.isMasked] at lengths
    omega
  · intro shortest
    rw [payload] at shortest
    rw [serialize_eq_fields, front.bytes_of_shortest shortest, first, payload, mask,
      front.key_is_some, front.key_bytes]
    simp only [List.cons_append, List.append_assoc]

/-- Reading a frame and writing it again under the key that it came with. The frame lies in the
buffer and takes at least its two first bytes; what is written reads as the same frame under the same
options and is never longer than what was read; and it is what was read exactly if that spelled the
size of the payload in the shortest way. -/
theorem serialize_parsed {options : ParseOptions} {buffer : Bytes} {frame : Frame} {consumed : Nat}
    (result : parse options buffer = .ok (.frame frame consumed)) :
    2 ≤ consumed ∧ consumed ≤ buffer.length ∧
      parse options (frame.serialize frame.mask) =
        .ok (.frame frame (frame.wireSize frame.mask.isSome)) ∧
      frame.wireSize frame.mask.isSome ≤ consumed ∧
      (frame.serialize frame.mask = buffer.take consumed ↔
        IsShortest (sizeWidth buffer) frame.payload.length) := by
  have bounds := (parse_consumed result).resolve_left nofun
  obtain ⟨front, behind, rfl, rfl, passed, first, payload, mask⟩ := origin_of_parse result
  have small : frame.payload.length < sizeBound := by
    have total := ((front.header.check_ok_iff options).mp passed).2.2
    rw [payload]
    exact Nat.lt_of_le_of_lt (Nat.le_add_left _ _) total
  have taken : (front.bytes ++ (frame.carried frame.mask ++ behind)).take
      (front.bytes.length + front.declared) = front.bytes ++ frame.carried frame.mask := by
    rw [← payload, ← carried_length frame frame.mask, ← List.length_append, ← List.append_assoc]
    exact List.take_left
  refine ⟨bounds.1, bounds.2, parse_own passed payload mask, wire_size_le front payload mask, ?_⟩
  rw [taken, serialize_eq_iff front first payload mask, is_shortest_iff small, front.size_width]

/-- One byte of payload, whose size is spelled in two bytes where the second byte would do. -/
theorem serialize_parsed_of_long_size :
    let frame : Frame := ⟨true, false, false, false, .binary, some ⟨1, 2, 3, 4⟩, [7]⟩
    parse {} [0x82, 0xFE, 0, 1, 1, 2, 3, 4, 6] = .ok (.frame frame 9) ∧
      parse {} (frame.serialize frame.mask) = .ok (.frame frame 7) ∧
      ¬IsShortest 2 1 ∧ frame.serialize frame.mask ≠ [0x82, 0xFE, 0, 1, 1, 2, 3, 4, 6] := by
  intro frame
  have result : parse {} [0x82, 0xFE, 0, 1, 1, 2, 3, 4, 6] = .ok (.frame frame 9) := by decide +kernel
  have long : ¬IsShortest 2 1 := fun shortest => by
    have least := shortest.2 0 (.short (by decide))
    omega
  obtain ⟨-, -, again, -, same⟩ := serialize_parsed result
  exact ⟨result, again, long, fun equal => long (same.mp equal)⟩

end Frame

end WebSocket
