import WebSocket.Proofs.Frame.Verdict

/-!
The front of a frame: the bytes before its payload. A buffer has a readable header exactly if it
begins with a front, and the header says no more than the front does.
-/

namespace WebSocket.Frame

theorem Header.check_ok_iff (header : Header) (options : ParseOptions) :
    header.check options = .ok () ↔
      options.maskPolicy.check header.mask.isSome = .ok () ∧
        header.payloadSize ≤ options.maxFrameSize ∧ header.size + header.payloadSize < sizeBound := by
  unfold check
  cases options.maskPolicy.check header.mask.isSome with
  | error failure => simp
  | ok _ =>
      dsimp only
      split
      · rename_i large
        exact ⟨nofun, fun passes => absurd passes.2.1 (Nat.not_le_of_gt large)⟩
      · rename_i within
        split
        · rename_i total
          exact ⟨nofun, fun passes => absurd passes.2.2 (Nat.not_lt_of_ge total)⟩
        · rename_i total
          exact iff_of_true rfl ⟨rfl, Nat.le_of_not_lt within, Nat.lt_of_not_ge total⟩

/-- Two fixed bytes, and the longer size and the key as far as the second byte announces them. -/
structure Front where
  first : Byte
  second : Byte
  sizeField : Bytes
  keyField : Bytes
  size_field_length : sizeField.length = Header.extendedWidth (second &&& 0x7F).toNat
  key_field_length : keyField.length = if second &&& 0x80 != 0 then 4 else 0

namespace Front

variable (front : Front)

def bytes : Bytes := front.first :: front.second :: (front.sizeField ++ front.keyField)

def isMasked : Bool := front.second &&& 0x80 != 0

/-- The size of the payload that the front declares. -/
def declared : Nat :=
  if front.sizeField = [] then (front.second &&& 0x7F).toNat else BigEndian.decode front.sizeField

def key? : Option MaskKey := if front.isMasked then MaskKey.ofBytes? front.keyField else none

def header : Header where
  fin := front.first &&& 0x80 != 0
  rsv1 := front.first &&& 0x40 != 0
  rsv2 := front.first &&& 0x20 != 0
  rsv3 := front.first &&& 0x10 != 0
  opcode := front.first &&& 0x0F
  mask := front.key?
  payloadSize := front.declared
  size := front.bytes.length

theorem bytes_length :
    front.bytes.length = 2 + front.sizeField.length + front.keyField.length := by
  simp only [bytes, List.length_cons, List.length_append]
  omega

theorem announced_size : Header.announcedSize front.second = front.bytes.length := by
  rw [bytes_length, front.size_field_length, front.key_field_length, Header.announcedSize]

theorem key_read (behind : Bytes) :
    (if front.second &&& 0x80 != 0 then MaskKey.ofBytes? (front.keyField ++ behind) else none) =
      front.key? := by
  have keyed := front.key_field_length
  unfold key? isMasked
  split
  · rename_i masked
    rw [if_pos masked] at keyed
    exact MaskKey.of_bytes_append (Nat.le_of_eq keyed.symm) behind
  · rfl

theorem key_is_some : front.key?.isSome = front.isMasked := by
  have keyed := front.key_field_length
  unfold key? isMasked
  split
  · rename_i masked
    rw [if_pos masked] at keyed
    match front.keyField, keyed with
    | [_, _, _, _], _ => exact masked.symm
  · rename_i unmasked
    exact (Bool.eq_false_iff.mpr unmasked).symm

theorem key_bytes : front.key?.elim [] MaskKey.toBytes = front.keyField := by
  have keyed := front.key_field_length
  unfold key? isMasked
  split
  · rename_i masked
    rw [if_pos masked] at keyed
    match front.keyField, keyed with
    | [_, _, _, _], _ => rfl
  · rename_i unmasked
    rw [if_neg unmasked] at keyed
    exact (List.length_eq_zero_iff.mp keyed).symm

theorem parse_bytes (behind : Bytes) : Header.parse (front.bytes ++ behind) = .ok front.header := by
  have sized := front.size_field_length
  have length := front.bytes_length
  have announced := front.announced_size
  have whole : (front.bytes ++ behind).length = front.bytes.length + behind.length :=
    List.length_append
  have shape : front.bytes ++ behind =
      front.first :: front.second :: (front.sizeField ++ (front.keyField ++ behind)) := by
    simp only [bytes, List.cons_append, List.append_assoc]
  have spelled : (front.sizeField ++ (front.keyField ++ behind)).take front.sizeField.length =
      front.sizeField := List.take_left
  have keyed : (front.sizeField ++ (front.keyField ++ behind)).drop front.sizeField.length =
      front.keyField ++ behind := List.drop_left
  rw [shape] at whole ⊢
  simp only [Header.parse, announced, ← sized]
  rw [if_neg (by rw [is_shorter_iff]; omega), if_neg (by rw [is_shorter_iff]; omega), spelled, keyed,
    front.key_read]
  simp only [header, declared, List.length_eq_zero_iff]

theorem of_parse {buffer : Bytes} {header : Header} (parsed : Header.parse buffer = .ok header) :
    ∃ (front : Front) (behind : Bytes), buffer = front.bytes ++ behind ∧ header = front.header := by
  match buffer, parsed with
  | first :: second :: rest, parsed =>
      obtain ⟨announced, whole⟩ := Header.size_of_parse parsed
      rw [announced] at whole
      let width := Header.extendedWidth (second &&& 0x7F).toNat
      let keyed := if second &&& 0x80 != 0 then 4 else 0
      have enough : width + keyed ≤ rest.length := by
        simp only [Header.announcedSize, List.length_cons] at whole
        omega
      let front : Front :=
        { first, second, sizeField := rest.take width, keyField := (rest.drop width).take keyed
          size_field_length := by
            rw [List.length_take]
            omega
          key_field_length := by
            rw [List.length_take, List.length_drop]
            omega }
      have shape : first :: second :: rest = front.bytes ++ (rest.drop width).drop keyed := by
        simp only [front, bytes, List.cons_append, List.append_assoc, List.take_append_drop]
      refine ⟨front, (rest.drop width).drop keyed, shape, ?_⟩
      rw [shape, front.parse_bytes] at parsed
      exact (Except.ok.inj parsed).symm

end Front

end WebSocket.Frame
