import WebSocket.Proofs.Frame.Chunks
import WebSocket.Proofs.Frame.Layout

/-!
Reading back what was written. The header of a written frame says what the frame
was made of, and with its payload behind it the whole frame comes back, whatever
follows on the wire.
-/

namespace WebSocket.Frame

theorem seven_bits {short : Byte} (bound : short.toNat < 128) :
    short &&& 0x7F = short ∧ (short &&& 0x80 != 0) = false ∧
      (short ||| 0x80) &&& 0x7F = short ∧ ((short ||| 0x80) &&& 0x80 != 0) = true := by
  have everyNumber : ∀ number < 128,
      UInt8.ofNat number &&& 0x7F = UInt8.ofNat number ∧
        (UInt8.ofNat number &&& 0x80 != 0) = false ∧
        (UInt8.ofNat number ||| 0x80) &&& 0x7F = UInt8.ofNat number ∧
        ((UInt8.ofNat number ||| 0x80) &&& 0x80 != 0) = true := by
    decide
  simpa using everyNumber short.toNat bound

theorem short_length_lt (size : Nat) : (shortLength size).toNat < 128 := by
  unfold shortLength
  split
  · rw [UInt8.toNat_ofNat']
    omega
  · split <;> decide

theorem extended_width_short_length (size : Nat) :
    Header.extendedWidth (shortLength size).toNat = lengthWidth size := by
  unfold shortLength lengthWidth
  split
  · rw [UInt8.toNat_ofNat', Header.extendedWidth, if_pos (by omega)]
  · split <;> rfl

theorem short_length_of_no_width {size : Nat} (short : lengthWidth size = 0) :
    (shortLength size).toNat = size := by
  unfold lengthWidth at short
  split at short
  · rename_i small
    rw [shortLength, if_pos small, UInt8.toNat_ofNat']
    omega
  · split at short <;> cases short

def lengthByte (size : Nat) (masked : Bool) : Byte :=
  shortLength size ||| (if masked then 0x80 else 0)

theorem length_byte_short (size : Nat) (masked : Bool) :
    lengthByte size masked &&& 0x7F = shortLength size := by
  have bits := seven_bits (short_length_lt size)
  cases masked with
  | false => simpa [lengthByte] using bits.1
  | true => exact bits.2.2.1

theorem length_byte_masked (size : Nat) (masked : Bool) :
    (lengthByte size masked &&& 0x80 != 0) = masked := by
  have bits := seven_bits (short_length_lt size)
  cases masked with
  | false => simpa [lengthByte] using bits.2.1
  | true => exact bits.2.2.2

theorem announced_size_eq (size : Nat) (masked : Bool) :
    Header.announcedSize (lengthByte size masked) =
      2 + lengthWidth size + if masked then 4 else 0 := by
  rw [Header.announcedSize, length_byte_short, length_byte_masked, extended_width_short_length]

theorem size_lt_of_width {size : Nat} (small : size < sizeBound) (long : lengthWidth size ≠ 0) :
    size < 256 ^ lengthWidth size := by
  unfold lengthWidth at long ⊢
  split at long
  · exact absurd rfl long
  · rename_i notShort
    rw [if_neg notShort]
    split
    · omega
    · exact small

theorem size_field_read {size : Nat} (small : size < sizeBound) (rest : Bytes) :
    (if lengthWidth size = 0 then (shortLength size).toNat
      else BigEndian.decode
        ((BigEndian.encode (lengthWidth size) size ++ rest).take (lengthWidth size))) = size := by
  by_cases short : lengthWidth size = 0
  · rw [if_pos short]
    exact short_length_of_no_width short
  · have spelled : (BigEndian.encode (lengthWidth size) size ++ rest).take (lengthWidth size) =
        BigEndian.encode (lengthWidth size) size := by
      rw [List.take_append_of_le_length (by rw [BigEndian.encode_length]), List.take_of_length_le]
      rw [BigEndian.encode_length]
    rw [if_neg short, spelled]
    exact BigEndian.decode_encode _ _ (size_lt_of_width small short)

theorem key_field_read (mask : Option MaskKey) (width size : Nat) (rest : Bytes) :
    (if mask.isSome then
        MaskKey.ofBytes?
          ((BigEndian.encode width size ++ (mask.elim [] MaskKey.toBytes ++ rest)).drop width)
      else none) = mask := by
  have behind : (BigEndian.encode width size ++ (mask.elim [] MaskKey.toBytes ++ rest)).drop width =
      mask.elim [] MaskKey.toBytes ++ rest :=
    List.drop_left' (BigEndian.encode_length width size)
  cases mask with
  | none => rfl
  | some key =>
      rw [behind]
      exact key.of_bytes_to_bytes rest

namespace Header

def ofFirst (first : Byte) (mask : Option MaskKey) (size : Nat) : Header where
  fin := first &&& 0x80 != 0
  rsv1 := first &&& 0x40 != 0
  rsv2 := first &&& 0x20 != 0
  rsv3 := first &&& 0x10 != 0
  opcode := first &&& 0x0F
  mask := mask
  payloadSize := size
  size := 2 + lengthWidth size + if mask.isSome then 4 else 0

/-- Any first byte, be its kind known or reserved, followed by the size, the key
and whatever comes behind them, reads as its header. -/
theorem parse_of_first (first : Byte) (mask : Option MaskKey) {size : Nat}
    (small : size < sizeBound) (rest : Bytes) :
    parse (first :: lengthByte size mask.isSome ::
        (BigEndian.encode (lengthWidth size) size ++ (mask.elim [] MaskKey.toBytes ++ rest))) =
      .ok (ofFirst first mask size) := by
  have keyed : (mask.elim [] MaskKey.toBytes).length = if mask.isSome then 4 else 0 := by
    cases mask <;> rfl
  simp only [parse, length_byte_short, length_byte_masked, extended_width_short_length,
    announced_size_eq]
  rw [if_neg, if_neg, size_field_read small, key_field_read, ofFirst]
  · rw [is_shorter_iff]
    simp only [List.length_cons, List.length_append, BigEndian.encode_length, keyed]
    omega
  · rw [is_shorter_iff]
    simp only [List.length_cons, List.length_append, BigEndian.encode_length]
    omega

def payloadBound : Nat := 9223372036854775807

theorem check_of_first {options : ParseOptions} (first : Byte) (mask : Option MaskKey) {size : Nat}
    (bounded : size ≤ payloadBound) (within : size ≤ options.maxFrameSize)
    (admitted : options.maskPolicy.check mask.isSome = .ok ()) :
    (ofFirst first mask size).check options = .ok () := by
  have width : lengthWidth size ≤ 8 := by
    unfold lengthWidth
    split <;> [omega; split <;> omega]
  have small : (ofFirst first mask size).size + size < sizeBound := by
    unfold payloadBound at bounded
    unfold sizeBound
    dsimp only [ofFirst]
    split <;> omega
  have masked : (ofFirst first mask size).mask = mask := rfl
  have announced : (ofFirst first mask size).payloadSize = size := rfl
  rw [check, masked, announced, admitted]
  dsimp only
  rw [if_neg (by omega), if_neg (by omega)]

end Header

variable (frame : Frame) (mask : Option MaskKey)

theorem first_byte_bits :
    (frame.firstByte &&& 0x80 != 0) = frame.fin ∧ (frame.firstByte &&& 0x40 != 0) = frame.rsv1 ∧
      (frame.firstByte &&& 0x20 != 0) = frame.rsv2 ∧ (frame.firstByte &&& 0x10 != 0) = frame.rsv3 ∧
      frame.firstByte &&& 0x0F = frame.opcode.toByte := by
  have table : ∀ fin rsv1 rsv2 rsv3 : Bool, ∀ number ∈ [(0 : Byte), 1, 2, 8, 9, 10],
      let byte := number ||| (if fin then 0x80 else 0) ||| (if rsv1 then 0x40 else 0) |||
        (if rsv2 then 0x20 else 0) ||| (if rsv3 then 0x10 else 0)
      (byte &&& 0x80 != 0) = fin ∧ (byte &&& 0x40 != 0) = rsv1 ∧ (byte &&& 0x20 != 0) = rsv2 ∧
        (byte &&& 0x10 != 0) = rsv3 ∧ byte &&& 0x0F = number := by
    decide +kernel
  apply table frame.fin frame.rsv1 frame.rsv2 frame.rsv3 frame.opcode.toByte
  cases frame.opcode <;> decide

def header : Header := .ofFirst frame.firstByte mask frame.payload.length

theorem encode_eq_fields (rest : Bytes) :
    frame.encode mask ++ rest =
      frame.firstByte :: lengthByte frame.payload.length mask.isSome ::
        (BigEndian.encode (lengthWidth frame.payload.length) frame.payload.length ++
          (mask.elim [] MaskKey.toBytes ++ (frame.carried mask ++ rest))) := by
  simp only [encode_eq_prelude, prelude, opening, List.append_assoc, List.cons_append,
    List.nil_append, secondByte, lengthByte]

theorem serialize_nonempty : frame.serialize mask ≠ [] := by
  intro empty
  have fields := congrArg (· ++ []) empty
  simp only [serialize_eq_encode, encode_eq_fields] at fields
  cases fields

theorem Header.parse_encode (small : frame.payload.length < sizeBound) (rest : Bytes) :
    Header.parse (frame.encode mask ++ rest) = .ok (frame.header mask) := by
  rw [encode_eq_fields, Header.parse_of_first _ _ small]
  rfl

theorem header_size : (frame.header mask).size = (frame.prelude mask).length := by
  rw [prelude_length]
  rfl

theorem header_total :
    (frame.header mask).size + (frame.header mask).payloadSize = frame.wireSize mask.isSome := rfl

theorem Header.payload_encode (rest : Bytes) :
    (frame.header mask).payload (frame.encode mask ++ rest) = frame.payload := by
  have carried : ((frame.encode mask ++ rest).drop (frame.header mask).size).take
      frame.payload.length = frame.carried mask := by
    rw [header_size, encode_eq_prelude, List.append_assoc, List.drop_left,
      ← frame.carried_length mask, List.take_left]
  have announced : (frame.header mask).payloadSize = frame.payload.length := rfl
  have masked : (frame.header mask).mask = mask := rfl
  rw [Header.payload, announced, carried, masked]
  cases mask with
  | none => rfl
  | some key =>
      dsimp only [Frame.carried, Option.elim]
      rw [key.apply_words_eq_apply, key.apply_apply]

theorem Header.read_encode (rest : Bytes) :
    (frame.header mask).read (frame.encode mask ++ rest) =
      .frame { frame with mask := mask } (frame.wireSize mask.isSome) := by
  have whole : ¬isShorter (frame.wireSize mask.isSome) (frame.encode mask ++ rest) = true := by
    rw [is_shorter_iff, List.length_append, encode_length]
    omega
  obtain ⟨fin, rsv1, rsv2, rsv3, opcode⟩ := frame.first_byte_bits
  rw [Header.read, header_total, if_neg whole, Header.payload_encode]
  simp only [header, Header.ofFirst, fin, rsv1, rsv2, rsv3, opcode, Opcode.of_byte_to_byte]

theorem lt_size_bound {size : Nat} (bounded : size ≤ Header.payloadBound) : size < sizeBound := by
  unfold Header.payloadBound at bounded
  unfold sizeBound
  omega

theorem parse_encode (options : ParseOptions) (rest : Bytes)
    (bounded : frame.payload.length ≤ Header.payloadBound)
    (within : frame.payload.length ≤ options.maxFrameSize)
    (admitted : options.maskPolicy.check mask.isSome = .ok ()) :
    parse options (frame.encode mask ++ rest) =
      .ok (.frame { frame with mask := mask } (frame.wireSize mask.isSome)) := by
  rw [parse, Header.parse_encode frame mask (lt_size_bound bounded)]
  dsimp only
  rw [header, Header.check_of_first _ _ bounded within admitted]
  dsimp only
  rw [← header, Header.read_encode]

theorem drain_serialize {options : ParseOptions} (rest : Bytes)
    (bounded : frame.payload.length ≤ Header.payloadBound)
    (within : frame.payload.length ≤ options.maxFrameSize)
    (admitted : options.maskPolicy.check mask.isSome = .ok ()) :
    drain options (frame.serialize mask ++ rest) =
      let behind := drain options rest
      ⟨.frame { frame with mask := mask } (frame.wireSize mask.isSome) :: behind.parsed,
        behind.failure, behind.pending⟩ := by
  have parsed := frame.parse_encode mask options rest bounded within admitted
  have complete : 0 < (Parsed.frame { frame with mask := mask }
      (frame.wireSize mask.isSome)).consumed := by
    have nonempty := List.length_pos_iff.mpr (frame.serialize_nonempty mask)
    rwa [serialize_length] at nonempty
  have rejoined : (frame.encode mask ++ rest).drop (frame.wireSize mask.isSome) = rest :=
    List.drop_left' (frame.encode_length mask)
  rw [serialize_eq_encode, drain_complete parsed complete]
  dsimp only [Parsed.consumed]
  rw [rejoined]

/-- Reading undoes writing: whatever follows, the frame comes back under the key
that it was written with, and exactly its own bytes are used up. -/
theorem parse_serialize (options : ParseOptions) (rest : Bytes)
    (bounded : frame.payload.length ≤ Header.payloadBound)
    (within : frame.payload.length ≤ options.maxFrameSize)
    (admitted : options.maskPolicy.check mask.isSome = .ok ()) :
    parse options (frame.serialize mask ++ rest) =
        .ok (.frame { frame with mask := mask } (frame.wireSize mask.isSome)) ∧
      (frame.serialize mask).length = frame.wireSize mask.isSome := by
  refine ⟨?_, frame.serialize_length mask⟩
  rw [serialize_eq_encode]
  exact frame.parse_encode mask options rest bounded within admitted

/-- A key, a reserved bit, and the first size that does not fit into seven bits. -/
theorem parse_serialize_long_and_masked :
    let frame : Frame := ⟨false, true, false, false, .binary, none, List.replicate 126 7⟩
    let key : MaskKey := ⟨1, 2, 3, 4⟩
    parse ⟨126, .required⟩ (frame.serialize (some key) ++ [9]) =
        .ok (.frame { frame with mask := some key } (frame.wireSize true)) ∧
      (frame.serialize (some key)).length = frame.wireSize true := by
  intro frame key
  have size : frame.payload.length = 126 := List.length_replicate
  exact parse_serialize frame (some key) ⟨126, .required⟩ [9]
    (by rw [size]; decide) (by rw [size]) rfl

def bytesOf (first : Byte) (payload : Bytes) : Bytes :=
  first :: lengthByte payload.length false ::
    (BigEndian.encode (lengthWidth payload.length) payload.length ++ payload)

theorem bytes_of_length (first : Byte) (payload : Bytes) :
    (bytesOf first payload).length = 2 + lengthWidth payload.length + payload.length := by
  simp only [bytesOf, List.length_cons, List.length_append, BigEndian.encode_length]
  omega

theorem parse_bytes_of {options : ParseOptions} {first : Byte} {payload : Bytes}
    (reserved : Opcode.ofByte? (first &&& 0x0F) = none) (rest : Bytes)
    (bounded : payload.length ≤ Header.payloadBound)
    (within : payload.length ≤ options.maxFrameSize)
    (admitted : options.maskPolicy.check false = .ok ()) :
    parse options (bytesOf first payload ++ rest) =
      .ok (.unexpected (first &&& 0x0F) (bytesOf first payload).length) := by
  have shape : bytesOf first payload ++ rest =
      first :: lengthByte payload.length false ::
        (BigEndian.encode (lengthWidth payload.length) payload.length ++ ([] ++ (payload ++ rest))) := by
    simp only [bytesOf, List.cons_append, List.append_assoc, List.nil_append]
  have parsed := Header.parse_of_first first none (lt_size_bound bounded) (payload ++ rest)
  have size : (Header.ofFirst first none payload.length).size +
      (Header.ofFirst first none payload.length).payloadSize = (bytesOf first payload).length := by
    rw [bytes_of_length]
    rfl
  have whole : ¬isShorter (bytesOf first payload).length (bytesOf first payload ++ rest) = true := by
    rw [is_shorter_iff, List.length_append]
    omega
  have kind : (Header.ofFirst first none payload.length).opcode = first &&& 0x0F := rfl
  dsimp only [Option.isSome, Option.elim] at parsed
  rw [← shape] at parsed
  rw [parse, parsed]
  dsimp only
  rw [Header.check_of_first first none bounded within admitted]
  dsimp only
  rw [Header.read, size, if_neg whole, kind, reserved]

end WebSocket.Frame
