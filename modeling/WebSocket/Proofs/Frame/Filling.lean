import WebSocket.Proofs.Frame.Safety

/-!
Filling a buffer step by step, on a machine that counts in words of 64 bits and refuses to store
anything outside of the buffer, or bytes that do not fill their place exactly. A frame whose payload
fits into memory never leads to a fault there: the size that is summed up beforehand is the one that
the pieces come to, in each of the three forms of the length and with or without a key.
-/

namespace WebSocket

def Frame.shortOfRoom (needed had : Nat) : Error :=
  .invalidFrame s!"Buffer too small: need {needed} bytes, have {had}"

theorem Frame.length_width_le_eight (size : Nat) : lengthWidth size ≤ 8 := by
  unfold lengthWidth
  split
  · decide
  · split <;> decide

theorem Frame.wire_size_lt (frame : Frame) (isMasked : Bool)
    (addressable : frame.payload.length ≤ Header.payloadBound) : frame.wireSize isMasked < sizeBound := by
  have width := length_width_le_eight frame.payload.length
  unfold Header.payloadBound at addressable
  unfold wireSize sizeBound
  split <;> omega

namespace Bytes

theorem splice_length {buffer bytes : Bytes} {offset : Nat}
    (room : offset + bytes.length ≤ buffer.length) :
    (buffer.splice offset bytes).length = buffer.length := by
  simp only [splice, List.length_append, List.length_take, List.length_drop]
  omega

theorem set_two (buffer : Bytes) (first second : Byte) (room : 2 ≤ buffer.length) :
    (buffer.set 0 first).set 1 second = buffer.splice 0 [first, second] := by
  match buffer, room with
  | _ :: _ :: _, _ => rfl

end Bytes

namespace Checked

def setByte (buffer : Bytes) (index : Nat) (byte : Byte) : Except Fault Bytes :=
  if index < buffer.length then .ok (buffer.set index byte) else .error .outside

def put (buffer : Bytes) (offset width : Nat) (bytes : Bytes) : Except Fault (Bytes × Nat) := do
  let stop ← add offset width
  let place ← slice buffer offset stop
  if place.length = bytes.length then return (buffer.splice offset bytes, stop) else .error .outside

def maskFrom (key : MaskKey) (index : Nat) : Bytes → Except Fault Bytes
  | [] => return []
  | byte :: rest => do
      let keyByte ← byteAt key.toBytes (index % 4)
      let masked ← maskFrom key (index + 1) rest
      return (byte ^^^ keyByte) :: masked

def maskBetween (buffer : Bytes) (start stop : Nat) (key : MaskKey) : Except Fault Bytes := do
  let plain ← slice buffer start stop
  let masked ← maskFrom key 0 plain
  return buffer.splice start masked

def wireSize (size : Nat) (isMasked : Bool) : Except Fault Nat := do
  let sized ← add 2 (if size ≤ 125 then 0 else if size ≤ 65535 then 2 else 8)
  let keyed ← add sized (if isMasked then 4 else 0)
  add keyed size

def lengthForm (size : Nat) : Byte × Nat :=
  if size ≤ 125 then (UInt8.ofNat size, 0) else if size ≤ 65535 then (126, 2) else (127, 8)

def writeOpening (frame : Frame) (isMasked : Bool) (buffer : Bytes) : Except Fault (Bytes × Nat) := do
  let size := frame.payload.length
  let (short, width) := lengthForm size
  let begun ← setByte buffer 0 frame.firstByte
  let headed ← setByte begun 1 (if isMasked then short ||| 0x80 else short)
  if width = 0 then return (headed, 2) else put headed 2 width (BigEndian.encode width size)

/-- The key and the payload. The payload is copied first and then masked where it stands. -/
def writeCarried (frame : Frame) (mask : Option MaskKey) (buffer : Bytes) (offset : Nat) :
    Except Fault Bytes :=
  match mask with
  | none => do
      let (filled, _) ← put buffer offset frame.payload.length frame.payload
      return filled
  | some key => do
      let (keyed, start) ← put buffer offset 4 key.toBytes
      let (filled, stop) ← put keyed start frame.payload.length frame.payload
      maskBetween filled start stop key

def write (frame : Frame) (mask : Option MaskKey) (buffer : Bytes) :
    Except Fault (Except Error Nat × Bytes) := do
  let total ← wireSize frame.payload.length mask.isSome
  if buffer.length < total then return (.error (Frame.shortOfRoom total buffer.length), buffer)
  else do
    let (opened, offset) ← writeOpening frame mask.isSome buffer
    let filled ← writeCarried frame mask opened offset
    return (.ok total, filled)

/-- A write that failed would leave nothing. -/
def serialize (frame : Frame) (mask : Option MaskKey) : Except Fault Bytes := do
  let total ← wireSize frame.payload.length mask.isSome
  match ← write frame mask (List.replicate total 0) with
  | (.ok written, buffer) => return buffer.take written
  | (.error _, _) => return []

variable {buffer : Bytes}

theorem add_eq {first second : Nat} (fits : first + second < sizeBound) :
    add first second = .ok (first + second) := if_pos fits

theorem slice_eq {start stop : Nat} (ordered : start ≤ stop) (inside : stop ≤ buffer.length) :
    slice buffer start stop = .ok ((buffer.drop start).take (stop - start)) := if_pos ⟨ordered, inside⟩

theorem slice_length {start stop : Nat} (inside : stop ≤ buffer.length) :
    ((buffer.drop start).take (stop - start)).length = stop - start := by
  rw [List.length_take, List.length_drop]
  omega

theorem put_eq {offset width : Nat} {bytes : Bytes} (exact : bytes.length = width)
    (room : offset + width ≤ buffer.length) (fits : offset + width < sizeBound) :
    put buffer offset width bytes = .ok (buffer.splice offset bytes, offset + width) := by
  have filled : ((buffer.drop offset).take (offset + width - offset)).length = bytes.length := by
    rw [slice_length room, exact]
    omega
  rw [put, add_eq fits]
  simp only [bind, Except.bind]
  rw [slice_eq (Nat.le_add_right _ _) room]
  exact if_pos filled

theorem mask_from_eq (key : MaskKey) (index : Nat) (plain : Bytes) :
    maskFrom key index plain =
      .ok (plain.mapIdx fun place byte => byte ^^^ key.byteAt (place + index)) := by
  induction plain generalizing index with
  | nil => rfl
  | cons byte rest induction =>
      have found : byteAt key.toBytes (index % 4) = .ok (key.byteAt index) := by
        have bound : index % 4 < 4 := Nat.mod_lt _ (by decide)
        unfold byteAt MaskKey.byteAt MaskKey.toBytes
        generalize index % 4 = place at bound
        match place, bound with
        | 0, _ | 1, _ | 2, _ | 3, _ => rfl
      rw [maskFrom, found, induction, List.mapIdx_cons]
      simp only [bind, Except.bind, pure, Except.pure, Nat.zero_add, Nat.add_assoc, Nat.add_comm 1]

theorem mask_between_eq {start stop : Nat} (ordered : start ≤ stop) (inside : stop ≤ buffer.length)
    (key : MaskKey) :
    maskBetween buffer start stop key =
      .ok (buffer.splice start (key.apply ((buffer.drop start).take (stop - start)))) := by
  rw [maskBetween, slice_eq ordered inside]
  simp only [bind, Except.bind]
  rw [mask_from_eq]
  rfl

theorem wire_size_eq (frame : Frame) (isMasked : Bool)
    (addressable : frame.payload.length ≤ Frame.Header.payloadBound) :
    wireSize frame.payload.length isMasked = .ok (frame.wireSize isMasked) := by
  have small := frame.wire_size_lt isMasked addressable
  unfold Frame.wireSize at small
  change (add 2 (Frame.lengthWidth frame.payload.length) >>= _) = _
  rw [add_eq (by omega)]
  change (add _ (if isMasked then 4 else 0) >>= _) = _
  rw [add_eq (by omega)]
  exact add_eq small

theorem length_form_eq (size : Nat) :
    lengthForm size = (Frame.shortLength size, Frame.lengthWidth size) := by
  unfold lengthForm Frame.shortLength Frame.lengthWidth
  split
  · rfl
  · split <;> rfl

theorem write_opening_eq (frame : Frame) (isMasked : Bool)
    (room : 2 + Frame.lengthWidth frame.payload.length ≤ buffer.length) :
    writeOpening frame isMasked buffer =
      .ok ((buffer.splice 0 [frame.firstByte, frame.secondByte isMasked]).splice 2
        (BigEndian.encode (Frame.lengthWidth frame.payload.length) frame.payload.length),
        2 + Frame.lengthWidth frame.payload.length) := by
  have width := Frame.length_width_le_eight frame.payload.length
  have second : (if isMasked then Frame.shortLength frame.payload.length ||| 0x80
      else Frame.shortLength frame.payload.length) = frame.secondByte isMasked := by
    cases isMasked with
    | true => rfl
    | false => exact (UInt8.or_zero).symm
  have headed : (buffer.splice 0 [frame.firstByte, frame.secondByte isMasked]).length =
      buffer.length := Bytes.splice_length (Nat.le_of_add_right_le room)
  unfold writeOpening
  dsimp only
  rw [length_form_eq]
  dsimp only
  rw [second, setByte, if_pos (by omega)]
  simp only [bind, Except.bind]
  rw [setByte, if_pos (by rw [List.length_set]; omega), Bytes.set_two _ _ _ (by omega)]
  dsimp only
  split
  · rename_i none
    rw [none]
    simp [Bytes.splice, BigEndian.encode, pure, Except.pure]
  · apply put_eq (BigEndian.encode_length _ _)
    · rwa [headed]
    · unfold sizeBound
      omega

theorem write_carried_eq (frame : Frame) (mask : Option MaskKey) {offset : Nat}
    (room : offset + (if mask.isSome then 4 else 0) + frame.payload.length ≤ buffer.length)
    (fits : offset + (if mask.isSome then 4 else 0) + frame.payload.length < sizeBound) :
    writeCarried frame mask buffer offset = .ok
      (mask.elim (buffer.splice offset frame.payload) fun key =>
        let filled := (buffer.splice offset key.toBytes).splice (offset + 4) frame.payload
        filled.splice (offset + 4)
          (key.apply ((filled.drop (offset + 4)).take frame.payload.length))) := by
  cases mask with
  | none =>
      rw [Option.isSome_none, if_neg Bool.false_ne_true, Nat.add_zero] at room fits
      rw [writeCarried, put_eq rfl room fits]
      rfl
  | some key =>
      rw [Option.isSome_some, if_pos rfl] at room fits
      have keyed : (buffer.splice offset key.toBytes).length = buffer.length :=
        Bytes.splice_length (Nat.le_of_add_right_le room)
      have filled : ((buffer.splice offset key.toBytes).splice (offset + 4) frame.payload).length =
          buffer.length := by
        rw [Bytes.splice_length (by rwa [keyed]), keyed]
      have first : put buffer offset 4 key.toBytes =
          .ok (buffer.splice offset key.toBytes, offset + 4) :=
        put_eq rfl (Nat.le_of_add_right_le room) (Nat.lt_of_le_of_lt (Nat.le_add_right _ _) fits)
      rw [writeCarried, first]
      simp only [bind, Except.bind]
      rw [put_eq rfl (by rwa [keyed]) fits]
      dsimp only
      rw [mask_between_eq (Nat.le_add_right _ _) (by rwa [filled]), Nat.add_sub_cancel_left]
      rfl

/-- No step of the machine runs into a fault, and it leaves the buffer that `write` leaves. -/
theorem write_eq (frame : Frame) (mask : Option MaskKey) (buffer : Bytes)
    (addressable : frame.payload.length ≤ Frame.Header.payloadBound) :
    write frame mask buffer = .ok (frame.write mask buffer) := by
  have small := frame.wire_size_lt mask.isSome addressable
  rw [write, wire_size_eq frame _ addressable]
  simp only [bind, Except.bind]
  unfold Frame.write
  by_cases short : buffer.length < frame.wireSize mask.isSome
  · rw [if_pos short, if_pos short]
    rfl
  · have room : frame.wireSize mask.isSome ≤ buffer.length := Nat.le_of_not_lt short
    rw [if_neg short, if_neg short]
    unfold Frame.wireSize at room small
    have headed : (buffer.splice 0 [frame.firstByte, frame.secondByte mask.isSome]).length =
        buffer.length := Bytes.splice_length (by simp only [List.length_cons, List.length_nil]; omega)
    have opened : ((buffer.splice 0 [frame.firstByte, frame.secondByte mask.isSome]).splice 2
        (BigEndian.encode (Frame.lengthWidth frame.payload.length) frame.payload.length)).length =
          buffer.length := by
      rw [Bytes.splice_length, headed]
      rw [BigEndian.encode_length, headed]
      omega
    rw [write_opening_eq frame _ (by omega)]
    dsimp only
    rw [write_carried_eq frame mask (by rwa [opened]) small]
    cases mask <;> rfl

theorem serialize_eq (frame : Frame) (mask : Option MaskKey)
    (addressable : frame.payload.length ≤ Frame.Header.payloadBound) :
    serialize frame mask = .ok (frame.serialize mask) := by
  rw [serialize, wire_size_eq frame _ addressable]
  simp only [bind, Except.bind]
  rw [write_eq frame mask _ addressable]
  unfold Frame.serialize
  obtain ⟨result, buffer⟩ := frame.write mask (List.replicate (frame.wireSize mask.isSome) 0)
  cases result <;> rfl

end Checked

namespace Frame

/-- Writing, serializing and measuring agree, for every frame whose payload fits into memory, with or
without a key. A buffer that is too short is refused and left as it is. Any other one has the frame at
its front, as it is serialized, and is as before behind it, and the size that is given back is what
was measured. On a machine of 64-bit words nothing is stored outside of the buffer, and no sum leaves
the words. So what is serialized always has the size that was measured, and the write into a buffer of
just that size does not fail. -/
theorem write_agrees (frame : Frame) (mask : Option MaskKey) (buffer : Bytes)
    (addressable : frame.payload.length ≤ Header.payloadBound) :
    let total := frame.wireSize mask.isSome
    Checked.wireSize frame.payload.length mask.isSome = .ok total ∧
      Checked.write frame mask buffer = .ok (frame.write mask buffer) ∧
      Checked.serialize frame mask = .ok (frame.serialize mask) ∧
      (buffer.length < total →
        frame.write mask buffer = (.error (shortOfRoom total buffer.length), buffer)) ∧
      (total ≤ buffer.length →
        frame.write mask buffer = (.ok total, frame.serialize mask ++ buffer.drop total)) ∧
      (frame.serialize mask).length = total ∧
      frame.write mask (List.replicate total 0) = (.ok total, frame.serialize mask) := by
  intro total
  have fills (target : Bytes) (room : total ≤ target.length) :
      frame.write mask target = (.ok total, frame.serialize mask ++ target.drop total) := by
    rw [frame.write_eq mask target room, serialize_eq_encode]
  refine ⟨Checked.wire_size_eq frame _ addressable, Checked.write_eq frame mask buffer addressable,
    Checked.serialize_eq frame mask addressable, fun short => ?_, fills buffer, serialize_length frame mask, ?_⟩
  · rw [write, if_pos short]
    rfl
  · have exact : (List.replicate total (0 : Byte)).length = total := List.length_replicate
    rw [fills _ exact.ge, List.drop_eq_nil_of_le exact.le, List.append_nil]

/-- The first size that the short field cannot hold, under a key: a buffer that lacks one byte, and
one with a byte behind the frame. -/
theorem write_agrees_at_boundary :
    let frame : Frame := ⟨true, false, false, false, .binary, none, List.replicate 126 7⟩
    let key : MaskKey := ⟨1, 2, 3, 4⟩
    frame.write (some key) (List.replicate 133 9) = (.error (shortOfRoom 134 133), List.replicate 133 9) ∧
      frame.write (some key) (List.replicate 135 9) = (.ok 134, frame.serialize (some key) ++ [9]) ∧
      (frame.serialize (some key)).length = 134 := by
  intro frame key
  have size : frame.payload.length = 126 := List.length_replicate
  have addressable : frame.payload.length ≤ Header.payloadBound := by rw [size]; decide
  have total : frame.wireSize true = 134 := by rw [wireSize, size]; decide
  obtain ⟨-, -, -, refused, -, length, -⟩ := frame.write_agrees (some key) (List.replicate 133 9) addressable
  obtain ⟨-, -, -, -, filled, -⟩ := frame.write_agrees (some key) (List.replicate 135 9) addressable
  rw [Option.isSome_some, total, List.length_replicate] at refused filled
  refine ⟨refused (by decide), filled (by decide), length.trans total⟩

end Frame

end WebSocket
