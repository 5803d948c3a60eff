import WebSocket.Frame.Basic

/-!
Writing frames. `encode` says what a frame looks like on the wire, `write` puts
it into a buffer piece by piece, and `serialize` writes it into a buffer of its
own.
-/

namespace WebSocket

def Bytes.splice (buffer : Bytes) (offset : Nat) (bytes : Bytes) : Bytes :=
  buffer.take offset ++ bytes ++ buffer.drop (offset + bytes.length)

namespace Frame

def lengthWidth (size : Nat) : Nat :=
  if size ≤ 125 then 0 else if size ≤ 65535 then 2 else 8

def shortLength (size : Nat) : Byte :=
  if size ≤ 125 then UInt8.ofNat size else if size ≤ 65535 then 126 else 127

def wireSize (frame : Frame) (masked : Bool) : Nat :=
  2 + lengthWidth frame.payload.length + (if masked then 4 else 0) + frame.payload.length

def firstByte (frame : Frame) : Byte :=
  frame.opcode.toByte ||| (if frame.fin then 0x80 else 0) ||| (if frame.rsv1 then 0x40 else 0) |||
    (if frame.rsv2 then 0x20 else 0) ||| (if frame.rsv3 then 0x10 else 0)

def secondByte (frame : Frame) (masked : Bool) : Byte :=
  shortLength frame.payload.length ||| (if masked then 0x80 else 0)

/-- The frame's form on the wire: two bytes, the longer length if there is one,
the key, and the payload under the key. -/
def encode (frame : Frame) (mask : Option MaskKey) : Bytes :=
  let size := frame.payload.length
  [frame.firstByte, frame.secondByte mask.isSome] ++ BigEndian.encode (lengthWidth size) size ++
    match mask with
    | some key => key.toBytes ++ key.apply frame.payload
    | none => frame.payload

/-- Puts the frame at the front of the buffer and answers how many bytes it
takes. A buffer without room is left as it is. -/
def write (frame : Frame) (mask : Option MaskKey) (buffer : Bytes) : Except Error Nat × Bytes :=
  let size := frame.payload.length
  let total := frame.wireSize mask.isSome
  if buffer.length < total then
    (.error (.invalidFrame s!"Buffer too small: need {total} bytes, have {buffer.length}"), buffer)
  else
    let width := lengthWidth size
    let start := buffer.splice 0 [frame.firstByte, frame.secondByte mask.isSome]
    let sized := start.splice 2 (BigEndian.encode width size)
    match mask with
    | none => (.ok total, sized.splice (2 + width) frame.payload)
    | some key =>
        let keyed := sized.splice (2 + width) key.toBytes
        let offset := 2 + width + 4
        let filled := keyed.splice offset frame.payload
        (.ok total, filled.splice offset (key.apply ((filled.drop offset).take size)))

def serialize (frame : Frame) (mask : Option MaskKey) : Bytes :=
  match frame.write mask (List.replicate (frame.wireSize mask.isSome) 0) with
  | (.ok written, buffer) => buffer.take written
  | (.error _, _) => []

end Frame

end WebSocket
