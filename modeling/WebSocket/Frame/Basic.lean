import WebSocket.Close
import WebSocket.Error
import WebSocket.Frame.Mask
import WebSocket.Opcode

/-!
Frames, the constructors for the kinds that an endpoint sends, the rules that
every frame must pass, and the reading of a Close frame's payload.
-/

namespace WebSocket

/-- One frame with its payload in the clear. `mask` remembers the key that a
parsed frame was masked with. -/
structure Frame where
  fin : Bool
  rsv1 : Bool
  rsv2 : Bool
  rsv3 : Bool
  opcode : Opcode
  mask : Option MaskKey
  payload : Bytes
  deriving DecidableEq, Repr

namespace Frame

def maxControlPayload : Nat := 125

def of (fin : Bool) (opcode : Opcode) (payload : Bytes) : Frame :=
  ⟨fin, false, false, false, opcode, none, payload⟩

def text (content : String) : Frame := of true .text (Utf8.encode content)

def binary (content : Bytes) : Frame := of true .binary content

def ping (content : Bytes) : Frame := of true .ping content

def pong (content : Bytes) : Frame := of true .pong content

/-- A Close frame with a code carries as much of the reason as a control frame
has room for; without a code the payload is empty. -/
def close (code : Option UInt16) (reason : String) : Frame :=
  of true .close <|
    match code with
    | some number =>
        BigEndian.encode 2 number.toNat ++ Utf8.encode (Utf8.cut (maxControlPayload - 2) reason)
    | none => []

def validate (frame : Frame) : Except Error Unit :=
  if frame.rsv1 || frame.rsv2 || frame.rsv3 then .error .reservedBitsSet
  else if frame.opcode.isControl then
    if !frame.fin then .error .fragmentedControlFrame
    else if frame.payload.length > maxControlPayload then
      .error (.controlFrameTooLarge frame.payload.length)
    else .ok ()
  else .ok ()

def closeCode (frame : Frame) : Option CloseCode :=
  match frame.opcode, frame.payload with
  | .close, high :: low :: _ =>
      some (.ofNumber (UInt16.ofNat (BigEndian.decode [high, low])))
  | _, _ => none

def closeReason (frame : Frame) : Except Error String :=
  if frame.opcode ≠ .close ∨ frame.payload.length ≤ 2 then .ok ""
  else
    match Utf8.decode (frame.payload.drop 2) with
    | some reason => .ok reason
    | none => .error .invalidUtf8

/-- What a Close frame says: nothing, or a code that may travel and a reason. A
frame of another kind is read as one whose code is missing. -/
def closeFrame (frame : Frame) : Except Error (Option CloseFrame) :=
  match frame.payload with
  | [] => .ok none
  | [_] => .error (.protocolViolation "Close payload of one byte")
  | _ =>
      let code := frame.closeCode.getD .noStatus
      if !code.isValid then .error (.protocolViolation s!"Invalid close code {code.number}")
      else do
        let reason ← frame.closeReason
        .ok (some ⟨code, reason⟩)

end Frame

end WebSocket
