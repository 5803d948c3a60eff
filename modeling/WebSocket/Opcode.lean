import WebSocket.Bytes

/-!
The six frame kinds and their four-bit numbers. The other ten numbers are
reserved, so `ofByte?` has no answer for them.
-/

namespace WebSocket

inductive Opcode where
  | continuation
  | text
  | binary
  | close
  | ping
  | pong
  deriving DecidableEq, Repr

namespace Opcode

def toByte : Opcode → Byte
  | continuation => 0
  | text => 1
  | binary => 2
  | close => 8
  | ping => 9
  | pong => 10

def ofByte? : Byte → Option Opcode
  | 0 => some continuation
  | 1 => some text
  | 2 => some binary
  | 8 => some close
  | 9 => some ping
  | 10 => some pong
  | _ => none

def isControl : Opcode → Bool
  | close | ping | pong => true
  | continuation | text | binary => false

def isData (opcode : Opcode) : Bool := !opcode.isControl

def name : Opcode → String
  | continuation => "Continuation"
  | text => "Text"
  | binary => "Binary"
  | close => "Close"
  | ping => "Ping"
  | pong => "Pong"

theorem of_byte_to_byte (opcode : Opcode) : ofByte? opcode.toByte = some opcode := by
  cases opcode <;> rfl

end Opcode

end WebSocket
