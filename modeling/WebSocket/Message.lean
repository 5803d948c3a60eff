import WebSocket.Frame.Basic
import WebSocket.Limits

/-!
Messages put together from frames. An assembler holds the kind and the bytes of
the message in progress; control frames pass it by.
-/

namespace WebSocket

structure Message where
  opcode : Opcode
  payload : Bytes
  deriving DecidableEq, Repr

def Message.text (message : Message) : Except Error String :=
  match Utf8.decode message.payload with
  | some content => .ok content
  | none => .error .invalidUtf8

structure Assembler where
  limits : Limits
  opcode : Option Opcode := none
  buffer : Bytes := []
  fragmentCount : Nat := 0
  deriving DecidableEq, Repr

namespace Assembler

def extend (assembler : Assembler) (frame : Frame) :
    Except Error (Option Message) × Assembler :=
  match assembler.limits.checkFragmentCount (assembler.fragmentCount + 1) with
  | .error failure => (.error failure, assembler)
  | .ok () =>
      match assembler.limits.checkMessageSize
          (assembler.buffer.length + frame.payload.length) with
      | .error failure => (.error failure, assembler)
      | .ok () =>
          let buffer := assembler.buffer ++ frame.payload
          let count := assembler.fragmentCount + 1
          if !frame.fin then
            (.ok none, { assembler with buffer := buffer, fragmentCount := count })
          else
            match assembler.opcode with
            | none => (.ok none, { assembler with buffer := buffer, fragmentCount := count })
            | some opcode =>
                let cleared := { assembler with opcode := none, buffer := [], fragmentCount := 0 }
                if opcode = .text ∧ ¬Utf8.isValid buffer then (.error .invalidUtf8, cleared)
                else (.ok (some ⟨opcode, buffer⟩), cleared)

/-- The message that a frame completes, if it completes one. A data frame marks
its message as begun before the limits are checked. -/
def push (assembler : Assembler) (frame : Frame) : Except Error (Option Message) × Assembler :=
  if frame.opcode.isControl then (.ok none, assembler)
  else
    match frame.opcode, assembler.opcode with
    | .continuation, none => (.error (.protocolViolation "Unexpected continuation frame"), assembler)
    | .continuation, some _ => assembler.extend frame
    | _, some _ => (.error (.protocolViolation "Expected continuation frame"), assembler)
    | opcode, none => { assembler with opcode := some opcode }.extend frame

end Assembler

end WebSocket
