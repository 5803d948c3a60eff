import WebSocket.Connection.Lifecycle
import WebSocket.Frame.Parse

/-!
The receive loop. It handles every whole frame that it has before it reads
again, and it ends with the connection: at a Close, at a frame that breaks the
protocol, at the end of the stream, or when the token is cancelled.
-/

namespace WebSocket.Connection

open Script

def protocolFailure (setup : Setup) (failure : Error) : Script (Option Assembler) := do
  fail setup failure.closeCode "protocol error"
  return none

def deliver (setup : Setup) (message : Message) (assembler : Assembler) :
    Script (Option Assembler) := do
  match message.opcode, message.text with
  | .text, .error failure => protocolFailure setup failure
  | .text, .ok content =>
      notify setup (.text content)
      return some assembler
  | _, _ =>
      notify setup (.binary message.payload)
      return some assembler

def answerPing (setup : Setup) (payload : Bytes) (assembler : Assembler) :
    Script (Option Assembler) := do
  notify setup (.ping payload)
  if !(← isOpen) then return some assembler
  else
    let status ← transmit setup (.pong payload)
    if status = .fatalError then
      fail setup 1002 "pong could not be sent"
      return none
    else return some assembler

/-- Handles one frame. Without an assembler to go on with, the loop is over. -/
def dispatch (setup : Setup) (assembler : Assembler) (frame : Frame) :
    Script (Option Assembler) := do
  match frame.validate with
  | .error failure => protocolFailure setup failure
  | .ok () =>
      match frame.opcode with
      | .ping => answerPing setup frame.payload assembler
      | .pong =>
          notify setup (.pong frame.payload)
          return some assembler
      | .close =>
          match frame.closeFrame with
          | .error failure => protocolFailure setup failure
          | .ok close =>
              notify setup (.close close)
              handlePeerClose setup close
              return none
      | _ =>
          match assembler.push frame with
          | (.error failure, _) => protocolFailure setup failure
          | (.ok none, next) => return some next
          | (.ok (some message), next) => deliver setup message next

def skipUnexpected (setup : Setup) (opcode : Byte) : Script Unit := do
  notify setup (.unexpected opcode)
  if setup.config.closeOnViolation then
    if ← isOpen then
      let _ ← beginClose setup (some 1002) "unexpected opcode"

/-- How many bytes one read may bring; a size of zero still leaves some room. -/
def readRoom (config : Config) : Nat :=
  if config.readBufferSize = 0 then 64 else config.readBufferSize

/-- Reads more bytes; a read that takes too long is begun again. -/
def readMore (setup : Setup) (pending : Bytes) (assembler : Assembler) :
    Script (Option Task) := do
  if ← perform .readToken then
    teardown setup
    return none
  else
    let start ← perform .readClock
    let reading ← perform (.read (readRoom setup.config) (start + setup.config.timeouts.read) true)
    match reading with
    | .data bytes => return some (.receive (pending ++ bytes) assembler)
    | .timedOut => return some (.receive pending assembler)
    | _ =>
        teardown setup
        return none

/-- One round of the receive loop: one frame, or one read if no frame is whole. -/
def receive (setup : Setup) (pending : Bytes) (assembler : Assembler) :
    Script (Option Task) := do
  match Frame.parse (.serverFrames setup.config.limits) pending with
  | .error failure =>
      fail setup failure.closeCode "protocol error"
      return none
  | .ok (.incomplete _) => readMore setup pending assembler
  | .ok (.unexpected opcode consumed) =>
      skipUnexpected setup opcode
      return some (.receive (pending.drop consumed) assembler)
  | .ok (.frame frame consumed) =>
      let next ← dispatch setup assembler frame
      return next.map (Task.receive (pending.drop consumed))

end WebSocket.Connection
