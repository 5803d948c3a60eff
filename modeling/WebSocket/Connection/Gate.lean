import WebSocket.Connection.Hub
import WebSocket.Frame.Write

/-!
The gate that all writes go through. Actors enter it one at a time, first come
first served, and the write timeout counts from there. With a slow write every
byte is flushed and followed by a pause.
-/

namespace WebSocket

namespace Transfer

/-- What a sender is told. A write that is late can be tried again. -/
def status : Transfer → SendStatus
  | done _ => .success
  | failed failure => .ofKind failure.kind
  | timedOut => .error

end Transfer

namespace Gate

open Script

/-- Writes all the bytes but the first `taken`, which the stream already has. -/
def writeAll (deadline : Nat) : (bytes : Bytes) → (taken : Nat) → Script Transfer
  | [], _ => done (.done 0)
  | _ :: rest, taken + 1 => writeAll deadline rest taken
  | byte :: rest, 0 =>
      act (.write (byte :: rest) deadline) fun reply =>
        match reply with
        | .done count => writeAll deadline rest (count - 1)
        | failure => done failure

def thenTransfer (first second : Script Transfer) : Script Transfer :=
  first.bind fun result =>
    match result with
    | .done _ => second
    | failure => done failure

def pause (milliseconds deadline : Nat) : Script Transfer :=
  act .readClock fun now =>
    act (.sleep (now + milliseconds) (some deadline)) fun inTime =>
      done (if inTime then .done 0 else .timedOut)

def flush (deadline : Nat) : Script Transfer := perform (.flush deadline)

def writeSlowly (delay deadline : Nat) : Bytes → Script Transfer
  | [] => done (.done 0)
  | byte :: rest =>
      thenTransfer (writeAll deadline [byte] 0)
        (thenTransfer (flush deadline)
          (thenTransfer (pause delay deadline) (writeSlowly delay deadline rest)))

def transferAll (slowWrite : Option Nat) (deadline : Nat) (bytes : Bytes) : Script Transfer :=
  thenTransfer
    (match slowWrite with
      | none => writeAll deadline bytes 0
      | some delay => writeSlowly delay deadline bytes)
    (flush deadline)

def send (config : Config) (bytes : Bytes) : Script SendStatus := do
  perform (.queueForGate bytes)
  let hasWriter ← perform .enterGate
  if hasWriter then
    let entered ← perform .readClock
    let result ← transferAll config.slowWrite (entered + config.timeouts.write) bytes
    perform .leaveGate
    return result.status
  else
    perform .leaveGate
    return .fatalError

/-- Sends a frame under a fresh key. -/
def sendFrame (config : Config) (frame : Frame) : Script SendStatus := do
  let key ← perform .drawKey
  send config (frame.serialize (some key))

/-- Takes the writer out of the gate and shuts the stream down outside of it. -/
def shutdown (config : Config) : Script Unit := do
  perform (.queueForGate [])
  let hasWriter ← perform .enterGate
  if hasWriter then
    perform .takeWriter
    perform .leaveGate
    let start ← perform .readClock
    let _ ← perform (.shutdown (start + config.timeouts.write))
  else
    perform .leaveGate

end Gate

end WebSocket
