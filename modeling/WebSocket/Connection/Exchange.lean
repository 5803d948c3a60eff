import WebSocket.Connection.Gate
import WebSocket.Handshake.Head

/-!
The handshake on the wire: the request goes out, and the response head comes in
piece by piece. One timeout covers all of it.
-/

namespace WebSocket.Connection

open Script

/-- How much room a head buffer has at first. It doubles when it is full. -/
def headCapacity : Nat := 1024

/-- Reads until the head is whole. Every read brings at least one byte, so as
many reads as the head may have bytes, and one more, are enough. -/
def readHead (limits : Limits) (deadline timeout : Nat) :
    (reads : Nat) → (buffer : Bytes) → (capacity : Nat) → Script (Except Error (Response × Bytes))
  | 0, buffer, _ => done (.error (.handshakeTooLarge buffer.length limits.handshakeSize))
  | reads + 1, buffer, capacity =>
      match Head.split limits buffer with
      | .error failure => done (.error failure)
      | .ok (some found) => done (.ok found)
      | .ok none =>
          let grown := if buffer.length < capacity then capacity else 2 * capacity
          act (.read (grown - buffer.length) deadline false) fun reading =>
            match reading with
            | .data bytes => readHead limits deadline timeout reads (buffer ++ bytes) grown
            | .failed failure => done (.error (.io failure.reason))
            | .timedOut => done (.error (.handshakeTimeout timeout))
            | _ => done (.error (.connectionClosed none))

def sendRequest (deadline : Nat) (text : String) : Script Transfer :=
  Gate.thenTransfer (Gate.writeAll deadline (Utf8.encode text) 0) (Gate.flush deadline)

/-- Sends a request and reads the response to it. A request that cannot be
written is not sent at all. -/
def exchange (limits : Limits) (timeout : Nat) (request : Request) :
    Script (Except Error (Response × Bytes)) := do
  let start ← perform .readClock
  let deadline := start + timeout
  match request.write with
  | (.error failure, _) => return .error failure
  | (.ok (), text) =>
      match ← sendRequest deadline text with
      | .failed failure => return .error (.io failure.reason)
      | .timedOut => return .error (.handshakeTimeout timeout)
      | .done _ => readHead limits deadline timeout (limits.handshakeSize + 2) [] headCapacity

end WebSocket.Connection
