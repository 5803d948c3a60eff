import WebSocket.Frame.Basic
import WebSocket.Handshake.Response

/-!
What observers of a connection are told, and how an observer reacts. A callback
may cancel the connection's token, and it may report a failure; nobody acts on
the failure.
-/

namespace WebSocket

inductive Event where
  | request (text : String)
  | response (response : Response)
  | opened
  | text (content : String)
  | binary (content : Bytes)
  | ping (payload : Bytes)
  | pong (payload : Bytes)
  | close (frame : Option CloseFrame)
  | frameSent (frame : Frame)
  | unexpected (opcode : Byte)
  | closed
  deriving DecidableEq, Repr

namespace Event

def name : Event → String
  | request _ => "request"
  | response _ => "response"
  | opened => "open"
  | text _ => "text"
  | binary _ => "binary"
  | ping _ => "ping"
  | pong _ => "pong"
  | close _ => "close"
  | frameSent _ => "frame_sent"
  | unexpected _ => "unexpected"
  | closed => "closed"

/-- Whether a callback is handed the connection. During the handshake there is none. -/
def hasConnection : Event → Bool
  | request _ | response _ => false
  | _ => true

end Event

/-- What an observer is told now, and what it has been told before. -/
structure Callback where
  event : Event
  heard : List Event := []
  deriving DecidableEq, Repr

def Callback.name (callback : Callback) : String := callback.event.name

/-- An observer may fail at one call and not at another. -/
structure Observer where
  fails : Callback → Bool := fun _ => false
  cancels : Event → Bool := fun _ => false

abbrev Observers := List Observer

/-- Every observer is told, whatever the others answer; the result lists who was
told and whether that observer failed. Nobody has been told anything before. -/
def Observers.notify (observers : Observers) (event : Event) : List (Nat × Bool) :=
  observers.mapIdx fun index observer => (index, observer.fails { event })

def Observers.describe (observers : Observers) : String :=
  let count := observers.length
  s!"Observers \x7b len: {count} \x7d"

end WebSocket
