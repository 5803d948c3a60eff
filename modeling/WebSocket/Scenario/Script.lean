import WebSocket.Connection.World
import WebSocket.Transport.Establish

/-!
Scenarios: a client and a server whose actions are laid down in advance, under a
clock that moves only where the scenario says so.
-/

namespace WebSocket

inductive ServerAction where
  | send (bytes : Bytes)
  | respond (template : String) (behind : Bytes)
  | advance (milliseconds : Nat)
  | endStream
  | reset
  | cancel
  deriving DecidableEq, Repr

def acceptMark : String := "\x7baccept\x7d"

def ServerAction.agree : ServerAction :=
  .respond ("HTTP/1.1 101 Switching Protocols\r\nUpgrade: websocket\r\nConnection: Upgrade\r\n" ++
    s!"Sec-WebSocket-Accept: {acceptMark}\r\n\r\n") []

inductive Call where
  | send (frame : Frame)
  | close (code : CloseCode) (reason : String)
  | awaitClosed
  deriving DecidableEq, Repr

def Call.script (setup : Setup) : Call → Script Report
  | send frame => (Connection.sendFrame setup frame).bind fun result => .done (.sent result)
  | close code reason => (Connection.close setup code reason).bind fun result => .done (.closed result)
  | awaitClosed => Connection.awaitClosed.bind fun _ => .done (.closed (.ok ()))

inductive ScenarioStep where
  | receive (bytes : Bytes) (thenReset : Bool)
  | calls (calls : List Call)
  | advance (milliseconds : Nat)
  | cancel
  | endStream
  | reset (first : Option Call)
  | startScheduler
  | stopScheduler
  | dropScheduler
  | inspect
  deriving DecidableEq, Repr

structure Scenario where
  url : Url
  setup : Setup
  timeout : Nat
  retries : Nat
  edits : List Request.Edit
  nonce : Bytes
  network : Network
  isCancelledFirst : Bool := false
  server : List ServerAction
  steps : List ScenarioStep

/-- What can be seen of a connection at one moment. `frames` are those that
reached the server since the last look, `partialBytes` counts what follows them. -/
structure Snapshot where
  phase : Phase
  frames : List Frame
  partialBytes : Nat
  hasEnded : Bool
  isCancelled : Bool
  peerClose : Option CloseFrame
  deriving DecidableEq, Repr

/-- What a step left behind: events, and the results of calls with the step and
the place in the step where each of them was made. -/
structure StepReport where
  snapshot : Snapshot
  events : List Entry
  results : List (Nat × Nat × Report)
  scheduler : Option (Bool × Nat)
  isInspected : Bool

structure ScenarioReport where
  journey : Journey
  edits : List (Except Error Unit) := []
  connectEvents : List Entry := []
  connect : Except Error Outcome
  request : Option Request := none
  after : Option Snapshot := none
  steps : List StepReport := []

end WebSocket
