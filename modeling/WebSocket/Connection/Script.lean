import WebSocket.Connection.Event
import WebSocket.Connection.Phase
import WebSocket.Handshake.Outcome
import WebSocket.Message
import WebSocket.Transport.Stream

/-!
The programs of a connection's actors. A script is a tree of actions: each one
is a single atomic step on what the actors share, and its reply selects how the
script goes on. Loops are tasks, which a script can end in.
-/

namespace WebSocket

/-- An actor that outlives the script that started it. The receive loop holds
the bytes not yet parsed, a timer the time of its next tick once it has one. -/
inductive Task where
  | receive (pending : Bytes) (assembler : Assembler)
  | watchdog
  | keepalive (scheduler : Nat) (due : Option Nat) (count : Nat)
  | maintenance (scheduler : Nat) (due : Option Nat)
  deriving DecidableEq, Repr

inductive Report where
  | sent (result : Except Error SendStatus)
  | closed (result : Except Error Unit)
  | connected (result : Except Error Outcome)
  | exchanged (result : Except Error (Response × Bytes))
  | hookStarted
  | hookEnded

inductive Action where
  | readPhase
  | movePhase (source target : Phase)
  | closePhase
  | claimClose
  | readPeerClose
  | recordPeerClose (frame : Option CloseFrame)
  | readToken
  | cancelToken
  | announceClosed
  | awaitClosed (deadline : Option Nat)
  | tell (observer : Nat) (event : Event)
  | queueForGate (content : Bytes)
  | enterGate
  | leaveGate
  | takeWriter
  | write (bytes : Bytes) (deadline : Nat)
  | flush (deadline : Nat)
  | shutdown (deadline : Nat)
  | read (room deadline : Nat) (isCancellable : Bool)
  | readClock
  | sleep (till : Nat) (deadline : Option Nat)
  | drawKey
  | spawn (task : Task)
  | openScheduler
  | attachScheduler (scheduler : Nat)
  | takeScheduler
  | stopScheduler (scheduler : Nat)
  | awaitTick (scheduler due : Nat)
  | queueForGuard (scheduler : Nat)
  | enterGuard (scheduler deadline : Nat)
  | leaveGuard (scheduler : Nat)
  | countSkip (scheduler : Nat)
  | report (id : Nat) (report : Report)

/-- What an action answers. `enterGate` tells whether there still is a writer;
an action with a deadline tells whether it was done in time. -/
@[reducible] def Action.Reply : Action → Type
  | readPhase => Phase
  | movePhase .. => Bool
  | closePhase => Phase
  | claimClose => Bool
  | readPeerClose => Option CloseFrame
  | readToken => Bool
  | awaitClosed _ => Bool
  | enterGate => Bool
  | write .. => Transfer
  | flush _ => Transfer
  | shutdown _ => Transfer
  | read .. => Reading
  | readClock => Nat
  | sleep .. => Bool
  | drawKey => MaskKey
  | openScheduler => Nat
  | takeScheduler => Option Nat
  | awaitTick .. => Bool
  | enterGuard .. => Bool
  | _ => Unit

inductive Script (Result : Type) where
  | done (result : Result)
  | act (action : Action) (next : action.Reply → Script Result)

namespace Script

variable {First Second : Type}

def bind (script : Script First) (next : First → Script Second) : Script Second :=
  match script with
  | done result => next result
  | act action rest => act action fun reply => (rest reply).bind next

instance : Monad Script where
  pure := done
  bind := bind

theorem bind_done (script : Script First) : script.bind done = script := by
  induction script with
  | done result => rfl
  | act action next induction => simp only [bind, induction]

theorem bind_assoc {Third : Type} (script : Script First) (next : First → Script Second)
    (last : Second → Script Third) :
    (script.bind next).bind last = script.bind fun result => (next result).bind last := by
  induction script with
  | done result => rfl
  | act action rest induction => simp only [bind, induction]

def perform (action : Action) : Script action.Reply := act action done

end Script

end WebSocket
