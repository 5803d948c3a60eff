import WebSocket.Connection.Exchange
import WebSocket.Connection.Receive
import WebSocket.Connection.Timers

/-!
From an established stream to an open connection. Whatever the server does, the
observers hear of one request and one response; a handshake that fails is
reported like a refusal.
-/

namespace WebSocket.Connection

open Script

def statusTimeout : UInt16 := 408

def statusBadGateway : UInt16 := 502

def failureStatus : Error → UInt16
  | .handshakeTimeout _ => statusTimeout
  | _ => statusBadGateway

/-- The outcome of an exchange, with the bytes that came behind the response. -/
def judge (setup : Setup) (request : Request) :
    Except Error (Response × Bytes) → Outcome × Bytes
  | .ok (response, leftover) =>
      (Outcome.evaluate request response setup.config.signingKey, leftover)
  | .error failure => (Outcome.failed (failureStatus failure) failure.message, [])

/-- Starts what belongs to an open connection: the receive loop on the bytes that
are already there, and the timers. -/
def start (setup : Setup) (leftover : Bytes) : Script Unit := do
  perform (.spawn (.receive leftover { limits := setup.config.limits }))
  if setup.config.keepalive.isEnabled || setup.config.maintenance.isEnabled then
    let scheduler ← startScheduler setup
    perform (.attachScheduler scheduler)

/-- The handshake on an established stream and what follows from it. -/
def connect (setup : Setup) (timeout : Nat) (request : Request) :
    Script (Except Error Outcome) := do
  match request.write with
  | (.error failure, _) => return .error failure
  | (.ok (), text) =>
      notify setup (.request text)
      let exchanged ← exchange setup.config.limits timeout request
      let (outcome, leftover) := judge setup request exchanged
      notify setup (.response outcome.response)
      if !outcome.isOpen then
        teardown setup
        return .ok outcome
      else if ← perform (.movePhase .handshaking .opened) then
        notify setup .opened
        start setup leftover
        return .ok outcome
      else return .ok outcome

/-- A timeout of zero stands for the configured one. -/
def effectiveTimeout (config : Config) (timeout : Nat) : Nat :=
  if timeout = 0 then config.timeouts.request else timeout

end WebSocket.Connection
