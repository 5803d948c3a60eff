import WebSocket.Connection.Lifecycle
import WebSocket.Text.Hex

/-!
The two timers of a scheduler: keepalive Pings and a maintenance hook. A tick
first waits for the guard that both timers share; a tick that waits too long is
counted and dropped.
-/

namespace WebSocket.Connection

open Script

/-- A tick that is at most this late counts as in time. -/
def tickTolerance : Nat := 5

/-- The tick after one that was due at `due` and came at `now`. Ticks that were
missed are left out. -/
def nextTick (period due now : Nat) : Nat :=
  if now ≤ due + tickTolerance then due + period
  else now + period - (now - due) % period

/-- The start of a tick: the time of the next one, and whether the guard is held. -/
structure Tick where
  due : Nat
  isHeld : Bool

/-- Waits for the next tick and then for the guard; nothing if the scheduler has
been stopped. -/
def awaitTurn (setup : Setup) (scheduler period : Nat) (due : Option Nat) :
    Script (Option Tick) := do
  let start ← perform .readClock
  let planned := due.getD (start + period)
  let isTick ← perform (.awaitTick scheduler planned)
  if !isTick then return none
  else
    let now ← perform .readClock
    perform (.queueForGuard scheduler)
    let isHeld ← perform (.enterGuard scheduler (now + setup.config.timeouts.tickGuard))
    if !isHeld then perform (.countSkip scheduler)
    return some ⟨nextTick period planned now, isHeld⟩

/-- The text of a keepalive Ping: its number, a colon and sixteen digits. -/
def keepalivePayload (count high low : Nat) : Bytes :=
  Utf8.encode (toString count ++ ":" ++ String.ofList (Text.hexWord 8 high ++ Text.hexWord 8 low))

def isToken (text : List Char) : Bool :=
  text.length == 16 && text.all fun character => character.isDigit || ('a' ≤ character && character ≤ 'f')

def keepaliveNumber? (payload : Bytes) : Option String := do
  let text := (← Utf8.decode payload).toList
  let (number, token) ← Text.splitOnce (· == ':') text
  if !number.isEmpty && number.all Char.isDigit && isToken token then some (String.ofList number)
  else none

def sendKeepalive (setup : Setup) (count : Nat) : Script Bool := do
  let high ← perform .drawKey
  let low ← perform .drawKey
  let payload := keepalivePayload count (BigEndian.decode high.toBytes) (BigEndian.decode low.toBytes)
  let result ← sendFrame setup (.ping payload)
  return result.toBool

def keepalive (setup : Setup) (scheduler : Nat) (due : Option Nat) (count : Nat) :
    Script (Option Task) := do
  match ← awaitTurn setup scheduler setup.config.keepalive.interval due with
  | none => return none
  | some tick =>
      if !tick.isHeld then return some (.keepalive scheduler (some tick.due) count)
      else
        let goesOn ← (do if ← isOpen then sendKeepalive setup (count + 1) else return false)
        perform (.leaveGuard scheduler)
        if goesOn then return some (.keepalive scheduler (some tick.due) (count + 1))
        else return none

def runHook (setup : Setup) : Script Unit := do
  if setup.hook.isAnnounced then perform (.report 0 .hookStarted)
  match setup.hook.sends with
  | some content =>
      let _ ← sendFrame setup (.text content)
  | none => pure ()
  let start ← perform .readClock
  if 0 < setup.hook.lasts start then
    let _ ← perform (.sleep (start + setup.hook.lasts start) none)
    if setup.hook.isAnnounced then perform (.report 0 .hookEnded)

def maintenance (setup : Setup) (scheduler : Nat) (due : Option Nat) : Script (Option Task) := do
  match ← awaitTurn setup scheduler setup.config.maintenance.interval due with
  | none => return none
  | some tick =>
      if !tick.isHeld then return some (.maintenance scheduler (some tick.due))
      else if ← isOpen then
        runHook setup
        perform (.leaveGuard scheduler)
        return some (.maintenance scheduler (some tick.due))
      else
        perform (.leaveGuard scheduler)
        return none

def isRunning (timer : Timer) : Bool := timer.isEnabled && 0 < timer.interval

def startScheduler (setup : Setup) : Script Nat := do
  let scheduler ← perform .openScheduler
  if isRunning setup.config.keepalive then
    perform (.spawn (.keepalive scheduler none 0))
  if isRunning setup.config.maintenance then
    perform (.spawn (.maintenance scheduler none))
  return scheduler

end WebSocket.Connection
