import WebSocket.Proofs.Timers.Apart

/-!
The rounds of a timer. Both timers of a scheduler go through the same round, and they differ in what
they do while they hold the guard: a round waits for the tick that is due and then for the guard. If
it gets the guard, it looks whether the connection is open, works if it is, and leaves the guard.
-/

namespace WebSocket

open Script Connection

/-- What a round is made of: the scheduler, how long a tick waits for its guard, the period, what
the timer goes on with, and its work. -/
structure Rounds where
  scheduler : Nat
  wait : Nat
  period : Nat
  task : Option Nat → Nat → Task
  work : Nat → Script Bool

namespace Rounds

/-- The end of a round that has had the guard. Without more to do, the timer is over. -/
def leavesGuard (rounds : Rounds) (next count : Nat) (goesOn : Bool) : Script (Option Task) :=
  act (.leaveGuard rounds.scheduler) fun _ =>
    done (if goesOn then some (rounds.task (some next) (count + 1)) else none)

def looksAround (rounds : Rounds) (next count : Nat) : Script (Option Task) :=
  act .readPhase fun phase =>
    if phase = .opened then (rounds.work count).bind (rounds.leavesGuard next count)
    else rounds.leavesGuard next count false

def skips (rounds : Rounds) (next count : Nat) : Script (Option Task) :=
  act (.countSkip rounds.scheduler) fun _ => done (some (rounds.task (some next) count))

def awaitsGuard (rounds : Rounds) (due count now : Nat) : Script (Option Task) :=
  act (.enterGuard rounds.scheduler (now + rounds.wait)) fun isHeld =>
    if isHeld then rounds.looksAround (nextTick rounds.period due now) count
    else rounds.skips (nextTick rounds.period due now) count

def joinsLine (rounds : Rounds) (due count now : Nat) : Script (Option Task) :=
  act (.queueForGuard rounds.scheduler) fun _ => rounds.awaitsGuard due count now

def takesTick (rounds : Rounds) (due count : Nat) : Script (Option Task) :=
  act .readClock fun now => rounds.joinsLine due count now

def awaitsTick (rounds : Rounds) (due count : Nat) : Script (Option Task) :=
  act (.awaitTick rounds.scheduler due) fun isTick =>
    if isTick then rounds.takesTick due count else done none

def round (rounds : Rounds) (due : Option Nat) (count : Nat) : Script (Option Task) :=
  act .readClock fun start => rounds.awaitsTick (due.getD (start + rounds.period)) count

theorem round_of_turn {setup : Setup} (rounds : Rounds)
    (wait : rounds.wait = setup.config.timeouts.tickGuard) {due : Option Nat} {count : Nat}
    {next : Option Tick → Script (Option Task)} (stopped : next none = done none)
    (missed : ∀ due, next (some ⟨due, false⟩) = done (some (rounds.task (some due) count)))
    (held : ∀ due, next (some ⟨due, true⟩) = rounds.looksAround due count) :
    (awaitTurn setup rounds.scheduler rounds.period due).bind next = rounds.round due count := by
  apply congrArg (act _)
  funext start
  apply congrArg (act _)
  funext isTick
  cases isTick with
  | false => exact stopped
  | true =>
      apply congrArg (act _)
      funext now
      apply congrArg (act _)
      funext _
      unfold awaitsGuard
      rw [wait]
      apply congrArg (act _)
      funext isHeld
      cases isHeld with
      | false => exact congrArg (act _) (funext fun _ => missed _)
      | true => exact held _

end Rounds

/-- A timer of a scheduler. Each of its tasks is a round, and its work leaves the guard to that. -/
structure Ticker (setup : Setup) extends Rounds where
  runs : ∀ due count, (task due count).script setup = toRounds.round due count
  apart : ∀ count, (work count).IsApart
  waits : wait = setup.config.timeouts.tickGuard

def Rounds.keepalive (setup : Setup) (scheduler : Nat) : Rounds where
  scheduler := scheduler
  wait := setup.config.timeouts.tickGuard
  period := setup.config.keepalive.interval
  task := .keepalive scheduler
  work count := sendKeepalive setup (count + 1)

def Rounds.maintenance (setup : Setup) (scheduler : Nat) : Rounds where
  scheduler := scheduler
  wait := setup.config.timeouts.tickGuard
  period := setup.config.maintenance.interval
  task due _ := .maintenance scheduler due
  work _ := (runHook setup).bind fun _ => done true

namespace Ticker

def keepalive (setup : Setup) (scheduler : Nat) : Ticker setup where
  toRounds := .keepalive setup scheduler
  runs due count := by
    apply (Rounds.keepalive setup scheduler).round_of_turn rfl rfl (fun _ => rfl)
    intro due
    apply congrArg (act _)
    funext phase
    cases phase with
    | opened =>
        apply congrArg (Script.bind _)
        funext goesOn
        cases goesOn <;> rfl
    | _ => rfl
  apart count := .of_common (.of_send_keepalive (count + 1))
  waits := rfl

def maintenance (setup : Setup) (scheduler : Nat) : Ticker setup where
  toRounds := .maintenance setup scheduler
  runs due count := by
    apply (Rounds.maintenance setup scheduler).round_of_turn rfl rfl (fun _ => rfl)
    intro due
    apply congrArg (act _)
    funext phase
    cases phase with
    | opened =>
        exact (Script.bind_assoc (runHook setup) (fun _ => done true)
          ((Rounds.maintenance setup scheduler).leavesGuard due count)).symm
    | _ => rfl
  apart _ := All.bind (IsApart.of_common .of_run_hook) fun _ => trivial
  waits := rfl

end Ticker

end WebSocket
