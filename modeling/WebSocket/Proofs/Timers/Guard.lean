import WebSocket.Proofs.Timers.Rounds

/-!
The guard of a scheduler. Whoever holds it came by the line, looks once whether the connection is
open, and gives it back; nobody else touches it. So there is at most one inside at any time.
-/

namespace WebSocket

open Script Connection

namespace Hub

theorem scheduler_update (hub : Hub) (id other : Nat) (update : Scheduler → Scheduler) :
    (hub.updateScheduler id update).scheduler other =
      if id = other ∧ other < hub.schedulers.length then update (hub.scheduler other)
      else hub.scheduler other := by
  unfold updateScheduler scheduler
  rw [List.getElem?_modify]
  by_cases within : other < hub.schedulers.length
  · simp [within]
  · simp [within]

theorem schedulers_length_update (hub : Hub) (id : Nat) (update : Scheduler → Scheduler) :
    (hub.updateScheduler id update).schedulers.length = hub.schedulers.length :=
  List.length_modify ..

end Hub

def Happening.isSkip (scheduler : Nat) : Happening → Bool
  | ⟨_, .countSkip id, some _⟩ => id == scheduler
  | _ => false

namespace Action

variable {setup : Setup} {actor : Nat} {action : Action} {hub : Hub} {effect : Effect action.Reply}

def isOfScheduler : Action → Bool
  | openScheduler | attachScheduler _ | stopScheduler _ | queueForGuard _ | enterGuard .. | leaveGuard _
  | countSkip _ => true
  | _ => false

theorem schedulers_of_effect (other : action.isOfScheduler = false)
    (member : effect ∈ action.effects setup actor hub) : effect.hub.schedulers = hub.schedulers := by
  cases action with
  | openScheduler | attachScheduler | stopScheduler | queueForGuard | enterGuard | leaveGuard
    | countSkip => cases other
  | tell observer event =>
      obtain rfl := List.mem_singleton.mp member
      unfold Hub.tell
      split
      · rfl
      · dsimp only
        split <;> rfl
  | write | flush | shutdown =>
      simp only [effects, Hub.transfer, Hub.answer] at member
      grind
  | read =>
      simp only [effects, Hub.receive, Hub.answer] at member
      grind
  | _ =>
      simp only [effects, Hub.answer, Hub.log] at member
      grind

end Action

/-- What becomes of one scheduler when an action is done: it is not started again, its skips are
counted, and its guard is passed on by those who enter and leave it. -/
structure Scheduler.Becomes (number actor : Nat) (action : Action) (reply : Option action.Reply)
    (old new : Scheduler) : Prop where
  stopped : old.isStopped = true → new.isStopped = true
  skipped : new.skipped =
    old.skipped + if Happening.isSkip number ⟨actor, action, reply⟩ then 1 else 0
  holder : new.guard.holder = old.guard.holder ∨
    (∃ deadline, (⟨actor, action, reply⟩ : Happening) = ⟨actor, .enterGuard number deadline, some true⟩ ∧
      old.guard.holder = none ∧ new.guard.holder = some actor) ∨
    action = .leaveGuard number ∧ new.guard.holder = none

namespace Action

variable {setup : Setup} {actor number : Nat} {action : Action} {hub : Hub}
variable {effect : Effect action.Reply}

theorem becomes_same (scheduler : Scheduler) {reply : Option action.Reply}
    (unskipped : Happening.isSkip number ⟨actor, action, reply⟩ = false) :
    Scheduler.Becomes number actor action reply scheduler scheduler :=
  ⟨fun stopped => stopped, by simp [unskipped], .inl rfl⟩

theorem becomes_of_update {changed : Nat} {update : Scheduler → Scheduler} {reply : Option action.Reply}
    (there : number < hub.schedulers.length)
    (own : changed = number → Scheduler.Becomes number actor action reply (hub.scheduler number)
      (update (hub.scheduler number)))
    (elsewhere : changed ≠ number → Happening.isSkip number ⟨actor, action, reply⟩ = false) :
    number < (hub.updateScheduler changed update).schedulers.length ∧
      Scheduler.Becomes number actor action reply (hub.scheduler number)
        ((hub.updateScheduler changed update).scheduler number) := by
  refine ⟨by rwa [Hub.schedulers_length_update], ?_⟩
  rw [Hub.scheduler_update]
  by_cases same : changed = number
  · rw [if_pos ⟨same, there⟩]
    exact own same
  · rw [if_neg fun both => same both.1]
    exact becomes_same _ (elsewhere same)

theorem scheduler_of_effect (there : number < hub.schedulers.length)
    (member : effect ∈ action.effects setup actor hub) :
    number < effect.hub.schedulers.length ∧
      Scheduler.Becomes number actor action effect.reply (hub.scheduler number)
        (effect.hub.scheduler number) := by
  by_cases other : action.isOfScheduler = false
  · have same := schedulers_of_effect other member
    unfold Hub.scheduler
    rw [same]
    refine ⟨there, becomes_same _ ?_⟩
    cases action <;> first | rfl | cases other
  · cases action with
    | openScheduler =>
        obtain rfl := List.mem_singleton.mp member
        have same : Hub.scheduler { hub with schedulers := hub.schedulers ++ [Scheduler.fresh] } number =
            hub.scheduler number := by
          unfold Hub.scheduler
          rw [List.getElem?_append_left there]
        rw [same]
        exact ⟨by simp; omega, becomes_same _ rfl⟩
    | attachScheduler scheduler =>
        obtain rfl := List.mem_singleton.mp member
        cases attached : hub.attached with
        | none => exact ⟨there, becomes_same _ rfl⟩
        | some old => exact becomes_of_update there (fun _ => ⟨fun _ => rfl, rfl, .inl rfl⟩) fun _ => rfl
    | stopScheduler scheduler =>
        obtain rfl := List.mem_singleton.mp member
        exact becomes_of_update there (fun _ => ⟨fun _ => rfl, rfl, .inl rfl⟩) fun _ => rfl
    | queueForGuard scheduler =>
        obtain rfl := List.mem_singleton.mp member
        exact becomes_of_update there (fun _ => ⟨fun stopped => stopped, rfl, .inl rfl⟩) fun _ => rfl
    | enterGuard scheduler deadline =>
        simp only [effects] at member
        split at member
        · rename_i free
          obtain rfl := List.mem_singleton.mp member
          refine becomes_of_update there (fun same => ⟨fun stopped => stopped, rfl, ?_⟩) fun _ => rfl
          subst same
          rw [Lock.canEnter, Bool.and_eq_true, Option.isNone_iff_eq_none] at free
          exact .inr (.inl ⟨deadline, rfl, free.1, rfl⟩)
        · split at member
          · obtain rfl := List.mem_singleton.mp member
            exact becomes_of_update there (fun _ => ⟨fun stopped => stopped, rfl, .inl rfl⟩) fun _ => rfl
          · cases member
    | leaveGuard scheduler =>
        obtain rfl := List.mem_singleton.mp member
        refine becomes_of_update there (fun same => ⟨fun stopped => stopped, rfl, ?_⟩) fun _ => rfl
        exact .inr (.inr ⟨congrArg _ same, rfl⟩)
    | countSkip scheduler =>
        obtain rfl := List.mem_singleton.mp member
        apply becomes_of_update there
        · intro same
          exact ⟨fun stopped => stopped, by simp [Happening.isSkip, same], .inl rfl⟩
        · intro different
          simpa [Happening.isSkip] using different
    | _ => exact absurd rfl other

theorem holder_of_enter {deadline : Nat} {effect : Effect (enterGuard number deadline).Reply}
    (member : effect ∈ (enterGuard number deadline).effects setup actor hub)
    (told : effect.reply = some true) :
    number < effect.hub.schedulers.length ∧
      (effect.hub.scheduler number).guard.holder = some actor := by
  simp only [effects] at member
  split at member
  · rename_i free
    obtain rfl := List.mem_singleton.mp member
    have there : number < hub.schedulers.length := by
      by_contra beyond
      have absent : hub.scheduler number = { isStopped := true } := by
        simp [Hub.scheduler, beyond]
      rw [absent] at free
      cases free
    refine ⟨by rwa [Hub.schedulers_length_update], ?_⟩
    rw [Hub.scheduler_update, if_pos ⟨rfl, there⟩]
    rfl
  · split at member
    · obtain rfl := List.mem_singleton.mp member
      cases told
    · cases member

end Action

/-- How an actor stands to the guard of a scheduler. -/
inductive Tenure where
  | away
  | queued (scheduler : Nat)
  | refused (scheduler : Nat)
  | entered (scheduler : Nat)
  | working (scheduler : Nat)
  | leaving (scheduler : Nat)
  | gone
  deriving DecidableEq, Repr

namespace Tenure

def held? : Tenure → Option Nat
  | entered scheduler | working scheduler | leaving scheduler => some scheduler
  | _ => none

/-- Where it does not matter to the guard what is done, as long as it is not a timer's business. -/
def IsFree : Tenure → Prop
  | away | working _ => True
  | _ => False

/-- Who has found the connection not open leaves the guard, and that is the end. -/
def conduct : Conduct Tenure where
  start := away
  permits _ tenure action :=
    match tenure with
    | away =>
        match action with
        | .enterGuard .. | .leaveGuard _ | .countSkip _ => False
        | _ => True
    | queued scheduler => ∃ deadline, action = .enterGuard scheduler deadline
    | refused scheduler => action = .countSkip scheduler
    | entered _ => action = .readPhase
    | working scheduler => action.isOfTimer = false ∨ action = .leaveGuard scheduler
    | leaving scheduler => action = .leaveGuard scheduler
    | gone => False
  after tenure
    | .queueForGuard scheduler, _ => queued scheduler
    | .enterGuard scheduler _, isHeld => if isHeld then entered scheduler else refused scheduler
    | .countSkip _, _ => away
    | .readPhase, phase =>
        match tenure with
        | entered scheduler => if phase = .opened then working scheduler else leaving scheduler
        | other => other
    | .leaveGuard _, _ =>
        match tenure with
        | leaving _ => gone
        | _ => away
    | _, _ => tenure

def IsThrough : Option Task → Tenure → Prop
  | some _, tenure => tenure = away
  | none, tenure => tenure.held? = none

variable {setup : Setup} {tenure : Tenure} {actor : Nat} {Result : Type}

theorem held_after (actor : Nat) {action : Action} {reply : action.Reply} {scheduler : Nat}
    (held : (conduct.after tenure action reply).held? = some scheduler) :
    (∃ deadline, (⟨actor, action, some reply⟩ : Happening) =
        ⟨actor, .enterGuard scheduler deadline, some true⟩) ∨
      tenure.held? = some scheduler ∧ ∀ left, action ≠ .leaveGuard left := by
  cases action with
  | enterGuard other deadline =>
      cases reply with
      | true =>
          obtain rfl : other = scheduler := Option.some.inj held
          exact .inl ⟨deadline, rfl⟩
      | false => cases held
  | queueForGuard | countSkip => cases held
  | leaveGuard other => cases tenure <;> cases held
  | readPhase =>
      right
      cases tenure with
      | entered other =>
          refine ⟨?_, nofun⟩
          simp only [conduct] at held
          split at held <;> exact held
      | _ => exact ⟨held, nofun⟩
  | _ => exact .inr ⟨held, nofun⟩

theorem held_of_leave {scheduler : Nat} (permitted : conduct.permits actor tenure (.leaveGuard scheduler)) :
    tenure.held? = some scheduler := by
  cases tenure with
  | away | gone => exact permitted.elim
  | queued => exact absurd permitted.choose_spec nofun
  | refused | entered => cases permitted
  | working other =>
      rcases permitted with wrong | same
      · cases wrong
      · cases same
        rfl
  | leaving other =>
      cases permitted
      rfl

theorem follows_of_apart {script : Script Result} (apart : script.IsApart) (free : tenure.IsFree) :
    script.Follows conduct actor (fun _ after => after = tenure) tenure := by
  apply All.follows _ _ apart
  · intro action apart
    cases tenure with
    | away => cases action <;> first | exact trivial | cases apart
    | working scheduler => exact .inl apart
    | _ => exact free.elim
  · intro action apart reply
    cases tenure with
    | away | working => cases action <;> first | rfl | cases apart
    | _ => exact free.elim

theorem through_of_away (result : Option Task) : IsThrough result away := by
  cases result <;> rfl

theorem ends_of_apart {script : Script (Option Task)} (apart : script.IsApart) :
    script.Follows conduct actor IsThrough away := by
  have stays : script.Follows conduct actor (fun _ after => after = away) away :=
    follows_of_apart apart trivial
  exact stays.mono fun result _ same => same ▸ through_of_away result

theorem follows_round (ticker : Ticker setup) (due : Option Nat) (count : Nat) :
    ((ticker.task due count).script setup).Follows conduct actor IsThrough away := by
  rw [ticker.runs]
  refine ⟨trivial, fun start => ⟨trivial, fun isTick => ?_⟩⟩
  cases isTick with
  | false => exact rfl
  | true =>
      refine ⟨trivial, fun now => ⟨trivial, fun _ => ⟨⟨_, rfl⟩, fun isHeld => ?_⟩⟩⟩
      cases isHeld with
      | false => exact ⟨rfl, fun _ => rfl⟩
      | true =>
          refine ⟨rfl, fun phase => ?_⟩
          cases phase with
          | opened =>
              have works : (ticker.work count).Follows conduct actor
                  (fun _ after => after = working ticker.scheduler) (working ticker.scheduler) :=
                follows_of_apart (ticker.apart count) trivial
              apply works.bind
              rintro goesOn _ rfl
              exact ⟨.inr rfl, fun _ => through_of_away _⟩
          | _ => exact ⟨rfl, fun _ => rfl⟩

theorem follows_task (task : Task) : (task.script setup).Follows conduct actor IsThrough away := by
  cases task with
  | receive pending assembler => exact ends_of_apart (IsApart.of_receive pending assembler)
  | watchdog => exact ends_of_apart (.of_common .of_watchdog)
  | keepalive scheduler due count => exact follows_round (.keepalive setup scheduler) due count
  | maintenance scheduler due => exact follows_round (.maintenance setup scheduler) due 0

end Tenure

/-- What begins in the setting is either a task or apart from the timers. -/
structure World.Setting.IsOrderly (setting : World.Setting) : Prop where
  begins : ∀ {setup script}, setting.begins setup script →
    script.IsApart ∨ ∃ task : Task, script = task.script setup
  drifts : ∀ {hub next : Hub}, setting.drifts hub next → hub.Drift next

namespace World

open Tenure

variable {setting : Setting} {start world : World} {history : History}

theorem Setting.IsOrderly.respects (orderly : setting.IsOrderly) (setup : Setup) :
    setting.Respects Tenure.conduct Tenure.IsThrough setup where
  begins begins actor := by
    rcases orderly.begins begins with apart | ⟨task, rfl⟩
    · exact ends_of_apart apart
    · exact follows_task task
  spawns _ _ := follows_task _
  resumes through := through ▸ follows_task _

theorem session_orderly : session.IsOrderly where
  begins joins := joins.passes.imp_left .of_passing
  drifts drifts := drifts

theorem operations_orderly : operations.IsOrderly where
  begins operates := operates.passes.imp_left .of_passing
  drifts drifts := drifts

/-- Whoever is inside holds the guard. -/
def HoldGuards (history : History) (hub : Hub) : Prop :=
  ∀ actor scheduler, (history.stand Tenure.conduct actor).held? = some scheduler →
    scheduler < hub.schedulers.length ∧ (hub.scheduler scheduler).guard.holder = some actor

theorem hold_guards_step {setup : Setup} {hub : Hub} {actor : Nat} {action : Action}
    {effect : Effect action.Reply} (hold : HoldGuards history hub)
    (permitted : Tenure.conduct.permits actor (history.stand Tenure.conduct actor) action)
    (member : effect ∈ action.effects setup actor hub) :
    HoldGuards (history ++ [⟨actor, action, effect.reply⟩]) effect.hub := by
  -- Whoever was inside before still holds the guard, unless it is he who leaves.
  have stays (other scheduler : Nat)
      (held : (history.stand Tenure.conduct other).held? = some scheduler)
      (unleft : action = .leaveGuard scheduler → actor ≠ other) :
      scheduler < effect.hub.schedulers.length ∧
        (effect.hub.scheduler scheduler).guard.holder = some other := by
    obtain ⟨there, holds⟩ := hold other scheduler held
    obtain ⟨within, becomes⟩ := Action.scheduler_of_effect there member
    refine ⟨within, ?_⟩
    rcases becomes.holder with same | ⟨_, _, free, _⟩ | ⟨leaves, _⟩
    · exact same.trans holds
    · rw [free] at holds
      cases holds
    · have own := (hold actor scheduler (held_of_leave (leaves ▸ permitted))).2
      rw [own] at holds
      exact absurd (Option.some.inj holds) (unleft leaves)
  intro other scheduler held
  by_cases own : actor = other
  · subst own
    cases told : effect.reply with
    | none =>
        rw [told, History.stand_waiting] at held
        apply stays actor scheduler held
        rintro rfl
        obtain rfl := List.mem_singleton.mp member
        cases told
    | some reply =>
        rw [told, History.stand_own] at held
        rcases held_after actor held with ⟨deadline, enters⟩ | ⟨before, stayed⟩
        · cases enters
          exact Action.holder_of_enter member told
        · exact stays actor scheduler before fun leaves => absurd leaves (stayed scheduler)
  · rw [History.stand_other own] at held
    exact stays other scheduler held fun _ => own

theorem hold_guards_of_run (orderly : setting.IsOrderly) (empty : start.actors = [])
    (run : start.RunIn setting history world) : HoldGuards history world.hub := by
  apply run.invariant HoldGuards (orderly.respects start.setup) (obeys_of_empty empty _)
  · intro actor scheduler held
    cases held
  · intro history hub next hold drifts
    cases orderly.drifts drifts <;> exact hold
  · exact fun hold permitted member => hold_guards_step hold permitted member

/-- Two actors are never inside the guard of one scheduler at the same time. -/
theorem one_inside (orderly : setting.IsOrderly) (empty : start.actors = [])
    (run : start.RunIn setting history world) {scheduler first second : Nat}
    (inside : (history.stand Tenure.conduct first).held? = some scheduler)
    (insideToo : (history.stand Tenure.conduct second).held? = some scheduler) : first = second := by
  have hold := hold_guards_of_run orderly empty run
  have holder := (hold first scheduler inside).2
  rw [(hold second scheduler insideToo).2] at holder
  exact (Option.some.inj holder).symm

/-- In a run a scheduler stays there and stays stopped, and each of its skips is counted once. -/
theorem scheduler_of_run (orderly : setting.IsOrderly) {number : Nat}
    (there : number < start.hub.schedulers.length) (run : start.RunIn setting history world) :
    number < world.hub.schedulers.length ∧
      (world.hub.scheduler number).skipped =
        (start.hub.scheduler number).skipped + history.countP (Happening.isSkip number) ∧
      (start.hub.isStopped number = true → world.hub.isStopped number = true) := by
  induction run with
  | refl => exact ⟨there, rfl, fun stopped => stopped⟩
  | @act history world index actor action next effect before here doing member induction =>
      obtain ⟨within, skipped, stops⟩ := induction
      obtain ⟨stays, becomes⟩ := Action.scheduler_of_effect within member
      rw [follow_eq]
      refine ⟨stays, ?_, ?_⟩
      · rw [List.countP_append, List.countP_singleton, ← Nat.add_assoc, ← skipped]
        exact becomes.skipped
      · intro stopped
        have before := stops stopped
        rw [Hub.isStopped, Bool.or_eq_true] at before ⊢
        exact before.imp (Action.signals_of_effect member).2 becomes.stopped
  | goOn _ _ _ induction => exact induction
  | begin _ _ induction => exact induction
  | drift _ drifts induction =>
      obtain ⟨within, skipped, stops⟩ := induction
      cases orderly.drifts drifts with
      | cancel => exact ⟨within, skipped, fun _ => rfl⟩
      | _ => exact ⟨within, skipped, stops⟩

end World

end WebSocket
