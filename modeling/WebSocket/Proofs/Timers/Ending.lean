import WebSocket.Proofs.Connection.CloseReturns
import WebSocket.Proofs.Timers.Guard

/-!
The timers at the end of a connection. The one who closes it cancels its token first of all, which
stops every scheduler that there is or will be. A timer that is just about to look whether the
connection is open finds it closed, and leaves.
-/

namespace WebSocket

theorem Happening.actor_of_mark {happening : Happening} {actor : Nat} {mark : Mark}
    (marked : happening.mark? = some (actor, mark)) : happening.actor = actor := by
  unfold mark? at marked
  split at marked <;> grind

namespace History

variable {history : History} {place actor : Nat}

/-- Whoever has looked around inside the guard and has not found the connection open does nothing
but leave it. -/
def LeavesOnly (history : History) : Prop :=
  ∀ look timer scheduler seen, history[look]? = some ⟨timer, .readPhase, some seen⟩ →
    stand (history.take look) Tenure.conduct timer = .entered scheduler → seen ≠ .opened →
    history.stand Tenure.conduct timer = .leaving scheduler ∧ history.behind look timer = [] ∨
    history.stand Tenure.conduct timer = .gone ∧
      history.behind look timer = [⟨timer, .leaveGuard scheduler, some ()⟩]

theorem LeavesOnly.step {setup : Setup} {hub : Hub} {action : Action} {effect : Effect action.Reply}
    (leaves : history.LeavesOnly)
    (permitted : Tenure.conduct.permits actor (history.stand Tenure.conduct actor) action)
    (member : effect ∈ action.effects setup actor hub) :
    LeavesOnly (history ++ [⟨actor, action, effect.reply⟩]) := by
  intro look timer scheduler seen found inside barred
  rcases History.of_append found with ⟨within, found⟩ | ⟨rfl, same⟩
  · rw [List.take_append_of_le_length (Nat.le_of_lt within)] at inside
    have before := leaves look timer scheduler seen found inside barred
    rw [behind_append within]
    by_cases own : actor = timer
    · subst own
      rcases before with ⟨leaving, nothing⟩ | ⟨gone, _⟩
      · rw [leaving] at permitted
        obtain rfl : action = .leaveGuard scheduler := permitted
        obtain rfl := List.mem_singleton.mp member
        right
        rw [History.stand_own, leaving, nothing]
        exact ⟨rfl, by simp⟩
      · rw [gone] at permitted
        exact permitted.elim
    · rw [History.stand_other own, if_neg own, List.append_nil]
      exact before
  · rw [List.take_left] at inside
    generalize effect.reply = reply at same ⊢
    cases same
    left
    rw [History.stand_own, inside, behind_newest]
    exact ⟨if_neg barred, rfl⟩

end History

namespace World

open Connection

variable {setting : Setting} {start world : World} {history : History}

theorem leaves_only_of_run (orderly : setting.IsOrderly) (empty : start.actors = [])
    (run : start.RunIn setting history world) : history.LeavesOnly := by
  apply run.invariant (fun history _ => history.LeavesOnly) (orderly.respects start.setup)
    (obeys_of_empty empty _)
  · intro look timer scheduler seen found
    cases found
  · exact fun leaves _ => leaves
  · exact fun leaves permitted member => leaves.step permitted member

theorem saw_closed (usual : setting.IsUsual) (empty : start.actors = [])
    (run : start.RunIn setting history world) {look looker closer : Nat} {seen before : Phase}
    (found : history[look]? = some ⟨looker, .readPhase, some seen⟩)
    (closed : ⟨closer, .closePhase, some before⟩ ∈ history.take look) : seen = .closed := by
  obtain ⟨moment, _, _, effect, earlier, _, _, member, told⟩ := run.at_place found
  obtain rfl := List.mem_singleton.mp member
  have ascends := ascends_of_run usual empty earlier
  have sight : Phase.closed ∈ (history.take look).flatMap Happening.sights :=
    List.mem_flatMap.mpr ⟨_, closed, List.mem_cons_of_mem _ List.mem_cons_self⟩
  rw [← Phase.eq_closed_of_le (ascends.le_of_mem sight)]
  exact (Option.some.inj told).symm

theorem cancels_of_through (unended : start.Unended) (run : start.RunIn operations history world)
    {closer : Nat} (closes : (closer, .closes) ∈ history.marks)
    (through : ∀ actor, world.actors[closer]? = some actor → actor.action? = none) :
    (closer, .cancels) ∈ history.marks := by
  have obeys := run.obeys (operations_usual.respects start.setup) (obeys_of_empty unended.actors _)
  rcases ending_of_run operations_usual unended run with unreleased | ⟨winner, releasing⟩
  · rw [unreleased.unmarked] at closes
    cases closes
  · obtain rfl : winner = closer := by
      rw [releasing.marks] at closes
      obtain ⟨mark, _, same⟩ := List.mem_map.mp closes
      exact congrArg Prod.fst same
    have complete : history.marks = (Release.complete start.setup.observers.length).map (Prod.mk winner) := by
      apply releasing.complete
      obtain ⟨happening, member, marked⟩ := List.mem_filterMap.mp closes
      have known : winner < world.actors.length := by
        have acts : happening.actor = winner := Happening.actor_of_mark marked
        exact acts ▸ obeys.known happening member
      have here := List.getElem?_eq_getElem known
      have follows := obeys.follows winner _ here
      have finished := through _ here
      unfold Actor.action? at finished
      split at finished
      · rename_i result doing
        rwa [doing] at follows
      · cases finished
    rw [complete]
    simp [Release.complete, Release.marks]

theorem cancels_of_announced (unended : start.Unended) (run : start.RunIn operations history world)
    (announced : world.hub.closedAnnounced = true) : ∃ closer, (closer, .cancels) ∈ history.marks := by
  rcases ending_of_run operations_usual unended run with unreleased | ⟨winner, releasing⟩
  · rw [unreleased.announced] at announced
    cases announced
  · refine ⟨winner, ?_⟩
    rw [releasing.fits.announced] at announced
    rw [releasing.marks]
    cases stand : history.stand (Release.conduct start.setup.observers.length) winner with
    | announced told => simp [Release.marks]
    | _ =>
        rw [stand] at announced
        cases announced

theorem stopped_of_cancels (unended : start.Unended) (run : start.RunIn operations history world)
    {closer : Nat} (cancels : (closer, .cancels) ∈ history.marks) (scheduler : Nat) :
    world.hub.isStopped scheduler = true := by
  have ending := ending_of_run operations_usual unended run
  have cancelled : world.hub.isCancelled = true := ending.cancelled_of_mark cancels nofun
  simp [Hub.isStopped, cancelled]

/-- In every order of what begins and ends a connection: The one who closes it has cancelled its
token when he is through, and so has somebody as soon as the end is announced. Once the token is
cancelled, every scheduler is stopped, whether it was there, or attached, before or not. And a timer
that has the guard and looks whether the connection is open after somebody has closed it finds it
closed and does nothing more but leave the guard. -/
theorem timers_end (unended : start.Unended) (run : start.RunIn operations history world) :
    (∀ closer, (closer, .closes) ∈ history.marks →
      (∀ actor, world.actors[closer]? = some actor → actor.action? = none) →
      (closer, .cancels) ∈ history.marks) ∧
    (world.hub.closedAnnounced = true → ∃ closer, (closer, .cancels) ∈ history.marks) ∧
    (∀ closer, (closer, .cancels) ∈ history.marks →
      ∀ scheduler, world.hub.isStopped scheduler = true) ∧
    ∀ look timer scheduler seen closer before,
      history[look]? = some ⟨timer, .readPhase, some seen⟩ →
      History.stand (history.take look) Tenure.conduct timer = .entered scheduler →
      ⟨closer, .closePhase, some before⟩ ∈ history.take look →
      seen = .closed ∧ history.behind look timer <+: [⟨timer, .leaveGuard scheduler, some ()⟩] := by
  refine ⟨fun closer closes through => cancels_of_through unended run closes through,
    cancels_of_announced unended run, fun closer cancels => stopped_of_cancels unended run cancels, ?_⟩
  intro look timer scheduler seen closer before found inside closed
  obtain rfl := saw_closed operations_usual unended.actors run found closed
  have leaves := leaves_only_of_run operations_orderly unended.actors run
  rcases leaves look timer scheduler .closed found inside nofun with ⟨_, nothing⟩ | ⟨_, leave⟩
  · exact ⟨rfl, nothing ▸ List.nil_prefix⟩
  · exact ⟨rfl, leave ▸ List.prefix_refl _⟩

/-- A connection with a keepalive timer that is about to be opened. -/
def kept : World :=
  { setup := { config := { keepalive := { isEnabled := true, interval := 1 } } } }

def unattached : History × World :=
  play [0, 0, 0, 0, 2]
    ([], kept.addActor ⟨(Connection.proceed kept.setup true []).bind fun _ => .done none, false⟩)

/-- The timer has its tick and the guard. The receive loop comes to the end of the stream and tears
the connection down, with nothing in the slot; then the scheduler is attached, and the timer goes on. -/
def attachedLate : History × World :=
  play [2, 2, 2, 2, 1, 1, 1, 1, 1, 1, 1, 1, 1, 1, 1, 1, 1, 0, 2, 2]
    (unattached.1, { unattached.2 with hub := { unattached.2.hub with now := 1 } })

theorem timers_end_attached_late :
    attachedLate.1[14]? = some ⟨1, .takeScheduler, some none⟩ ∧
      attachedLate.1[22]? = some ⟨0, .attachScheduler 0, some ()⟩ ∧
      (1, .cancels) ∈ attachedLate.1.marks ∧ attachedLate.2.hub.isStopped 0 = true ∧
      attachedLate.1[23]? = some ⟨2, .readPhase, some .closed⟩ ∧
      attachedLate.1.behind 23 2 <+: [⟨2, .leaveGuard 0, some ()⟩] := by
  have unended : kept.Unended := ⟨rfl, by decide, rfl, rfl⟩
  have begun : kept.RunIn operations unattached.1 unattached.2 := by
    apply run_in_of_play
    exact .begin .refl (.joins (.opening true []))
  have run : kept.RunIn operations attachedLate.1 attachedLate.2 :=
    run_in_of_play _ (.drift begun .tick)
  obtain ⟨cancels, -, stopped, looks⟩ := timers_end unended run
  have closes : (1, Mark.closes) ∈ attachedLate.1.marks := by
    have closed : attachedLate.1[12]? = some ⟨1, .closePhase, some .opened⟩ := rfl
    exact List.mem_filterMap.mpr ⟨_, List.mem_of_getElem? closed, rfl⟩
  have through : ∀ actor, attachedLate.2.actors[1]? = some actor → actor.action? = none := by
    intro actor here
    have ended : attachedLate.2.actors[1]?.bind Actor.action? = none := rfl
    rwa [here] at ended
  have cancelled := cancels 1 closes through
  have closed : ⟨1, .closePhase, some .opened⟩ ∈ attachedLate.1.take 23 :=
    History.mem_take (by decide) (rfl : attachedLate.1[12]? = _)
  have looked : attachedLate.1[23]? = some ⟨2, .readPhase, some .closed⟩ := rfl
  obtain ⟨-, leaves⟩ := looks 23 2 0 .closed 1 .opened looked rfl closed
  exact ⟨rfl, rfl, cancelled, stopped 1 cancelled 0, looked, leaves⟩

end World

end WebSocket
