import WebSocket.Proofs.Connection.Session

/-!
The order in which the program lets actors take turns. Of all the orders of a session it is one:
what it comes to, a session can come to, as long as nobody is under way who would give up.
-/

namespace WebSocket

open Script

namespace World

variable {setting : Setting} {world next : World} {history : History} {fuel target : Nat}

/-- Whoever would give up when the token is cancelled has come to his end already. -/
def IsSteadfast (world : World) : Prop :=
  ∀ actor ∈ world.actors, actor.isAbortable = true → actor.script = .done none

theorem IsSteadfast.addActor (steadfast : world.IsSteadfast) (script : Script (Option Task)) :
    (world.addActor ⟨script, false⟩).IsSteadfast :=
  List.forall_mem_append.mpr ⟨steadfast, List.forall_mem_singleton.mpr nofun⟩

theorem IsSteadfast.addActors (steadfast : world.IsSteadfast) (setup : Setup) (tasks : List Task) :
    (tasks.foldl (fun grown task => grown.addActor ⟨task.script setup, false⟩) world).IsSteadfast := by
  induction tasks generalizing world with
  | nil => exact steadfast
  | cons task rest induction => exact induction (steadfast.addActor (task.script setup))

section

variable {index : Nat} {actor : Actor} {action : Action} {goesOn : action.Reply → Script (Option Task)}

theorem IsSteadfast.putActor (steadfast : world.IsSteadfast) (here : world.actors[index]? = some actor)
    (unended : actor.script ≠ .done none) (hub : Hub) (script : Script (Option Task)) :
    (World.putActor { world with hub } index script).IsSteadfast := by
  intro put member abortable
  obtain ⟨place, found⟩ := List.mem_iff_getElem?.mp member
  rw [World.putActor, List.getElem?_modify] at found
  obtain ⟨before, there, rfl⟩ := Option.map_eq_some_iff.mp found
  have steady := steadfast before (List.mem_of_getElem? there)
  split at abortable
  · rename_i same
    subst same
    cases here.symm.trans there
    exact absurd (steady abortable) unended
  · rename_i other
    rw [if_neg other]
    exact steady abortable

theorem IsSteadfast.follow (steadfast : world.IsSteadfast) (here : world.actors[index]? = some actor)
    (doing : actor.script = .act action goesOn) (effect : Effect action.Reply) :
    (world.follow index action goesOn effect).IsSteadfast := by
  have unended : actor.script ≠ .done none := by rw [doing]; nofun
  apply IsSteadfast.addActors
  cases effect.reply with
  | none => exact steadfast
  | some reply => exact steadfast.putActor here unended effect.hub (goesOn reply)

end

theorem steadfast_of_run (steadfast : world.IsSteadfast) (run : world.RunIn setting history next) :
    next.IsSteadfast := by
  induction run with
  | refl => exact steadfast
  | act _ here doing _ induction => exact induction.follow here doing _
  | goOn _ here ended induction => exact induction.putActor here (by rw [ended]; nofun) _ _
  | begin _ _ induction => exact induction.addActor _
  | drift _ _ induction => exact induction

theorem now_of_undisturbed (run : world.RunIn undisturbed history next) :
    next.hub.now = world.hub.now := by
  induction run with
  | refl => rfl
  | act _ _ _ member induction =>
      rw [follow_eq]
      exact (Action.now_of_effect member).trans induction
  | goOn _ _ _ induction => exact induction
  | begin _ _ induction => exact induction
  | drift _ never _ => exact never.elim

theorem run_of_move (setting : Setting) (steadfast : world.IsSteadfast) {index : Nat} (member : next ∈ world.moves index) :
    ∃ history, world.RunIn setting history next := by
  unfold moves at member
  split at member
  · cases member
  · rename_i actor here
    split at member
    · cases member
    · rename_i task ended
      obtain rfl := List.mem_singleton.mp member
      exact ⟨_, .goOn .refl here ended⟩
    · rename_i action goesOn doing
      split at member
      · split at member
        · rename_i gaveUp
          have ended := steadfast actor (List.mem_of_getElem? here) (Bool.and_eq_true_iff.mp gaveUp).1
          cases doing.symm.trans ended
        · cases member
      · obtain ⟨effect, among, rfl⟩ := List.mem_map.mp member
        exact ⟨_, .act .refl here doing among⟩

theorem run_of_run_actor (setting : Setting) (steadfast : world.IsSteadfast) (fuel index : Nat) :
    ∃ history, world.RunIn setting history (world.runActor fuel index) := by
  induction fuel generalizing world with
  | zero => exact ⟨[], .refl⟩
  | succ fuel induction =>
      unfold runActor
      split
      · exact ⟨[], .refl⟩
      · rename_i next rest moves
        have member : next ∈ world.moves index := moves ▸ List.mem_cons_self
        obtain ⟨first, run⟩ := run_of_move setting steadfast member
        obtain ⟨later, behind⟩ := induction (steadfast_of_run steadfast run)
        exact ⟨first ++ later, run.trans behind⟩

theorem run_of_round (setting : Setting) (steadfast : world.IsSteadfast) (fuel : Nat) (ready : List Nat) :
    ∃ history, world.RunIn setting history
      (ready.foldl (fun current index => runActor fuel current index) world) := by
  induction ready generalizing world with
  | nil => exact ⟨[], .refl⟩
  | cons index rest induction =>
      obtain ⟨first, run⟩ := run_of_run_actor setting steadfast fuel index
      obtain ⟨later, behind⟩ := induction (steadfast_of_run steadfast run)
      exact ⟨first ++ later, run.trans behind⟩

theorem run_of_settle (setting : Setting) (steadfast : world.IsSteadfast) (fuel : Nat) :
    ∃ history, world.RunIn setting history (world.settle fuel) := by
  induction fuel generalizing world with
  | zero => exact ⟨[], .refl⟩
  | succ fuel induction =>
      unfold settle
      dsimp only
      split
      · exact ⟨[], .refl⟩
      · obtain ⟨first, run⟩ := run_of_round setting steadfast fuel
          ((List.range world.actors.length).filter fun index => !(world.moves index).isEmpty)
        obtain ⟨later, behind⟩ := induction (steadfast_of_run steadfast run)
        exact ⟨first ++ later, run.trans behind⟩

theorem run_of_time {time : Nat} (onwards : world.hub.now ≤ time) :
    world.RunIn session [] (world.atTime time) := by
  induction onwards with
  | refl => exact .refl
  | @step time _ induction =>
      have ticked : world.RunIn session []
          { world.atTime time with hub := { world.hub with now := time + 1 } } := .drift induction .tick
      exact ticked

theorem lt_of_next_wake {time : Nat} (wakes : world.nextWake = some time) : world.hub.now < time := by
  have member := List.min?_mem wakes
  exact of_decide_eq_true (List.mem_filter.mp member).2

theorem run_of_waking (steadfast : world.IsSteadfast) {time : Nat} (onwards : world.hub.now ≤ time)
    (fuel : Nat) : ∃ history, world.RunIn session history ((world.atTime time).settle fuel) ∧
      ((world.atTime time).settle fuel).hub.now = time := by
  have steady : (world.atTime time).IsSteadfast := steadfast
  obtain ⟨history, run⟩ := run_of_settle undisturbed steady fuel
  exact ⟨[] ++ history, (run_of_time onwards).trans (session_of_undisturbed run), now_of_undisturbed run⟩

/-- Where the program lets time pass, it comes to something that a session can come to. -/
theorem run_of_advance (steadfast : world.IsSteadfast) (onwards : world.hub.now ≤ target) (fuel : Nat) :
    ∃ history, world.RunIn session history (world.advance fuel target) := by
  induction fuel generalizing world with
  | zero => exact ⟨[], .refl⟩
  | succ fuel induction =>
      unfold advance
      split
      · rename_i time wakes
        split
        · rename_i within
          obtain ⟨first, run, now⟩ := run_of_waking steadfast (Nat.le_of_lt (lt_of_next_wake wakes)) fuel
          obtain ⟨later, behind⟩ := induction (steadfast_of_run steadfast run) (Nat.le_trans (Nat.le_of_eq now) within)
          exact ⟨first ++ later, run.trans behind⟩
        · exact ⟨[], run_of_time onwards⟩
      · exact ⟨[], run_of_time onwards⟩

theorem run_of_finish (steadfast : world.IsSteadfast) (first count fuel : Nat) :
    ∃ history, world.RunIn session history (world.finish fuel first count) := by
  induction fuel generalizing world with
  | zero => exact ⟨[], .refl⟩
  | succ fuel induction =>
      unfold finish
      split
      · rename_i time busy wakes
        obtain ⟨before, run, -⟩ := run_of_waking steadfast (Nat.le_of_lt (lt_of_next_wake wakes)) fuel
        obtain ⟨later, behind⟩ := induction (steadfast_of_run steadfast run)
        exact ⟨before ++ later, run.trans behind⟩
      · exact ⟨[], .refl⟩

end World

end WebSocket
