import WebSocket.Proofs.Connection.Session

/-!
Sessions by the clock. What happens is logged with its time, and so are the times at which one actor
could have gone on and did not. In a paced session nobody is late: time passes only while nobody can
act.
-/

namespace WebSocket

open Script

structure Stamp where
  time : Nat
  happening : Happening

abbrev Log := List Stamp

def Log.history (log : Log) : History := log.map Stamp.happening

theorem Log.history_append (log : Log) (stamp : Stamp) :
    history (log ++ [stamp]) = log.history ++ [stamp.happening] := by
  simp [history]

def Script.IsStuck (setup : Setup) (actor : Nat) (hub : Hub) : Script (Option Task) → Prop
  | .act action _ => action.effects setup actor hub = []
  | .done result => result = none

namespace World

/-- The runs of a session in which time passes only while nobody can act. -/
inductive Paced (start : World) : Log → World → Prop where
  | refl : Paced start [] start
  | act {log : Log} {world : World} {index : Nat} {actor : Actor} {action : Action}
      {next : action.Reply → Script (Option Task)} {effect : Effect action.Reply}
      (before : Paced start log world) (here : world.actors[index]? = some actor)
      (doing : actor.script = .act action next)
      (member : effect ∈ action.effects world.setup index world.hub) :
      Paced start (log ++ [⟨world.hub.now, index, action, effect.reply⟩])
        (world.follow index action next effect)
  | goOn {log : Log} {world : World} {index : Nat} {actor : Actor} {task : Task}
      (before : Paced start log world) (here : world.actors[index]? = some actor)
      (ended : actor.script = .done (some task)) :
      Paced start log (world.putActor index (task.script world.setup))
  | begin {log : Log} {world : World} {script : Script (Option Task)}
      (before : Paced start log world) (joins : Joins world.setup script) :
      Paced start log (world.addActor ⟨script, false⟩)
  | drift {log : Log} {world : World} {hub : Hub} (before : Paced start log world)
      (drifts : world.hub.Drift hub) (patient : hub.now = world.hub.now ∨ world.isQuiet) :
      Paced start log { world with hub }

/-- The runs of a session, with the times at which one actor could have gone on and did not. -/
inductive Clocked (start : World) (watched : Nat) : Log → (lates : List Nat) → World → Prop where
  | refl : Clocked start watched [] [] start
  | act {log : Log} {lates : List Nat} {world : World} {index : Nat} {actor : Actor} {action : Action}
      {next : action.Reply → Script (Option Task)} {effect : Effect action.Reply}
      (before : Clocked start watched log lates world) (here : world.actors[index]? = some actor)
      (doing : actor.script = .act action next)
      (member : effect ∈ action.effects world.setup index world.hub) :
      Clocked start watched (log ++ [⟨world.hub.now, index, action, effect.reply⟩]) lates
        (world.follow index action next effect)
  | goOn {log : Log} {lates : List Nat} {world : World} {index : Nat} {actor : Actor} {task : Task}
      (before : Clocked start watched log lates world) (here : world.actors[index]? = some actor)
      (ended : actor.script = .done (some task)) :
      Clocked start watched log lates (world.putActor index (task.script world.setup))
  | begin {log : Log} {lates : List Nat} {world : World} {script : Script (Option Task)}
      (before : Clocked start watched log lates world) (joins : Joins world.setup script) :
      Clocked start watched log lates (world.addActor ⟨script, false⟩)
  | drift {log : Log} {lates : List Nat} {world : World} {hub : Hub}
      (before : Clocked start watched log lates world) (drifts : world.hub.Drift hub)
      (patient : hub.now = world.hub.now ∨ world.moves watched = []) :
      Clocked start watched log lates { world with hub }
  | late {log : Log} {lates : List Nat} {world : World} (before : Clocked start watched log lates world)
      (ready : world.moves watched ≠ []) :
      Clocked start watched log (lates ++ [world.hub.now])
        { world with hub := { world.hub with now := world.hub.now + 1 } }

theorem Paced.clocked {start world : World} {log : Log} (watched : Nat) (paced : start.Paced log world) :
    start.Clocked watched log [] world := by
  induction paced with
  | refl => exact .refl
  | act _ here doing member induction => exact .act induction here doing member
  | goOn _ here ended induction => exact .goOn induction here ended
  | begin _ joins induction => exact .begin induction joins
  | drift _ drifts patient induction =>
      exact .drift induction drifts (patient.imp_right fun quiet => quiet watched)

/-- Every run of a session can be read in this way. -/
theorem clocked_of_run {start world : World} {history : History} (watched : Nat)
    (run : start.RunIn session history world) :
    ∃ log lates, log.history = history ∧ start.Clocked watched log lates world := by
  induction run with
  | refl => exact ⟨[], [], rfl, .refl⟩
  | act _ here doing member induction =>
      obtain ⟨log, lates, same, clocked⟩ := induction
      exact ⟨_, lates, by rw [Log.history_append, same], .act clocked here doing member⟩
  | goOn _ here ended induction =>
      obtain ⟨log, lates, same, clocked⟩ := induction
      exact ⟨log, lates, same, .goOn clocked here ended⟩
  | begin _ joins induction =>
      obtain ⟨log, lates, same, clocked⟩ := induction
      exact ⟨log, lates, same, .begin clocked joins⟩
  | @drift history world hub _ drifts induction =>
      obtain ⟨log, lates, same, clocked⟩ := induction
      cases drifts with
      | tick =>
          by_cases still : world.moves watched = []
          · exact ⟨log, lates, same, .drift clocked .tick (.inr still)⟩
          · exact ⟨log, _, same, .late clocked still⟩
      | cancel => exact ⟨log, lates, same, .drift clocked .cancel (.inl rfl)⟩
      | feed cue => exact ⟨log, lates, same, .drift clocked (.feed cue) (.inl rfl)⟩

theorem Clocked.session {start world : World} {watched : Nat} {log : Log} {lates : List Nat}
    (clocked : start.Clocked watched log lates world) : start.RunIn session log.history world := by
  induction clocked with
  | refl => exact .refl
  | act _ here doing member induction =>
      rw [Log.history_append]
      exact .act induction here doing member
  | goOn _ here ended induction => exact .goOn induction here ended
  | begin _ joins induction => exact .begin induction joins
  | drift _ drifts _ induction => exact .drift induction drifts
  | late _ _ induction => exact .drift induction .tick

theorem Paced.session {start world : World} {log : Log} (paced : start.Paced log world) :
    start.RunIn session log.history world :=
  (paced.clocked 0).session

theorem stuck_of_still {world : World} {index : Nat} {actor : Actor} (still : world.moves index = [])
    (here : world.actors[index]? = some actor) : actor.script.IsStuck world.setup index world.hub := by
  unfold moves at still
  rw [here] at still
  dsimp only at still
  split at still
  · rename_i ended
    rw [ended]
    rfl
  · cases still
  · rename_i action next doing
    rw [doing]
    split at still
    · assumption
    · exact List.map_eq_nil_iff.mp still

/-- To know what one actor does in a run, it is enough to know what his own steps do, and what those
of the others and the passing of time leave of it, also when he is late. -/
theorem Clocked.of_actor {start world : World} {log : Log} {lates : List Nat} {index : Nat}
    {script : Script (Option Task)} {motive : Log → List Nat → Hub → Script (Option Task) → Prop}
    (here : start.actors[index]? = some ⟨script, false⟩) (first : motive [] [] start.hub script)
    (acts : ∀ {log lates world action next effect}, start.Clocked index log lates world →
      motive log lates world.hub (.act action next) →
      effect ∈ action.effects start.setup index world.hub →
      motive (log ++ [⟨world.hub.now, index, action, effect.reply⟩]) lates effect.hub
        (effect.reply.elim (.act action next) next))
    (others : ∀ {log lates world rest other action effect}, start.Clocked index log lates world →
      motive log lates world.hub rest → other ≠ index →
      effect ∈ action.effects start.setup other world.hub →
      motive (log ++ [⟨world.hub.now, other, action, effect.reply⟩]) lates effect.hub rest)
    (goesOn : ∀ {log lates world task}, start.Clocked index log lates world →
      motive log lates world.hub (.done (some task)) →
      motive log lates world.hub (task.script start.setup))
    (drifts : ∀ {log lates world rest hub}, start.Clocked index log lates world →
      motive log lates world.hub rest → world.hub.Drift hub →
      (hub.now = world.hub.now ∨ rest.IsStuck start.setup index world.hub) → motive log lates hub rest)
    (late : ∀ {log lates world rest}, start.Clocked index log lates world →
      motive log lates world.hub rest →
      motive log (lates ++ [world.hub.now]) { world.hub with now := world.hub.now + 1 } rest)
    (clocked : start.Clocked index log lates world) :
    ∃ rest, world.actors[index]? = some ⟨rest, false⟩ ∧ motive log lates world.hub rest := by
  induction clocked with
  | refl => exact ⟨script, here, first⟩
  | @act log lates world doer actor action next effect before there doing member induction =>
      obtain ⟨rest, found, holds⟩ := induction
      have after := actor_of_follow found doer next effect
      have moved : (world.follow doer action next effect).hub = effect.hub := by rw [follow_eq]
      rw [before.session.setup_eq] at member
      rw [moved]
      by_cases own : doer = index
      · subst own
        cases there.symm.trans found
        cases doing
        refine ⟨effect.reply.elim (.act action next) next, ?_, acts before holds member⟩
        rw [after]
        cases effect.reply <;> simp
      · refine ⟨rest, ?_, others before holds own member⟩
        rw [after]
        cases effect.reply <;> simp [own]
  | @goOn log lates world doer actor task before there ended induction =>
      obtain ⟨rest, found, holds⟩ := induction
      by_cases own : doer = index
      · subst own
        cases there.symm.trans found
        cases ended
        refine ⟨task.script world.setup, ?_, ?_⟩
        · rw [putActor, List.getElem?_modify_eq, found]
          rfl
        · change motive log lates world.hub (task.script world.setup)
          rw [before.session.setup_eq]
          exact goesOn before holds
      · exact ⟨rest, by rwa [putActor, List.getElem?_modify_ne _ _ own], holds⟩
  | begin _ _ induction =>
      obtain ⟨rest, found, holds⟩ := induction
      have within := (List.getElem?_eq_some_iff.mp found).1
      exact ⟨rest, (List.getElem?_append_left within).trans found, holds⟩
  | @drift log lates world hub before passes patient induction =>
      obtain ⟨rest, found, holds⟩ := induction
      refine ⟨rest, found, drifts before holds passes (patient.imp_right fun still => ?_)⟩
      rw [← before.session.setup_eq]
      exact stuck_of_still still found
  | late before _ induction =>
      obtain ⟨rest, found, holds⟩ := induction
      exact ⟨rest, found, late before holds⟩

def stampOne (played : Log × World) (index : Nat) : Log × World :=
  let (history, world) := playOne ([], played.2) index
  (played.1 ++ history.map (Stamp.mk played.2.hub.now), world)

def isAtRest (world : World) : Bool :=
  (List.range world.actors.length).all fun index => (world.moves index).isEmpty

def tickOne (played : Log × World) : Log × World :=
  let (log, world) := played
  (log, if world.isAtRest then { world with hub := { world.hub with now := world.hub.now + 1 } } else world)

/-- A run by the clock: the orders in which actors act, as far as they can, with a tick before each. -/
def playPaced (orders : List (List Nat)) (played : Log × World) : Log × World :=
  orders.foldl (fun played order => order.foldl stampOne (tickOne played)) played

theorem quiet_of_at_rest {world : World} (atRest : world.isAtRest = true) : world.isQuiet := by
  intro index
  by_cases within : index < world.actors.length
  · have all := List.all_eq_true.mp atRest index (List.mem_range.mpr within)
    exact List.isEmpty_iff.mp all
  · simp [moves, within]

section

variable {start : World} {played : Log × World}

theorem paced_of_stamp_one (index : Nat) (paced : start.Paced played.1 played.2) :
    start.Paced (stampOne played index).1 (stampOne played index).2 := by
  obtain ⟨log, world⟩ := played
  unfold stampOne playOne
  dsimp only
  split
  · simpa using paced
  · rename_i actor here
    split
    · simpa using paced
    · rename_i task ended
      simpa using paced.goOn here ended
    · rename_i action next doing
      split
      · simpa using paced
      · rename_i effect rest effects
        exact paced.act here doing (effects ▸ List.mem_cons_self)

theorem paced_of_stamps (order : List Nat) (paced : start.Paced played.1 played.2) :
    start.Paced (order.foldl stampOne played).1 (order.foldl stampOne played).2 := by
  induction order generalizing played with
  | nil => exact paced
  | cons index rest induction => exact induction (paced_of_stamp_one index paced)

theorem paced_of_tick (paced : start.Paced played.1 played.2) :
    start.Paced (tickOne played).1 (tickOne played).2 := by
  obtain ⟨log, world⟩ := played
  unfold tickOne
  dsimp only
  split
  · rename_i atRest
    exact paced.drift .tick (.inr (quiet_of_at_rest atRest))
  · exact paced

theorem paced_of_play (orders : List (List Nat)) (paced : start.Paced played.1 played.2) :
    start.Paced (playPaced orders played).1 (playPaced orders played).2 := by
  induction orders generalizing played with
  | nil => exact paced
  | cons order rest induction => exact induction (paced_of_stamps order (paced_of_tick paced))

end

end World

end WebSocket
