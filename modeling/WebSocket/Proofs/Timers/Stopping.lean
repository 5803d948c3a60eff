import WebSocket.Proofs.Timers.Ticks

/-!
The timers behind a stop. A scheduler that has been stopped stays stopped, and a timer that waits for
a tick still to come is over then. But a timer that has its tick goes on to wait for the guard, and a
tick that is due when the timer comes back from its work may be taken before the stop is noticed.
-/

namespace WebSocket

open Script Connection

/-- The turns have gone on since the given time: the ticks of the newer ones were taken from then on,
and of the others only the newest may have changed. -/
def TickTurn.HaveGoneOn (time : Nat) (old new : List TickTurn) : Prop :=
  ∃ newer own, new = newer ++ own ∧ own.map taken = old.map taken ∧ own.tail = old.tail ∧
    ∀ turn ∈ newer, time ≤ turn.taken

namespace TickTurn

variable {time : Nat} {old turns : List TickTurn}

theorem have_gone_on_refl : HaveGoneOn time old old := ⟨[], old, rfl, rfl, rfl, nofun⟩

theorem HaveGoneOn.take (onwards : HaveGoneOn time old turns) {turn : TickTurn}
    (later : time ≤ turn.taken) : HaveGoneOn time old (turn :: turns) := by
  obtain ⟨newer, own, rfl, same, tail, taken⟩ := onwards
  exact ⟨turn :: newer, own, rfl, same, tail, List.forall_mem_cons.mpr ⟨later, taken⟩⟩

theorem HaveGoneOn.amend (onwards : HaveGoneOn time old turns) {update : TickTurn → TickTurn}
    (keeps : ∀ turn, (update turn).taken = turn.taken) :
    HaveGoneOn time old (turns.modifyHead update) := by
  obtain ⟨newer, own, rfl, same, tail, taken⟩ := onwards
  cases newer with
  | nil =>
      refine ⟨[], own.modifyHead update, rfl, ?_, ?_, nofun⟩
      · rw [← same]
        cases own <;> simp [keeps]
      · rw [← tail]
        cases own <;> rfl
  | cons first newer =>
      obtain ⟨now, others⟩ := List.forall_mem_cons.mp taken
      refine ⟨update first :: newer, own, rfl, same, tail, List.forall_mem_cons.mpr ⟨?_, others⟩⟩
      rwa [keeps]

end TickTurn

namespace Diary

open TickTurn

variable {time now : Nat} {old : List TickTurn} {diary : Diary}

theorem goes_on_after (scheduler : Nat) (onwards : HaveGoneOn time old diary.turns) (later : time ≤ now)
    (action : Action) (reply : action.Reply) :
    HaveGoneOn time old (diary.after scheduler now action reply).turns := by
  cases action with
  | awaitTick id due =>
      unfold after
      dsimp only
      split
      · exact onwards.take later
      · exact onwards
  | enterGuard id deadline =>
      unfold after
      dsimp only
      split
      · apply onwards.amend
        intro turn
        split <;> rfl
      · exact onwards
  | countSkip id =>
      unfold after
      dsimp only
      split
      · exact onwards.amend fun turn => rfl
      · exact onwards
  | _ => exact onwards

end Diary

namespace World

open TickTurn

variable {start world : World} {log : Log}

theorem Paced.now_le (paced : start.Paced log world) : start.hub.now ≤ world.hub.now := by
  induction paced with
  | refl => exact Nat.le_refl _
  | act _ _ _ member induction =>
      rw [follow_eq]
      exact Nat.le_trans induction (Nat.le_of_eq (Action.now_of_effect member).symm)
  | goOn _ _ _ induction => exact induction
  | begin _ _ induction => exact induction
  | drift _ drifts _ induction => exact Nat.le_trans induction drifts.now_le

theorem Clocked.stays_stopped {scheduler index : Nat} {lates : List Nat}
    (there : scheduler < start.hub.schedulers.length) (stopped : start.hub.isStopped scheduler = true)
    (clocked : start.Clocked index log lates world) : world.hub.isStopped scheduler = true :=
  (scheduler_of_run session_orderly there clocked.session).2.2 stopped

theorem Paced.goes_on (paced : start.Paced log world) (earlier : Log) (scheduler actor : Nat) :
    HaveGoneOn start.hub.now (earlier.diary scheduler actor).turns
      (Log.diary (earlier ++ log) scheduler actor).turns := by
  induction paced with
  | refl =>
      rw [List.append_nil]
      exact have_gone_on_refl
  | @act log world index doer action next effect before here doing member induction =>
      rw [← List.append_assoc]
      by_cases own : index = actor
      · subst own
        cases told : effect.reply with
        | none => rwa [Log.diary_waiting]
        | some reply =>
            rw [Log.diary_own]
            exact Diary.goes_on_after scheduler induction before.now_le action reply
      · rwa [Log.diary_other own]
  | goOn _ _ _ induction => exact induction
  | begin _ _ induction => exact induction
  | drift _ _ _ induction => exact induction

end World

namespace Ticker

variable {setup : Setup} {ticker : Ticker setup} {since now next count : Nat} {stop : Option Nat}
variable {lates : List Nat} {turn : TickTurn} {turns : List TickTurn} {diary : Diary}
variable {script : Script (Option Task)}

theorem At.recorded (place : ticker.At since stop [] now diary script) :
    ∀ turn ∈ diary.turns, turn.taken ≤ now ∧ turn.IsPrompt stop := by
  rcases place.course with ⟨next, count, kept⟩ | ⟨newest, older, count, same, taken, -⟩
  · exact fun turn member => ⟨kept.past turn member, kept.prompt rfl turn member⟩
  · rw [same]
    refine List.forall_mem_cons.mpr ⟨⟨taken.past, taken.prompt rfl⟩, fun turn member => ?_⟩
    exact ⟨taken.kept.past turn member, taken.kept.prompt rfl turn member⟩

/-- Whatever a timer does besides waiting for its turn and ending it, it does inside the guard. -/
theorem At.busy (place : ticker.At since stop lates now diary script) {action : Action}
    {next : action.Reply → Script (Option Task)} (doing : script = .act action next) :
    action.isOfTimer = true ∨ action = .readClock ∨ diary.IsInside ticker.wait lates := by
  cases place with
  | first | begins | takes =>
      cases doing
      exact .inr (.inl rfl)
  | awaits | joins | queues | skips =>
      cases doing
      exact .inl rfl
  | looks inside kept | works apart inside kept => exact .inr (.inr inside)
  | rests | ends => cases doing

theorem prompt_of_past (past : turn.taken ≤ now) : turn.IsPrompt (some now) := by
  rintro time ⟨⟩ passed
  exact absurd past (Nat.not_le_of_lt passed)

theorem HasKept.stopped (kept : ticker.HasKept since stop lates now turns next count) :
    ticker.HasKept since (some now) lates now turns next count :=
  { kept with prompt := fun _ turn member => prompt_of_past (kept.past turn member) }

theorem HasTaken.stopped (taken : ticker.HasTaken since stop lates now turn turns count) :
    ticker.HasTaken since (some now) lates now turn turns count :=
  { taken with kept := taken.kept.stopped, prompt := fun _ => prompt_of_past taken.past }

theorem At.stopped (place : ticker.At since stop lates now diary script) :
    ticker.At since (some now) lates now diary script := by
  cases place with
  | first fresh begun atOnce => exact .first fresh begun atOnce
  | rests kept => exact .rests kept.stopped
  | begins kept => exact .begins kept.stopped
  | awaits kept arrived =>
      refine .awaits kept.stopped ?_
      rintro - time ⟨⟩
      exact .inl (Nat.le_refl _)
  | takes taken unrefused atOnce => exact .takes taken.stopped unrefused atOnce
  | joins taken unrefused read earlier atOnce => exact .joins taken.stopped unrefused read earlier atOnce
  | queues taken unrefused read soon inTime => exact .queues taken.stopped unrefused read soon inTime
  | skips taken read refused => exact .skips taken.stopped read refused
  | looks inside kept => exact .looks inside kept.stopped
  | works apart inside kept => exact .works apart inside kept.stopped
  | ends kept => exact .ends kept.stopped

end Ticker

/-- What one actor has done. -/
def Log.doings (log : Log) (actor : Nat) : History := log.history.filter (·.actor == actor)

namespace Log

variable {log : Log} {time actor : Nat} {happening : Happening}

theorem doings_own (own : happening.actor = actor) :
    doings (log ++ [⟨time, happening⟩]) actor = log.doings actor ++ [happening] := by
  simp [doings, history_append, own]

theorem doings_other (other : happening.actor ≠ actor) :
    doings (log ++ [⟨time, happening⟩]) actor = log.doings actor := by
  simp [doings, history_append, other]

end Log

/-- A timer that waits for a tick in vain: it does so still, at the same time, or it has noticed that
its scheduler has been stopped. -/
def Ticker.WaitsInVain {setup : Setup} (ticker : Ticker setup) (index due count time : Nat) (log : Log)
    (hub : Hub) (script : Script (Option Task)) : Prop :=
  (script = ticker.awaitsTick due count ∧ hub.now = time ∧ log.doings index = []) ∨
    script = done none ∧ log.doings index = [⟨index, .awaitTick ticker.scheduler due, some false⟩]

namespace World

variable {before middle world : World} {log later : Log} {index due count : Nat}

theorem Paced.waits_in_vain {setup : Setup} (ticker : Ticker setup) (same : middle.setup = setup)
    (there : ticker.scheduler < middle.hub.schedulers.length)
    (stopped : middle.hub.isStopped ticker.scheduler = true)
    (waits : middle.actors[index]? = some ⟨ticker.awaitsTick due count, false⟩)
    (early : middle.hub.now < due) (behind : middle.Paced later world) :
    ∃ rest, world.actors[index]? = some ⟨rest, false⟩ ∧
      ticker.WaitsInVain index due count middle.hub.now later world.hub rest := by
  subst same
  have waiting := (behind.clocked index).of_actor (motive := fun log lates hub rest =>
    lates = [] → ticker.WaitsInVain index due count middle.hub.now log hub rest) waits ?_ ?_ ?_ ?_ ?_ ?_
  · obtain ⟨rest, found, waits⟩ := waiting
    exact ⟨rest, found, waits rfl⟩
  · exact fun _ => .inl ⟨rfl, rfl, rfl⟩
  · intro log lates world action next effect behind waits member none
    rcases waits none with ⟨awaits, same, nothing⟩ | ⟨ended, _⟩
    · cases awaits
      have notices : effect = ⟨world.hub, some false, []⟩ := by
        simpa [Action.effects, behind.stays_stopped there stopped, Nat.not_le_of_lt (same ▸ early),
          Hub.answer] using member
      subst notices
      refine .inr ⟨rfl, ?_⟩
      rw [Log.doings_own rfl, nothing]
      rfl
    · cases ended
  · intro log lates world rest other action effect _ waits own member none
    have waits := waits none
    unfold Ticker.WaitsInVain at waits ⊢
    rwa [Log.doings_other own, Action.now_of_effect member]
  · intro log lates world task _ waits none
    rcases waits none with ⟨awaits, _⟩ | ⟨ended, _⟩
    · cases awaits
    · cases ended
  · intro log lates world rest hub behind waits drifts patient none
    rcases waits none with ⟨rfl, same, nothing⟩ | ended
    · refine .inl ⟨rfl, ?_, nothing⟩
      rcases patient with unmoved | stuck
      · exact unmoved.trans same
      · -- Nothing keeps the timer from noticing the stop, so that no time passes before.
        have still := (List.append_eq_nil_iff.mp stuck).1
        rw [if_pos (behind.stays_stopped there stopped)] at still
        cases still
    · exact .inr ended
  · exact fun _ _ none => absurd none (List.append_ne_nil_of_right_ne_nil _ (List.cons_ne_nil _ []))

/-- What a timer does once its scheduler has been stopped, at whatever time and by whomever. It stays
stopped. Of the turns the timer had begun by then only the newest may go on, and get the guard in its
time. Those it still begins have a tick of this very time, or one that was due already when the timer
asked for it. Besides waiting, the timer does something only in a turn that has got the guard. And if it
waits for a tick still to come, it does nothing more but notice the stop. -/
theorem turns_behind_stop (ticker : Ticker before.setup) (positive : 0 < ticker.period)
    (there : ticker.scheduler < before.hub.schedulers.length)
    (here : before.actors[index]? = some ⟨(ticker.task none 0).script before.setup, false⟩)
    (run : before.Paced log middle) (stopped : middle.hub.isStopped ticker.scheduler = true)
    (behind : middle.Paced later world) :
    let wait := before.setup.config.timeouts.tickGuard
    let turns := (log.diary ticker.scheduler index).turns
    world.hub.isStopped ticker.scheduler = true ∧
    (∃ newer own, (Log.diary (log ++ later) ticker.scheduler index).turns = newer ++ own ∧
      own.map TickTurn.taken = turns.map TickTurn.taken ∧ own.tail = turns.tail ∧
      (∀ turn ∈ own, turn.taken ≤ middle.hub.now) ∧
      (∀ turn ∈ newer, turn.taken = middle.hub.now ∨
        middle.hub.now < turn.taken ∧ turn.due ≤ turn.asked ∧ turn.taken = turn.asked) ∧
      ∀ turn ∈ newer ++ own, turn.IsHeld wait ∨ turn.IsMissed wait ∨ turn.IsUnderWay wait) ∧
    (∀ actor action next, world.actors[index]? = some actor → actor.script = .act action next →
      action.isOfTimer = true ∨ action = .readClock ∨
        (Log.diary (log ++ later) ticker.scheduler index).IsInside wait) ∧
    ∀ due count, middle.actors[index]? = some ⟨ticker.awaitsTick due count, false⟩ →
      middle.hub.now < due →
      later.doings index <+: [⟨index, .awaitTick ticker.scheduler due, some false⟩] := by
  intro wait turns
  have same := run.session.setup_eq
  have known := (scheduler_of_run session_orderly there run.session).1
  obtain ⟨_, within, place⟩ := place_of_timer ticker positive here (run.clocked index)
  have stays : ∀ time ∈ some middle.hub.now, ∀ {log lates world}, middle.Clocked index log lates world →
      world.hub.isStopped ticker.scheduler = true :=
    fun _ _ _ _ _ behind => behind.stays_stopped known stopped
  have clocked := behind.clocked index
  obtain ⟨_, found, onwards⟩ := clocked.place ticker same positive stays within place.stopped
  refine ⟨clocked.stays_stopped known stopped, ?_, ?_, ?_⟩
  · obtain ⟨newer, own, split, taken, tail, later⟩ := behind.goes_on log ticker.scheduler index
    have settled := onwards.settled.1
    have recorded := onwards.recorded
    rw [split] at settled recorded
    rw [ticker.waits] at settled
    refine ⟨newer, own, split, taken, tail, fun turn member => ?_, fun turn member => ?_, settled⟩
    · have before : turn.taken ∈ turns.map TickTurn.taken :=
        taken ▸ List.mem_map_of_mem (f := TickTurn.taken) member
      obtain ⟨_, member, taken⟩ := List.mem_map.mp before
      exact taken ▸ (place.recorded _ member).1
    · rcases Nat.eq_or_lt_of_le (later turn member) with now | passed
      · exact .inl now.symm
      · exact .inr ⟨passed, (recorded turn (List.mem_append_left _ member)).2 _ rfl passed⟩
  · intro actor action next acting doing
    cases acting.symm.trans found
    have busy := onwards.busy doing
    rwa [ticker.waits] at busy
  · intro due count waits early
    obtain ⟨_, _, ⟨_, _, nothing⟩ | ⟨_, notices⟩⟩ :=
      behind.waits_in_vain ticker same known stopped waits early
    · exact nothing ▸ List.nil_prefix
    · exact notices ▸ List.prefix_refl _

/-- The keepalive timer has its first tick and waits for the guard, which the hook holds. -/
def keptWaiting : Log × World := playPaced [[1, 2], [2, 2, 2, 2, 2, 2, 1, 1, 1]] ([], (timersBegun 1).2)

/-- Somebody stops the scheduler meanwhile. -/
def stoppedInLine : Log × World :=
  stampOne (keptWaiting.1, keptWaiting.2.addActor
    ⟨((Errand.stop 0).script keptWaiting.2.setup).bind fun _ => .done none, false⟩) 3

/-- The hook is through, and the keepalive timer goes on. -/
def lastPing : Log × World :=
  playPaced [[2, 2, 1, 1, 1, 1, 1, 1, 1, 1, 1, 1, 1, 1, 1, 1, 1]] ([], stoppedInLine.2)

theorem run_stopped_in_line : (timersBegun 1).2.Paced stoppedInLine.1 stoppedInLine.2 := by
  apply paced_of_stamp_one
  exact .begin (paced_of_play _ .refl) (.errand (.stop 0))

theorem run_last_ping : stoppedInLine.2.Paced lastPing.1 lastPing.2 := paced_of_play _ .refl

theorem turns_behind_stop_in_line :
    (Log.diary (stoppedInLine.1 ++ lastPing.1) 0 1).turns =
        [{ asked := 0, due := 1, taken := 1, entries := [2] }] ∧
      lastPing.2.hub.isStopped 0 = true ∧
      ∃ newer own, (Log.diary (stoppedInLine.1 ++ lastPing.1) 0 1).turns = newer ++ own ∧
        own.map TickTurn.taken = (stoppedInLine.1.diary 0 1).turns.map TickTurn.taken ∧
        ∀ turn ∈ newer,
          turn.taken = 1 ∨ 1 < turn.taken ∧ turn.due ≤ turn.asked ∧ turn.taken = turn.asked := by
  have positive : 0 < (Ticker.keepalive (timersBegun 1).2.setup 0).period := Nat.one_pos
  have there : 0 < (timersBegun 1).2.hub.schedulers.length := Nat.one_pos
  have here : (timersBegun 1).2.actors[1]? =
      some ⟨(Task.keepalive 0 none 0).script (timersBegun 1).2.setup, false⟩ := rfl
  have stopped : stoppedInLine.2.hub.isStopped 0 = true := by decide +kernel
  have turns := turns_behind_stop (.keepalive (timersBegun 1).2.setup 0) positive there here
    run_stopped_in_line stopped run_last_ping
  obtain ⟨stays, ⟨newer, own, split, taken, -, -, raced, -⟩, -, -⟩ := turns
  have same : (Ticker.keepalive (timersBegun 1).2.setup 0).scheduler = 0 := rfl
  have now : stoppedInLine.2.hub.now = 1 := by decide +kernel
  rw [same] at stays split taken
  rw [now] at raced
  exact ⟨by decide +kernel, stays, newer, own, split, taken, raced⟩

/-- The scheduler has been stopped, the connection is open, and nothing was sent. Then the keepalive
timer, which waited for the guard meanwhile, sends its Ping. -/
theorem not_quiet_behind_stop :
    (ticking 1).Paced (timersBegun 1).1 (timersBegun 1).2 ∧
      (timersBegun 1).2.Paced stoppedInLine.1 stoppedInLine.2 ∧
      stoppedInLine.1.getLast? = some ⟨1, 3, .stopScheduler 0, some ()⟩ ∧
      stoppedInLine.2.actors[3]? = some ⟨done none, false⟩ ∧
      stoppedInLine.2.hub.isStopped 0 = true ∧ stoppedInLine.2.hub.phase = .opened ∧
      stoppedInLine.2.hub.stream.written = [] ∧
      stoppedInLine.2.Paced lastPing.1 lastPing.2 ∧ lastPing.2.hub.phase = .opened ∧
      lastPing.2.hub.stream.written =
        (Frame.ping (keepalivePayload 1 0 0)).serialize (some ⟨0, 0, 0, 0⟩) := by
  refine ⟨run_timers_begun 1, run_stopped_in_line, rfl, rfl, ?_, ?_, ?_, run_last_ping, ?_, ?_⟩
  all_goals decide +kernel

end World

end WebSocket
