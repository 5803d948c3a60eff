import WebSocket.Proofs.Timers.Pace
import WebSocket.Proofs.Timers.Rounds
import WebSocket.Proofs.Timers.Schedule

/-!
The turns of a timer, read off a log. A turn begins when the timer takes a tick. Either it gets the
guard within the time that a tick may wait, once, or it is refused then and counts one skip. Nothing
else can delay it than that it is held up: that it could go on, and did not.
-/

namespace WebSocket

open Script Connection

/-- A turn of a timer: when it began to wait for its tick, when the tick was due and when it was
taken, when the timer got the guard and when it was refused, and how many skips it counted. -/
structure TickTurn where
  asked : Nat
  due : Nat
  taken : Nat
  entries : List Nat := []
  refusals : List Nat := []
  skips : Nat := 0
  deriving DecidableEq, Repr

/-- How often an actor that was late at these times has been so since one time and before another. -/
def heldUp (lates : List Nat) (since till : Nat) : Nat :=
  lates.countP fun late => since ≤ late ∧ late < till

section

variable {lates more : List Nat} {since till later now : Nat}

theorem held_up_mono (since : Nat) (grown : lates <+: more) (onwards : till ≤ later) :
    heldUp lates since till ≤ heldUp more since later := by
  refine Nat.le_trans (List.countP_mono_left fun late _ counted => ?_) grown.sublist.countP_le
  have bounds := of_decide_eq_true counted
  exact decide_eq_true ⟨bounds.1, Nat.lt_of_lt_of_le bounds.2 onwards⟩

theorem held_up_late (lates : List Nat) (past : since ≤ now) :
    heldUp lates since now + 1 ≤ heldUp (lates ++ [now]) since (now + 1) := by
  have earlier : heldUp lates since now ≤ heldUp lates since (now + 1) :=
    held_up_mono since (List.prefix_refl lates) (Nat.le_succ now)
  unfold heldUp at earlier ⊢
  rw [List.countP_append, List.countP_singleton, if_pos (decide_eq_true ⟨past, Nat.lt_succ_self now⟩)]
  exact Nat.add_le_add_right earlier 1

end

namespace TickTurn

/-- The timer has got the guard, once and in time. -/
structure IsHeld (wait : Nat) (turn : TickTurn) (lates : List Nat := []) : Prop where
  entered : ∃ time, turn.entries = [time] ∧ turn.taken ≤ time ∧
    time ≤ turn.taken + wait + heldUp lates turn.taken time
  unrefused : turn.refusals = []
  unskipped : turn.skips = 0

/-- The timer has been refused the guard, once, at the end of its wait. -/
def IsRefused (wait : Nat) (turn : TickTurn) (lates : List Nat := []) : Prop :=
  ∃ time, turn.refusals = [time] ∧ turn.taken + wait ≤ time ∧
    time ≤ turn.taken + wait + heldUp lates turn.taken time

/-- The timer has waited in vain for the guard, and it has counted that once. -/
structure IsMissed (wait : Nat) (turn : TickTurn) (lates : List Nat := []) : Prop where
  unentered : turn.entries = []
  refused : turn.IsRefused wait lates
  skipped : turn.skips = 1

/-- It is not settled yet whether the timer gets the guard, or the skip is not counted yet. -/
structure IsUnderWay (wait : Nat) (turn : TickTurn) (lates : List Nat := []) : Prop where
  unentered : turn.entries = []
  refused : turn.refusals = [] ∨ turn.IsRefused wait lates
  unskipped : turn.skips = 0

section

variable {wait : Nat} {turn : TickTurn} {lates more : List Nat}

theorem IsHeld.later (held : turn.IsHeld wait lates) (grown : lates <+: more) : turn.IsHeld wait more := by
  obtain ⟨time, same, past, inTime⟩ := held.entered
  have slack := held_up_mono turn.taken grown (Nat.le_refl time)
  exact { held with entered := ⟨time, same, past, by omega⟩ }

theorem IsRefused.later (refused : turn.IsRefused wait lates) (grown : lates <+: more) :
    turn.IsRefused wait more := by
  obtain ⟨time, same, past, inTime⟩ := refused
  have slack := held_up_mono turn.taken grown (Nat.le_refl time)
  exact ⟨time, same, past, by omega⟩

theorem IsMissed.later (missed : turn.IsMissed wait lates) (grown : lates <+: more) :
    turn.IsMissed wait more :=
  { missed with refused := missed.refused.later grown }

end

/-- A tick that is taken after the given time was due already when the timer asked for it. -/
def IsPrompt (stop : Option Nat) (turn : TickTurn) : Prop :=
  ∀ time ∈ stop, time < turn.taken → turn.due ≤ turn.asked ∧ turn.taken = turn.asked

end TickTurn

/-- What is known of a timer: when it has looked at the clock last, and its turns, the newest first. -/
structure Diary where
  clock : Nat := 0
  turns : List TickTurn := []

namespace Diary

def amend (diary : Diary) (update : TickTurn → TickTurn) : Diary :=
  { diary with turns := diary.turns.modifyHead update }

def after (scheduler : Nat) (diary : Diary) (time : Nat) : (action : Action) → action.Reply → Diary
  | .readClock, now => { diary with clock := now }
  | .awaitTick id due, isTick =>
      if id = scheduler ∧ isTick = true then
        { diary with turns := { asked := diary.clock, due, taken := time } :: diary.turns }
      else diary
  | .enterGuard id _, isHeld =>
      if id = scheduler then
        diary.amend fun turn =>
          if isHeld then { turn with entries := time :: turn.entries }
          else { turn with refusals := time :: turn.refusals }
      else diary
  | .countSkip id, _ =>
      if id = scheduler then diary.amend fun turn => { turn with skips := turn.skips + 1 } else diary
  | _, _ => diary

def advance (scheduler actor : Nat) (diary : Diary) (stamp : Stamp) : Diary :=
  if stamp.happening.actor = actor then
    match stamp.happening.reply with
    | some reply => diary.after scheduler stamp.time stamp.happening.action reply
    | none => diary
  else diary

section

variable (scheduler time due deadline clock : Nat) (diary : Diary) (turn : TickTurn)
variable (turns : List TickTurn)

theorem after_tick : diary.after scheduler time (.awaitTick scheduler due) true =
    ⟨diary.clock, { asked := diary.clock, due, taken := time } :: diary.turns⟩ :=
  if_pos ⟨rfl, rfl⟩

theorem after_stop : diary.after scheduler time (.awaitTick scheduler due) false = diary :=
  if_neg fun both => Bool.noConfusion both.2

theorem after_enter : after scheduler ⟨clock, turn :: turns⟩ time (.enterGuard scheduler deadline) true =
    ⟨clock, { turn with entries := time :: turn.entries } :: turns⟩ :=
  if_pos rfl

theorem after_refuse : after scheduler ⟨clock, turn :: turns⟩ time (.enterGuard scheduler deadline) false =
    ⟨clock, { turn with refusals := time :: turn.refusals } :: turns⟩ :=
  if_pos rfl

theorem after_skip : after scheduler ⟨clock, turn :: turns⟩ time (.countSkip scheduler) () =
    ⟨clock, { turn with skips := turn.skips + 1 } :: turns⟩ :=
  if_pos rfl

end

/-- The newest turn has got the guard. -/
def IsInside (wait : Nat) (diary : Diary) (lates : List Nat := []) : Prop :=
  ∃ turn ∈ diary.turns.head?, turn.IsHeld wait lates

theorem IsInside.later {wait : Nat} {diary : Diary} {lates more : List Nat}
    (inside : diary.IsInside wait lates) (grown : lates <+: more) : diary.IsInside wait more := by
  obtain ⟨turn, member, held⟩ := inside
  exact ⟨turn, member, held.later grown⟩

theorem turns_of_apart {action : Action} (apart : action.isOfTimer = false) (scheduler time : Nat)
    (diary : Diary) (reply : action.Reply) :
    (diary.after scheduler time action reply).turns = diary.turns := by
  cases action <;> first | rfl | cases apart

end Diary

namespace Log

def diary (log : Log) (scheduler actor : Nat) : Diary := log.foldl (Diary.advance scheduler actor) {}

variable {log : Log} {scheduler actor time : Nat}

theorem diary_own (action : Action) (reply : action.Reply) :
    diary (log ++ [⟨time, actor, action, some reply⟩]) scheduler actor =
      (log.diary scheduler actor).after scheduler time action reply := by
  simp [diary, Diary.advance]

theorem diary_waiting (action : Action) (index : Nat) :
    diary (log ++ [⟨time, index, action, none⟩]) scheduler actor = log.diary scheduler actor := by
  simp [diary, Diary.advance]

theorem diary_other {happening : Happening} (other : happening.actor ≠ actor) :
    diary (log ++ [⟨time, happening⟩]) scheduler actor = log.diary scheduler actor := by
  simp [diary, Diary.advance, other]

end Log

/-- The ticks are due whole numbers of periods after the timer has looked at the clock first, which
it does when it begins, unless it is held up. -/
def Rounds.AreScheduled (rounds : Rounds) (since : Nat) (lates dues : List Nat) : Prop :=
  ∃ base, since ≤ base ∧ base ≤ since + heldUp lates since base ∧
    ∀ due ∈ dues, ∃ periods, 0 < periods ∧ due = base + periods * rounds.period

namespace Ticker

variable {setup : Setup}

/-- The timer has kept to its schedule in these turns, and the next tick is due at `next`. It has had
the guard `count` times. What is said of a stop goes for a timer that is never held up. -/
structure HasKept (ticker : Ticker setup) (since : Nat) (stop : Option Nat) (lates : List Nat) (now : Nat)
    (turns : List TickTurn) (next count : Nat) : Prop where
  settled : ∀ turn ∈ turns, turn.IsHeld ticker.wait lates ∨ turn.IsMissed ticker.wait lates
  scheduled : ticker.AreScheduled since lates (next :: turns.map TickTurn.due)
  ordered : (next :: turns.map TickTurn.due).Pairwise (· > ·)
  punctual : ∀ turn ∈ turns, turn.due ≤ turn.taken
  past : ∀ turn ∈ turns, turn.taken ≤ now
  prompt : lates = [] → ∀ turn ∈ turns, turn.IsPrompt stop
  entered : (turns.flatMap TickTurn.entries).length = count

/-- Behind these turns the timer has taken its tick in a new one, and not got the guard yet. -/
structure HasTaken (ticker : Ticker setup) (since : Nat) (stop : Option Nat) (lates : List Nat) (now : Nat)
    (turn : TickTurn) (turns : List TickTurn) (count : Nat) : Prop where
  kept : ticker.HasKept since stop lates now turns turn.due count
  punctual : turn.due ≤ turn.taken
  past : turn.taken ≤ now
  prompt : lates = [] → turn.IsPrompt stop
  unentered : turn.entries = []
  unskipped : turn.skips = 0

/-- Where a timer is in its round, with what is known of it. -/
inductive At (ticker : Ticker setup) (since : Nat) (stop : Option Nat) (lates : List Nat) (now : Nat) :
    Diary → Script (Option Task) → Prop where
  | first {diary : Diary} (fresh : diary.turns = []) (begun : since ≤ now)
      (atOnce : now ≤ since + heldUp lates since now) :
      At ticker since stop lates now diary (ticker.round none 0)
  | rests {diary : Diary} {next count : Nat}
      (kept : ticker.HasKept since stop lates now diary.turns next count) :
      At ticker since stop lates now diary (done (some (ticker.task (some next) count)))
  | begins {diary : Diary} {next count : Nat}
      (kept : ticker.HasKept since stop lates now diary.turns next count) :
      At ticker since stop lates now diary (ticker.round (some next) count)
  | awaits {diary : Diary} {next count : Nat}
      (kept : ticker.HasKept since stop lates now diary.turns next count)
      (arrived : lates = [] → ∀ time ∈ stop, now ≤ time ∨ now = diary.clock) :
      At ticker since stop lates now diary (ticker.awaitsTick next count)
  | takes {clock count : Nat} {turn : TickTurn} {turns : List TickTurn}
      (taken : ticker.HasTaken since stop lates now turn turns count) (unrefused : turn.refusals = [])
      (atOnce : now ≤ turn.taken + heldUp lates turn.taken now) :
      At ticker since stop lates now ⟨clock, turn :: turns⟩ (ticker.takesTick turn.due count)
  | joins {clock count : Nat} {turn : TickTurn} {turns : List TickTurn}
      (taken : ticker.HasTaken since stop lates now turn turns count) (unrefused : turn.refusals = [])
      (read : turn.taken ≤ clock) (earlier : clock ≤ now)
      (atOnce : now ≤ turn.taken + heldUp lates turn.taken now) :
      At ticker since stop lates now ⟨clock, turn :: turns⟩ (ticker.joinsLine turn.due count clock)
  | queues {clock count : Nat} {turn : TickTurn} {turns : List TickTurn}
      (taken : ticker.HasTaken since stop lates now turn turns count) (unrefused : turn.refusals = [])
      (read : turn.taken ≤ clock) (soon : clock ≤ turn.taken + heldUp lates turn.taken now)
      (inTime : now ≤ turn.taken + ticker.wait + heldUp lates turn.taken now) :
      At ticker since stop lates now ⟨clock, turn :: turns⟩ (ticker.awaitsGuard turn.due count clock)
  | skips {clock count : Nat} {turn : TickTurn} {turns : List TickTurn}
      (taken : ticker.HasTaken since stop lates now turn turns count) (read : turn.taken ≤ clock)
      (refused : turn.IsRefused ticker.wait lates) :
      At ticker since stop lates now ⟨clock, turn :: turns⟩
        (ticker.skips (nextTick ticker.period turn.due clock) count)
  | looks {diary : Diary} {next count : Nat} (inside : diary.IsInside ticker.wait lates)
      (kept : ticker.HasKept since stop lates now diary.turns next (count + 1)) :
      At ticker since stop lates now diary (ticker.looksAround next count)
  | works {diary : Diary} {next count : Nat} {work : Script Bool} (apart : work.IsApart)
      (inside : diary.IsInside ticker.wait lates)
      (kept : ticker.HasKept since stop lates now diary.turns next (count + 1)) :
      At ticker since stop lates now diary (work.bind (ticker.leavesGuard next count))
  | ends {diary : Diary} {next count : Nat}
      (kept : ticker.HasKept since stop lates now diary.turns next count) :
      At ticker since stop lates now diary (done none)

variable {ticker : Ticker setup} {since now next count clock : Nat} {stop : Option Nat} {turn : TickTurn}
variable {turns : List TickTurn} {diary : Diary} {lates more : List Nat}

theorem HasKept.later (kept : ticker.HasKept since stop lates now turns next count)
    (grown : lates <+: more) {time : Nat} (onwards : now ≤ time) :
    ticker.HasKept since stop more time turns next count where
  settled turn member := (kept.settled turn member).imp (·.later grown) (·.later grown)
  scheduled := by
    obtain ⟨base, begun, atOnce, scheduled⟩ := kept.scheduled
    exact ⟨base, begun, Nat.le_trans atOnce
      (Nat.add_le_add_left (held_up_mono since grown (Nat.le_refl base)) since), scheduled⟩
  ordered := kept.ordered
  punctual := kept.punctual
  past turn member := Nat.le_trans (kept.past turn member) onwards
  prompt none := kept.prompt (List.prefix_nil.mp (none ▸ grown))
  entered := kept.entered

theorem HasTaken.later (taken : ticker.HasTaken since stop lates now turn turns count)
    (grown : lates <+: more) {time : Nat} (onwards : now ≤ time) :
    ticker.HasTaken since stop more time turn turns count :=
  { taken with
    kept := taken.kept.later grown onwards
    past := Nat.le_trans taken.past onwards
    prompt := fun none => taken.prompt (List.prefix_nil.mp (none ▸ grown)) }

theorem kept_of_first (begun : since ≤ now) (atOnce : now ≤ since + heldUp lates since now) :
    ticker.HasKept since stop lates now [] (now + ticker.period) 0 where
  settled := nofun
  scheduled := by
    refine ⟨now, begun, atOnce, fun due member => ?_⟩
    obtain rfl := List.mem_singleton.mp member
    exact ⟨1, Nat.one_pos, by rw [Nat.one_mul]⟩
  ordered := List.pairwise_singleton ..
  punctual := nofun
  past := nofun
  prompt := nofun
  entered := rfl

/-- A turn that is settled, however it ends, leaves the timer on its schedule. -/
theorem HasTaken.settle (taken : ticker.HasTaken since stop lates now turn turns count)
    (positive : 0 < ticker.period) (read : turn.taken ≤ clock) (ended : TickTurn)
    (due : ended.due = turn.due) (same : ended.taken = turn.taken) (asked : ended.asked = turn.asked)
    (settled : ended.IsHeld ticker.wait lates ∨ ended.IsMissed ticker.wait lates) :
    ticker.HasKept since stop lates now (ended :: turns) (nextTick ticker.period turn.due clock)
      (count + ended.entries.length) := by
  obtain ⟨passed, some, later⟩ := next_tick_on_schedule positive (Nat.le_trans taken.punctual read)
  have kept := taken.kept
  have onwards : turn.due < nextTick ticker.period turn.due clock := by
    have further : 0 < passed * ticker.period := Nat.mul_pos some positive
    omega
  constructor
  · exact List.forall_mem_cons.mpr ⟨settled, kept.settled⟩
  · obtain ⟨base, begun, atOnce, scheduled⟩ := kept.scheduled
    refine ⟨base, begun, atOnce, ?_⟩
    rw [List.map_cons, due]
    refine List.forall_mem_cons.mpr ⟨?_, scheduled⟩
    obtain ⟨periods, before, was⟩ := scheduled turn.due List.mem_cons_self
    refine ⟨periods + passed, by omega, ?_⟩
    rw [later, Nat.add_mul, ← Nat.add_assoc, ← was]
  · rw [List.map_cons, due]
    refine List.pairwise_cons.mpr ⟨?_, kept.ordered⟩
    intro earlier member
    rcases List.mem_cons.mp member with rfl | member
    · exact onwards
    · exact Nat.lt_trans ((List.pairwise_cons.mp kept.ordered).1 earlier member) onwards
  · exact List.forall_mem_cons.mpr ⟨by rw [due, same]; exact taken.punctual, kept.punctual⟩
  · exact List.forall_mem_cons.mpr ⟨by rw [same]; exact taken.past, kept.past⟩
  · intro none
    refine List.forall_mem_cons.mpr ⟨?_, kept.prompt none⟩
    unfold TickTurn.IsPrompt
    rw [same, due, asked]
    exact taken.prompt none
  · rw [List.flatMap_cons, List.length_append, kept.entered, Nat.add_comm]

theorem HasTaken.entries_length (taken : ticker.HasTaken since stop lates now turn turns count) :
    turn.entries.length = 0 := by
  rw [taken.unentered, List.length_nil]

theorem HasTaken.held (taken : ticker.HasTaken since stop lates now turn turns count)
    (unrefused : turn.refusals = [])
    (inTime : now ≤ turn.taken + ticker.wait + heldUp lates turn.taken now) :
    TickTurn.IsHeld ticker.wait { turn with entries := now :: turn.entries } lates := by
  refine ⟨⟨now, ?_, taken.past, inTime⟩, unrefused, taken.unskipped⟩
  rw [taken.unentered]

theorem HasTaken.enter (taken : ticker.HasTaken since stop lates now turn turns count)
    (positive : 0 < ticker.period) (read : turn.taken ≤ clock) (unrefused : turn.refusals = [])
    (inTime : now ≤ turn.taken + ticker.wait + heldUp lates turn.taken now) :
    ticker.HasKept since stop lates now ({ turn with entries := now :: turn.entries } :: turns)
      (nextTick ticker.period turn.due clock) (count + 1) := by
  have held := taken.held unrefused inTime
  have kept := taken.settle positive read { turn with entries := now :: turn.entries } rfl rfl rfl
    (.inl held)
  rwa [List.length_cons, taken.entries_length, Nat.zero_add] at kept

theorem HasTaken.miss (taken : ticker.HasTaken since stop lates now turn turns count)
    (positive : 0 < ticker.period) (read : turn.taken ≤ clock)
    (refused : turn.IsRefused ticker.wait lates) :
    ticker.HasKept since stop lates now ({ turn with skips := turn.skips + 1 } :: turns)
      (nextTick ticker.period turn.due clock) count := by
  have missed : TickTurn.IsMissed ticker.wait { turn with skips := turn.skips + 1 } lates := by
    refine ⟨taken.unentered, refused, ?_⟩
    rw [taken.unskipped]
  have kept := taken.settle positive read { turn with skips := turn.skips + 1 } rfl rfl rfl (.inr missed)
  rwa [taken.entries_length] at kept

theorem due_of_tick {actor scheduler due : Nat} {hub : Hub}
    {effect : Effect (Action.awaitTick scheduler due).Reply}
    (member : effect ∈ (Action.awaitTick scheduler due).effects setup actor hub)
    (told : effect.reply = some true) : due ≤ hub.now := by
  rcases List.mem_append.mp member with stopped | ticked
  · split at stopped
    · obtain rfl := List.mem_singleton.mp stopped
      cases told
    · cases stopped
  · split at ticked
    · assumption
    · cases ticked

theorem late_of_refusal {actor scheduler deadline : Nat} {hub : Hub}
    {effect : Effect (Action.enterGuard scheduler deadline).Reply}
    (member : effect ∈ (Action.enterGuard scheduler deadline).effects setup actor hub)
    (told : effect.reply = some false) : deadline ≤ hub.now := by
  simp only [Action.effects] at member
  split at member
  · obtain rfl := List.mem_singleton.mp member
    cases told
  · split at member
    · assumption
    · cases member

/-- One action takes a timer from one place in its round to the next. -/
theorem At.act {hub : Hub} {script : Script (Option Task)} (positive : 0 < ticker.period)
    (place : ticker.At since stop lates hub.now diary script) {action : Action}
    {next : action.Reply → Script (Option Task)} {effect : Effect action.Reply}
    (doing : script = .act action next) {actor : Nat}
    (member : effect ∈ action.effects setup actor hub) {reply : action.Reply}
    (told : effect.reply = some reply) :
    ticker.At since stop lates hub.now (diary.after ticker.scheduler hub.now action reply) (next reply) := by
  cases place with
  | first fresh begun atOnce =>
      cases doing
      obtain rfl := List.mem_singleton.mp member
      obtain rfl := Option.some.inj told
      refine .awaits ?_ fun _ _ _ => .inr rfl
      change ticker.HasKept since stop lates hub.now diary.turns (hub.now + ticker.period) 0
      rw [fresh]
      exact kept_of_first begun atOnce
  | rests kept => cases doing
  | begins kept =>
      cases doing
      obtain rfl := List.mem_singleton.mp member
      obtain rfl := Option.some.inj told
      exact .awaits kept fun _ _ _ => .inr rfl
  | awaits kept arrived =>
      cases doing
      cases reply with
      | false =>
          rw [Diary.after_stop]
          exact .ends kept
      | true =>
          have late := due_of_tick member told
          rw [Diary.after_tick]
          refine .takes ⟨kept, late, Nat.le_refl _, ?_, rfl, rfl⟩ rfl (Nat.le_add_right _ _)
          intro none time found passed
          have now := (arrived none time found).resolve_left (Nat.not_le_of_lt passed)
          exact ⟨now ▸ late, now⟩
  | takes taken unrefused atOnce =>
      cases doing
      obtain rfl := List.mem_singleton.mp member
      obtain rfl := Option.some.inj told
      exact .joins taken unrefused taken.past (Nat.le_refl _) atOnce
  | joins taken unrefused read earlier atOnce =>
      cases doing
      exact .queues taken unrefused read (Nat.le_trans earlier atOnce) (by omega)
  | queues taken unrefused read soon inTime =>
      cases doing
      cases reply with
      | true =>
          rw [Diary.after_enter]
          exact .looks ⟨_, rfl, taken.held unrefused inTime⟩ (taken.enter positive read unrefused inTime)
      | false =>
          rw [Diary.after_refuse, unrefused]
          have deadline := late_of_refusal member told
          exact .skips ⟨taken.kept, taken.punctual, taken.past, taken.prompt, taken.unentered,
            taken.unskipped⟩ read ⟨hub.now, rfl, Nat.le_trans (Nat.add_le_add_right read _) deadline, inTime⟩
  | skips taken read refused =>
      cases doing
      rw [Diary.after_skip]
      exact .rests (taken.miss positive read refused)
  | @looks diary next count inside kept =>
      cases doing
      have refused : (done false : Script Bool).IsApart := trivial
      have barred : ticker.At since stop lates hub.now diary (ticker.leavesGuard next count false) :=
        .works refused inside kept
      cases reply with
      | opened => exact .works (ticker.apart _) inside kept
      | _ => exact barred
  | @works diary next count work apart inside kept =>
      cases work with
      | done goesOn =>
          cases doing
          cases goesOn with
          | true => exact .rests kept
          | false => exact .ends kept
      | act first rest =>
          cases doing
          have same := Diary.turns_of_apart apart.1 ticker.scheduler hub.now diary reply
          refine .works (apart.2 reply) ?_ ?_
          · unfold Diary.IsInside
            rwa [same]
          · rwa [same]
  | ends kept => cases doing

theorem At.goOn {script : Script (Option Task)} {task : Task}
    (place : ticker.At since stop lates now diary script) (ended : script = .done (some task)) :
    ticker.At since stop lates now diary (task.script setup) := by
  cases place with
  | rests kept =>
      cases ended
      rw [ticker.runs]
      exact .begins kept
  | @works diary next count work apart inside kept => cases work <;> cases ended
  | _ => cases ended

/-- Time passes while a timer waits for a tick, for the guard or at its work. Where the scheduler has
been stopped, it does not wait for a tick. -/
theorem At.tick {hub : Hub} {script : Script (Option Task)} {actor : Nat}
    (place : ticker.At since stop lates hub.now diary script)
    (stuck : script.IsStuck setup actor hub)
    (stopped : ∀ time ∈ stop, hub.isStopped ticker.scheduler = true) :
    ticker.At since stop lates (hub.now + 1) diary script := by
  have same := List.prefix_refl lates
  have onwards : hub.now ≤ hub.now + 1 := Nat.le_succ _
  cases place with
  | first | rests | begins | takes | joins | skips | looks => cases stuck
  | awaits kept arrived =>
      refine .awaits (kept.later same onwards) fun _ time found => ?_
      have still := (List.append_eq_nil_iff.mp stuck).1
      rw [if_pos (stopped time found)] at still
      cases still
  | @queues clock count turn turns taken unrefused read soon inTime =>
      have early : hub.now < clock + ticker.wait := by
        simp only [Script.IsStuck, Rounds.awaitsGuard, Action.effects] at stuck
        split at stuck
        · cases stuck
        · split at stuck
          · cases stuck
          · omega
      have slack := held_up_mono turn.taken same onwards
      exact .queues (taken.later same onwards) unrefused read (by omega) (by omega)
  | works apart inside kept => exact .works apart inside (kept.later same onwards)
  | ends kept => exact .ends (kept.later same onwards)

/-- Where a timer is held up, that is put down, and nothing else is lost. -/
theorem At.late {script : Script (Option Task)} (place : ticker.At since stop lates now diary script) :
    ticker.At since stop (lates ++ [now]) (now + 1) diary script := by
  have grown : lates <+: lates ++ [now] := List.prefix_append ..
  have onwards : now ≤ now + 1 := Nat.le_succ _
  cases place with
  | first fresh begun atOnce =>
      have slack := held_up_late lates begun
      exact .first fresh (by omega) (by omega)
  | rests kept => exact .rests (kept.later grown onwards)
  | begins kept => exact .begins (kept.later grown onwards)
  | awaits kept arrived =>
      refine .awaits (kept.later grown onwards) fun none => ?_
      exact absurd none (List.append_ne_nil_of_right_ne_nil lates (List.cons_ne_nil now []))
  | takes taken unrefused atOnce =>
      have slack := held_up_late lates taken.past
      exact .takes (taken.later grown onwards) unrefused (by omega)
  | joins taken unrefused read earlier atOnce =>
      have slack := held_up_late lates taken.past
      exact .joins (taken.later grown onwards) unrefused read (by omega) (by omega)
  | queues taken unrefused read soon inTime =>
      have slack := held_up_late lates taken.past
      exact .queues (taken.later grown onwards) unrefused read (by omega) (by omega)
  | skips taken read refused => exact .skips (taken.later grown onwards) read (refused.later grown)
  | looks inside kept => exact .looks (inside.later grown) (kept.later grown onwards)
  | works apart inside kept => exact .works apart (inside.later grown) (kept.later grown onwards)
  | ends kept => exact .ends (kept.later grown onwards)

end Ticker

namespace World

variable {start world : World} {log earlier : Log} {lates : List Nat} {index since : Nat}
variable {stop : Option Nat} {script : Script (Option Task)}

/-- A timer goes through its rounds whatever the others do, and however late it is. -/
theorem Clocked.place {setup : Setup} (ticker : Ticker setup) (same : start.setup = setup)
    (positive : 0 < ticker.period)
    (stopped : ∀ time ∈ stop, ∀ {log lates world}, start.Clocked index log lates world →
      world.hub.isStopped ticker.scheduler = true)
    (here : start.actors[index]? = some ⟨script, false⟩)
    (place : ticker.At since stop [] start.hub.now (earlier.diary ticker.scheduler index) script)
    (clocked : start.Clocked index log lates world) :
    ∃ rest, world.actors[index]? = some ⟨rest, false⟩ ∧
      ticker.At since stop lates world.hub.now (Log.diary (earlier ++ log) ticker.scheduler index) rest := by
  subst same
  refine clocked.of_actor (motive := fun log lates hub rest =>
    ticker.At since stop lates hub.now (Log.diary (earlier ++ log) ticker.scheduler index) rest)
    here ?_ ?_ ?_ ?_ ?_ ?_
  · rwa [List.append_nil]
  · intro log lates world action next effect _ place member
    rw [Action.now_of_effect member, ← List.append_assoc]
    cases told : effect.reply with
    | none => rwa [Log.diary_waiting]
    | some reply =>
        rw [Log.diary_own]
        exact place.act positive rfl member told
  · intro log lates world rest other action effect _ place own member
    rwa [Action.now_of_effect member, ← List.append_assoc, Log.diary_other own]
  · exact fun _ place => place.goOn rfl
  · intro log lates world rest hub before place drifts patient
    rcases patient with same | stuck
    · rwa [same]
    · cases drifts with
      | tick => exact place.tick stuck fun time member => stopped time member before
      | cancel => exact place
      | feed cue => exact place
  · exact fun _ place => place.late

end World

end WebSocket
