import WebSocket.Proofs.Timers.Guard
import WebSocket.Proofs.Timers.Turns

/-!
The ticks of the timers of a connection. The bodies of a scheduler's timers exclude each other, and
no tick is made up for: a tick that does not get the guard in time is counted and gone.
-/

namespace WebSocket

open Script Connection

namespace Ticker

variable {setup : Setup} {ticker : Ticker setup} {since now : Nat} {stop : Option Nat} {lates : List Nat}
variable {diary : Diary} {script : Script (Option Task)}

theorem At.course (place : ticker.At since stop lates now diary script) :
    (∃ next count, ticker.HasKept since stop lates now diary.turns next count) ∨
      ∃ turn turns count, diary.turns = turn :: turns ∧
        ticker.HasTaken since stop lates now turn turns count ∧ turn.IsUnderWay ticker.wait lates := by
  have underWay {turn : TickTurn} {turns : List TickTurn} {count : Nat}
      (taken : ticker.HasTaken since stop lates now turn turns count)
      (refused : turn.refusals = [] ∨ turn.IsRefused ticker.wait lates) :
      ∃ newest older count, turn :: turns = newest :: older ∧
        ticker.HasTaken since stop lates now newest older count ∧ newest.IsUnderWay ticker.wait lates :=
    ⟨turn, turns, count, rfl, taken, taken.unentered, refused, taken.unskipped⟩
  cases place with
  | first fresh begun atOnce =>
      rw [fresh]
      exact .inl ⟨_, _, kept_of_first begun atOnce⟩
  | rests kept | begins kept | awaits kept arrived | looks inside kept | works apart inside kept
    | ends kept =>
      exact .inl ⟨_, _, kept⟩
  | takes taken unrefused | joins taken unrefused | queues taken unrefused =>
      exact .inr (underWay taken (.inl unrefused))
  | skips taken read refused => exact .inr (underWay taken (.inr refused))

theorem At.ordered (place : ticker.At since stop lates now diary script) :
    (diary.turns.map TickTurn.due).Pairwise (· > ·) ∧
      ticker.AreScheduled since lates (diary.turns.map TickTurn.due) ∧
      ∀ turn ∈ diary.turns, turn.due ≤ turn.taken := by
  rcases place.course with ⟨next, count, kept⟩ | ⟨newest, older, count, same, taken, -⟩
  · obtain ⟨base, begun, atOnce, scheduled⟩ := kept.scheduled
    refine ⟨(List.pairwise_cons.mp kept.ordered).2, ⟨base, begun, atOnce, ?_⟩, kept.punctual⟩
    exact fun due member => scheduled due (List.mem_cons_of_mem next member)
  · rw [same]
    exact ⟨taken.kept.ordered, taken.kept.scheduled,
      List.forall_mem_cons.mpr ⟨taken.punctual, taken.kept.punctual⟩⟩

theorem At.settled (place : ticker.At since stop lates now diary script) :
    (∀ turn ∈ diary.turns, turn.IsHeld ticker.wait lates ∨ turn.IsMissed ticker.wait lates ∨
      turn.IsUnderWay ticker.wait lates) ∧
      ∀ turn ∈ diary.turns.tail, turn.IsHeld ticker.wait lates ∨ turn.IsMissed ticker.wait lates := by
  rcases place.course with ⟨next, count, kept⟩ | ⟨newest, older, count, same, taken, underWay⟩
  · refine ⟨fun turn member => ?_, fun turn member => kept.settled turn (List.mem_of_mem_tail member)⟩
    exact (kept.settled turn member).imp_right .inl
  · rw [same]
    refine ⟨fun turn member => ?_, taken.kept.settled⟩
    rcases List.mem_cons.mp member with rfl | member
    · exact .inr (.inr underWay)
    · exact (taken.kept.settled turn member).imp_right .inl

theorem At.enters (place : ticker.At since stop lates now diary script) {scheduler deadline : Nat}
    {next : Bool → Script (Option Task)} (doing : script = .act (.enterGuard scheduler deadline) next) :
    ∃ due, next true = ticker.looksAround due (diary.turns.flatMap TickTurn.entries).length := by
  cases place with
  | @queues clock count turn turns taken =>
      cases doing
      refine ⟨nextTick ticker.period turn.due clock, ?_⟩
      rw [List.flatMap_cons, taken.unentered, List.nil_append, taken.kept.entered]
      rfl
  | @works diary next count work apart inside kept =>
      cases work with
      | done goesOn => cases doing
      | act first rest =>
          cases doing
          cases apart.1
  | _ => cases doing

end Ticker

namespace World

variable {start before world : World} {earlier later : History} {log : Log} {lates : List Nat} {index : Nat}

theorem place_of_timer (ticker : Ticker before.setup) (positive : 0 < ticker.period)
    (here : before.actors[index]? = some ⟨(ticker.task none 0).script before.setup, false⟩)
    (behind : before.Clocked index log lates world) :
    ∃ rest, world.actors[index]? = some ⟨rest, false⟩ ∧
      ticker.At before.hub.now none lates world.hub.now (log.diary ticker.scheduler index) rest := by
  rw [ticker.runs] at here
  have first : ticker.At before.hub.now none [] before.hub.now
      (Log.diary [] ticker.scheduler index) (ticker.round none 0) :=
    .first rfl (Nat.le_refl _) (Nat.le_add_right _ _)
  have unstopped : ∀ time ∈ (none : Option Nat), ∀ {log lates world},
      before.Clocked index log lates world → world.hub.isStopped ticker.scheduler = true := by
    intro time absent
    cases absent
  exact behind.place ticker rfl positive unstopped here first

/-- At no time are two actors inside the guard of one scheduler. Each skip adds one to the scheduler's
counter, and nothing else does. Whatever the others do, and however late the timer itself goes on, its
ticks are due at whole numbers of periods after its first look at the clock, each at most once; each
of them that is taken leads either to one body or to one skip, unless it is still waiting. A body begins
in the time that a tick may wait and a skip is due when that time is over, as far as the timer goes on
as soon as it can; each time that it does not may put this off by one. A body looks whether the
connection is open, works if it is, and ends the timer if not; and the work of the keepalive timer's
body number `i` is one call to send a Ping, with this number, a colon and sixteen digits, which keeps to
the rules. -/
theorem ticks_take_turns (empty : start.actors = []) (run : start.RunIn session earlier before)
    (ticker : Ticker before.setup) (positive : 0 < ticker.period)
    (there : ticker.scheduler < before.hub.schedulers.length)
    (here : before.actors[index]? = some ⟨(ticker.task none 0).script before.setup, false⟩)
    (behind : before.RunIn session later world) :
    let wait := before.setup.config.timeouts.tickGuard
    let history := earlier ++ later
    (∀ scheduler first second, (history.stand Tenure.conduct first).held? = some scheduler →
      (history.stand Tenure.conduct second).held? = some scheduler → first = second) ∧
    (world.hub.scheduler ticker.scheduler).skipped =
      (before.hub.scheduler ticker.scheduler).skipped +
        later.countP (Happening.isSkip ticker.scheduler) ∧
    (∃ log lates, log.history = later ∧ before.Clocked index log lates world) ∧
    (∀ log lates, before.Clocked index log lates world →
      let turns := (log.diary ticker.scheduler index).turns
      (turns.map TickTurn.due).Pairwise (· > ·) ∧
      ticker.AreScheduled before.hub.now lates (turns.map TickTurn.due) ∧
      (∀ turn ∈ turns, turn.due ≤ turn.taken) ∧
      (∀ turn ∈ turns,
        turn.IsHeld wait lates ∨ turn.IsMissed wait lates ∨ turn.IsUnderWay wait lates) ∧
      (∀ turn ∈ turns.tail, turn.IsHeld wait lates ∨ turn.IsMissed wait lates) ∧
      ∀ actor deadline next, world.actors[index]? = some actor →
        actor.script = .act (.enterGuard ticker.scheduler deadline) next →
        let count := (turns.flatMap TickTurn.entries).length
        ∃ due, next true = .act .readPhase fun phase =>
          if phase = .opened then (ticker.work count).bind (ticker.leavesGuard due count)
          else ticker.leavesGuard due count false) ∧
    ∀ count, (Ticker.keepalive before.setup ticker.scheduler).work count =
        (.act .drawKey fun high => .act .drawKey fun low =>
          (sendFrame before.setup (.ping (keepalivePayload (count + 1) (BigEndian.decode high.toBytes)
            (BigEndian.decode low.toBytes)))).bind fun result => .done result.toBool) ∧
      ∀ high low, (∃ token : List Char, token.length = 16 ∧ (∀ digit ∈ token, digit ∈ Text.hexDigits) ∧
          keepalivePayload (count + 1) high low =
            Utf8.encode (toString (count + 1) ++ ":" ++ String.ofList token)) ∧
        (count + 1 < 2 ^ 64 →
          (Frame.ping (keepalivePayload (count + 1) high low)).validate = .ok ()) := by
  intro wait history
  refine ⟨?_, (scheduler_of_run session_orderly there behind).2.1, clocked_of_run index behind, ?_, ?_⟩
  · exact fun scheduler first second => one_inside session_orderly empty (run.trans behind)
  · intro log lates clocked turns
    obtain ⟨rest, found, place⟩ := place_of_timer ticker positive here clocked
    have settled := place.settled
    rw [ticker.waits] at settled
    refine ⟨place.ordered.1, place.ordered.2.1, place.ordered.2.2, settled.1, settled.2, ?_⟩
    intro actor deadline next acting doing
    cases acting.symm.trans found
    exact place.enters doing
  · intro count
    refine ⟨rfl, fun high low => ⟨keepalive_payload_form _ high low, fun bounded => ?_⟩⟩
    exact keepalive_payload_valid bounded high low

/-- An open connection with both timers, whose hook takes as long as a period. -/
def ticking (tickGuard : Nat) : World :=
  { setup :=
      { config := { keepalive := ⟨true, 1⟩, maintenance := ⟨true, 1⟩, timeouts := { tickGuard } }
        hook := { lasts := fun _ => 1 } }
    hub := { phase := .opened } }

/-- The scheduler has begun both timers. -/
def timersBegun (tickGuard : Nat) : Log × World :=
  let errand := (Errand.schedule.script (ticking tickGuard).setup).bind fun _ => .done none
  playPaced [[0, 0, 0]] ([], (ticking tickGuard).addActor ⟨errand, false⟩)

theorem run_timers_begun (tickGuard : Nat) :
    (ticking tickGuard).Paced (timersBegun tickGuard).1 (timersBegun tickGuard).2 := by
  apply paced_of_play
  exact .begin .refl (.errand .schedule)

/-- Ticks do not wait for the guard. The first one of the keepalive timer finds the hook inside, and
the second one gets the guard. -/
def overlap : Log × World :=
  playPaced
    [[1, 2], [2, 2, 2, 2, 2, 2, 1, 1, 1, 1, 1, 1, 1],
      [2, 2, 2, 2, 1, 1, 1, 1, 1, 1, 1, 1, 1, 1, 1, 1, 1, 1, 1, 1, 1]]
    ([], (timersBegun 0).2)

theorem ticks_take_turns_of_overlap :
    (overlap.1.diary 0 1).turns =
        [{ asked := 1, due := 2, taken := 2, entries := [2] },
          { asked := 0, due := 1, taken := 1, refusals := [1], skips := 1 }] ∧
      ((overlap.1.diary 0 1).turns.map TickTurn.due).Pairwise (· > ·) ∧
      (∀ turn ∈ (overlap.1.diary 0 1).turns.tail, turn.IsHeld 0 ∨ turn.IsMissed 0) ∧
      overlap.1.history.countP (Happening.isSkip 0) = 1 ∧
      (overlap.2.hub.scheduler 0).skipped =
        ((timersBegun 0).2.hub.scheduler 0).skipped + overlap.1.history.countP (Happening.isSkip 0) := by
  have behind : (timersBegun 0).2.Paced overlap.1 overlap.2 := paced_of_play _ .refl
  have positive : 0 < (Ticker.keepalive (timersBegun 0).2.setup 0).period := Nat.one_pos
  have there : 0 < (timersBegun 0).2.hub.schedulers.length := Nat.one_pos
  have here : (timersBegun 0).2.actors[1]? =
      some ⟨(Task.keepalive 0 none 0).script (timersBegun 0).2.setup, false⟩ := rfl
  have turns := ticks_take_turns rfl (run_timers_begun 0).session
    (.keepalive (timersBegun 0).2.setup 0) positive there here behind.session
  obtain ⟨-, counted, -, clocked, -⟩ := turns
  obtain ⟨ordered, -, -, -, settled, -⟩ := clocked overlap.1 [] (behind.clocked 1)
  have own : (Ticker.keepalive (timersBegun 0).2.setup 0).scheduler = 0 := rfl
  rw [own] at ordered settled counted
  exact ⟨by decide +kernel, ordered, settled, by decide +kernel, counted⟩

end World

end WebSocket
