import WebSocket.Proofs.Connection.Release

/-!
The end of a connection, whoever brings it about. The phase only ever goes onwards.
The one who closes it releases everything, nobody else releases anything, and the
closed signal comes after the release.
-/

namespace WebSocket

namespace Phase

theorem le_trans {first second third : Phase} (before : first ≤ second) (behind : second ≤ third) :
    first ≤ third := Nat.le_trans before behind

theorem le_closed (phase : Phase) : phase ≤ closed := by cases phase <;> decide

theorem eq_closed_of_le {phase : Phase} (late : closed ≤ phase) : phase = closed := by
  cases phase with
  | closed => rfl
  | _ => exact absurd late (by decide)

/-- On the way from one phase to another these are seen, and never a later one first. -/
def Ascends (source : Phase) : List Phase → Phase → Prop
  | [], target => source ≤ target
  | phase :: rest, target => source ≤ phase ∧ phase.Ascends rest target

variable {source middle target : Phase} {seen more : List Phase}

theorem Ascends.of_le (onwards : source ≤ middle) (ascends : middle.Ascends seen target) :
    source.Ascends seen target := by
  cases seen with
  | nil => exact le_trans onwards ascends
  | cons phase rest => exact ⟨le_trans onwards ascends.1, ascends.2⟩

theorem Ascends.append (first : source.Ascends seen middle) (second : middle.Ascends more target) :
    source.Ascends (seen ++ more) target := by
  induction seen generalizing source with
  | nil => exact second.of_le first
  | cons phase rest induction => exact ⟨first.1, induction first.2⟩

theorem Ascends.pairwise (ascends : source.Ascends seen target) :
    (source :: seen ++ [target]).Pairwise (· ≤ ·) ∧ ∀ phase ∈ seen ++ [target], source ≤ phase := by
  induction seen generalizing source with
  | nil =>
      have onwards : source ≤ target := ascends
      simpa using onwards
  | cons phase rest induction =>
      obtain ⟨ordered, above⟩ := induction ascends.2
      have aboveToo : ∀ later ∈ phase :: rest ++ [target], source ≤ later := by
        intro later found
        rcases List.mem_cons.mp found with rfl | found
        · exact ascends.1
        · exact le_trans ascends.1 (above later found)
      exact ⟨List.pairwise_cons.mpr ⟨aboveToo, ordered⟩, aboveToo⟩

theorem Ascends.le (ascends : source.Ascends seen target) : source ≤ target :=
  ascends.pairwise.2 target (List.mem_append_right seen List.mem_cons_self)

theorem Ascends.le_of_mem {phase : Phase} (ascends : source.Ascends seen target) (found : phase ∈ seen) :
    phase ≤ target := by
  have apart := (List.pairwise_append.mp ascends.pairwise.1).2.2
  exact apart phase (List.mem_cons_of_mem source found) target List.mem_cons_self

end Phase

/-- The phases in which an actor finds and leaves the connection, in their order. -/
def Happening.sights : Happening → List Phase
  | ⟨_, .readPhase, some phase⟩ => [phase]
  | ⟨_, .movePhase source target, some true⟩ => [source, target]
  | ⟨_, .closePhase, some before⟩ => [before, .closed]
  | _ => []

namespace Action

variable {setup : Setup} {actor : Nat} {action : Action} {hub : Hub} {effect : Effect action.Reply}

theorem sights_of_move {source target : Phase} {effect : Effect (movePhase source target).Reply}
    (onwards : source ≤ target) (member : effect ∈ (movePhase source target).effects setup actor hub) :
    hub.phase.Ascends (Happening.sights ⟨actor, movePhase source target, effect.reply⟩)
      effect.hub.phase := by
  simp only [effects] at member
  split at member
  · rename_i there
    obtain rfl := List.mem_singleton.mp member
    exact ⟨Nat.le_of_eq (congrArg Phase.number there), onwards, Nat.le_refl _⟩
  · obtain rfl := List.mem_singleton.mp member
    exact Nat.le_refl _

theorem sights_of_effect (onwards : ∀ source target, action = .movePhase source target → source ≤ target)
    (member : effect ∈ action.effects setup actor hub) :
    hub.phase.Ascends (Happening.sights ⟨actor, action, effect.reply⟩) effect.hub.phase := by
  have untouched : Happening.sights ⟨actor, action, effect.reply⟩ = [] →
      (∀ source target, action ≠ .movePhase source target) →
      hub.phase.Ascends (Happening.sights ⟨actor, action, effect.reply⟩) effect.hub.phase := by
    intro unseen unmoved
    rw [unseen]
    rcases phase_of_effect member with same | ⟨-, closed⟩ | ⟨source, target, same, -, -⟩
    · exact Nat.le_of_eq (congrArg Phase.number same.symm)
    · exact closed ▸ Phase.le_closed _
    · exact absurd (congrArg Happening.action same) (unmoved source target)
  cases action with
  | readPhase =>
      obtain rfl := List.mem_singleton.mp member
      exact ⟨Nat.le_refl _, Nat.le_refl _⟩
  | movePhase source target => exact sights_of_move (onwards source target rfl) member
  | closePhase =>
      obtain rfl := List.mem_singleton.mp member
      exact ⟨Nat.le_refl _, Phase.le_closed _, Nat.le_refl _⟩
  | _ => exact untouched (by cases effect.reply <;> rfl) nofun

/-- The signals that the end is announced and that the token is cancelled are never taken back,
and only an announcement gives the first of them. -/
theorem signals_of_effect (member : effect ∈ action.effects setup actor hub) :
    (action ≠ .announceClosed → effect.hub.closedAnnounced = hub.closedAnnounced) ∧
      (hub.isCancelled = true → effect.hub.isCancelled = true) := by
  cases action with
  | tell observer event =>
      obtain rfl := List.mem_singleton.mp member
      unfold Hub.tell
      split
      · exact ⟨fun _ => rfl, id⟩
      · dsimp only
        split <;> exact ⟨fun _ => rfl, fun cancelled => by simp [Hub.log, cancelled]⟩
  | write | flush | shutdown =>
      simp only [effects, Hub.transfer, Hub.answer] at member
      grind
  | read =>
      simp only [effects, Hub.receive, Hub.answer] at member
      grind
  | _ =>
      simp only [effects, Hub.answer, Hub.updateScheduler, Hub.log] at member
      grind

theorem reply_of_enter {effect : Effect enterGate.Reply} {reply : enterGate.Reply}
    (member : effect ∈ enterGate.effects setup actor hub) (reached : effect.reply = some reply) :
    reply = hub.hasWriter := by
  simp only [effects] at member
  split at member
  · obtain rfl := List.mem_singleton.mp member
    exact (Option.some.inj reached).symm
  · cases member

end Action

namespace Release

variable {setup : Setup} {count actor : Nat} {release : Release} {action : Action} {hub next : Hub}
variable {effect : Effect action.Reply}

/-- What somebody's release has brought about so far. -/
structure Fits (count : Nat) (release : Release) (hub : Hub) : Prop where
  underWay : release.IsUnderWay count
  closed : hub.phase = .closed
  cancelled : release ≠ .closed → hub.isCancelled = true
  writer : hub.hasWriter = release.hasWriter
  announced : hub.closedAnnounced = release.isAnnounced

theorem permits_announced {told : Nat} (permitted : (announced told).permits count action) :
    (told < count ∧ action = .tell told .closed) ∨ (count ≤ told ∧ action.isOrdinary = true) := by
  simp only [permits] at permitted
  split at permitted
  · rename_i more
    exact .inl ⟨more, permitted⟩
  · rename_i last
    exact .inr ⟨Nat.le_of_not_lt last, permitted⟩

theorem onwards_of_permits (permitted : release.permits count action) (source target : Phase)
    (moves : action = .movePhase source target) : source ≤ target := by
  subst moves
  have ordinary : (Action.movePhase source target).isOrdinary = true → source ≤ target := by
    intro ordinary
    simp only [Action.isOrdinary, Bool.and_eq_true, decide_eq_true_eq] at ordinary
    exact ordinary.1
  cases release with
  | idle => exact ordinary permitted
  | leaving => rcases permitted with wrong | ⟨deadline, wrong⟩ <;> cases wrong
  | announced told =>
      rcases permits_announced permitted with ⟨-, wrong⟩ | ⟨-, done⟩
      · cases wrong
      · exact ordinary done
  | _ => cases permitted

theorem ne_of_ordinary {other : Action} (ordinary : action.isOrdinary = true)
    (forbidden : other.isOrdinary = false) : action ≠ other := by
  intro same
  rw [same, forbidden] at ordinary
  cases ordinary

theorem unmarked_of_ordinary (ordinary : action.isOrdinary = true) (notClose : action ≠ .closePhase)
    (actor : Nat) (reply : Option action.Reply) : Happening.mark? ⟨actor, action, reply⟩ = none := by
  cases action with
  | closePhase => exact absurd rfl notClose
  | cancelToken | takeScheduler | takeWriter | shutdown | announceClosed => cases ordinary
  | tell observer event =>
      cases event with
      | closed => cases ordinary
      | _ => cases reply <;> rfl
  | _ => cases reply <;> rfl

theorem still_of_ordinary (idle : release.IsIdle count) (ordinary : action.isOrdinary = true)
    (closed : hub.phase = .closed) (member : effect ∈ action.effects setup actor hub)
    {reply : action.Reply} (reached : effect.reply = some reply) :
    release.after action reply = release ∧ Happening.mark? ⟨actor, action, some reply⟩ = none := by
  by_cases closes : action = .closePhase
  · subst closes
    obtain rfl := List.mem_singleton.mp member
    obtain rfl : hub.phase = reply := Option.some.inj reached
    exact ⟨if_pos closed, if_pos closed⟩
  · exact ⟨after_ordinary idle ordinary closes reply, unmarked_of_ordinary ordinary closes actor _⟩

theorem Fits.of_effect (fits : release.Fits count hub)
    (onwards : ∀ source target, action = .movePhase source target → source ≤ target)
    (notAnnounce : action ≠ .announceClosed) (notTake : action ≠ .takeWriter)
    (member : effect ∈ action.effects setup actor hub) : release.Fits count effect.hub where
  underWay := fits.underWay
  closed := Phase.eq_closed_of_le (fits.closed ▸ (Action.sights_of_effect onwards member).le)
  cancelled begun := (Action.signals_of_effect member).2 (fits.cancelled begun)
  writer := (Action.has_writer_of_effect notTake member).trans fits.writer
  announced := ((Action.signals_of_effect member).1 notAnnounce).trans fits.announced

theorem Fits.become {later : Release} (fits : release.Fits count hub)
    (underWay : later.IsUnderWay count) (cancelled : release ≠ .closed)
    (writer : later.hasWriter = release.hasWriter)
    (announced : later.isAnnounced = release.isAnnounced) : later.Fits count hub where
  underWay := underWay
  closed := fits.closed
  cancelled _ := fits.cancelled cancelled
  writer := fits.writer.trans writer.symm
  announced := fits.announced.trans announced.symm

def Records (actor : Nat) (release : Release) (action : Action) (reply : action.Reply) : Prop :=
  (release.after action reply).marks.map (Prod.mk actor) =
    release.marks.map (Prod.mk actor) ++ (Happening.mark? ⟨actor, action, some reply⟩).toList

theorem records_tell (actor told : Nat) : Records actor (announced told) (.tell told .closed) () := by
  simp [Records, after, marks, List.range_succ, Happening.mark?]

theorem Fits.step (fits : release.Fits count hub) (permitted : release.permits count action)
    (member : effect ∈ action.effects setup actor hub) {reply : action.Reply}
    (reached : effect.reply = some reply) :
    (release.after action reply).Fits count effect.hub ∧ Records actor release action reply := by
  have stays : action ≠ .announceClosed → action ≠ .takeWriter → release.Fits count effect.hub :=
    fun notAnnounce notTake =>
      fits.of_effect (onwards_of_permits permitted) notAnnounce notTake member
  cases release with
  | idle | barred => exact fits.underWay.elim
  | closed =>
      obtain rfl : action = .cancelToken := permitted
      obtain rfl := List.mem_singleton.mp member
      exact ⟨⟨trivial, fits.closed, fun _ => rfl, fits.writer, fits.announced⟩, rfl⟩
  | cancelled =>
      obtain rfl : action = .takeScheduler := permitted
      have still := stays nofun nofun
      cases reply with
      | none => exact ⟨still.become trivial nofun rfl rfl, rfl⟩
      | some scheduler => exact ⟨still.become trivial nofun rfl rfl, rfl⟩
  | detached scheduler =>
      obtain rfl : action = .stopScheduler scheduler := permitted
      exact ⟨(stays nofun nofun).become trivial nofun rfl rfl, rfl⟩
  | unscheduled =>
      obtain rfl : action = .queueForGate [] := permitted
      exact ⟨(stays nofun nofun).become trivial nofun rfl rfl, rfl⟩
  | queued =>
      obtain rfl : action = .enterGate := permitted
      have still := stays nofun nofun
      obtain rfl : reply = true := (Action.reply_of_enter member reached).trans fits.writer
      exact ⟨still.become trivial nofun rfl rfl, rfl⟩
  | entered =>
      obtain rfl : action = .takeWriter := permitted
      obtain rfl := List.mem_singleton.mp member
      exact ⟨⟨trivial, fits.closed, fun _ => fits.cancelled nofun, rfl, fits.announced⟩, rfl⟩
  | emptied =>
      obtain rfl : action = .leaveGate := permitted
      exact ⟨(stays nofun nofun).become trivial nofun rfl rfl, rfl⟩
  | leaving =>
      rcases permitted with rfl | ⟨deadline, rfl⟩
      · exact ⟨stays nofun nofun, rfl⟩
      · exact ⟨(stays nofun nofun).become trivial nofun rfl rfl, rfl⟩
  | shut =>
      obtain rfl : action = .announceClosed := permitted
      obtain rfl := List.mem_singleton.mp member
      exact ⟨⟨Nat.zero_le count, fits.closed, fun _ => fits.cancelled nofun, fits.writer, rfl⟩, rfl⟩
  | announced told =>
      rcases permits_announced permitted with ⟨more, rfl⟩ | ⟨last, ordinary⟩
      · exact ⟨(stays nofun nofun).become more nofun rfl rfl, records_tell actor told⟩
      · have all : told = count := Nat.le_antisymm fits.underWay last
        have idle : (Release.announced told).IsIdle count := .inr (congrArg Release.announced all)
        obtain ⟨same, unmarked⟩ := still_of_ordinary idle ordinary fits.closed member reached
        rw [same, Records, same, unmarked]
        exact ⟨stays (ne_of_ordinary ordinary rfl) (ne_of_ordinary ordinary rfl),
          (List.append_nil _).symm⟩

end Release

theorem Happening.unmarked_of_waiting (actor : Nat) (action : Action) :
    Happening.mark? ⟨actor, action, none⟩ = none := by
  cases action with
  | tell observer event => cases event <;> rfl
  | _ => rfl

theorem History.marks_append (history : History) (happening : Happening) :
    History.marks (history ++ [happening]) = history.marks ++ happening.mark?.toList := by
  rw [marks, List.filterMap_append]
  cases mark : happening.mark? <;> simp [marks, mark]

structure Unreleased (count : Nat) (history : History) (hub : Hub) : Prop where
  idle : ∀ actor, history.stand (Release.conduct count) actor = .idle
  unmarked : history.marks = []
  phase : hub.phase ≠ .closed
  writer : hub.hasWriter = true
  announced : hub.closedAnnounced = false

structure Releasing (count winner : Nat) (history : History) (hub : Hub) : Prop where
  fits : (history.stand (Release.conduct count) winner).Fits count hub
  others : ∀ actor, winner ≠ actor → history.stand (Release.conduct count) actor = .idle
  marks : history.marks =
    (history.stand (Release.conduct count) winner).marks.map (Prod.mk winner)
  stopped : ∀ scheduler, ⟨winner, .takeScheduler, some (some scheduler)⟩ ∈ history →
    history.stand (Release.conduct count) winner = .detached scheduler ∨
      ⟨winner, .stopScheduler scheduler, some ()⟩ ∈ history

section

variable {setup : Setup} {count winner actor : Nat} {action : Action} {hub next : Hub}
variable {effect : Effect action.Reply} {history : History}

theorem Unreleased.begin (unreleased : Unreleased count history hub) :
    Releasing count actor (history ++ [⟨actor, .closePhase, some hub.phase⟩])
      { hub with phase := .closed } := by
  have began : History.stand (history ++ [⟨actor, .closePhase, some hub.phase⟩])
      (Release.conduct count) actor = .closed := by
    rw [History.stand_own]
    exact if_neg unreleased.phase
  constructor
  · rw [began]
    exact ⟨trivial, rfl, fun other => (other rfl).elim, unreleased.writer, unreleased.announced⟩
  · intro other elsewhere
    rw [History.stand_other elsewhere]
    exact unreleased.idle other
  · rw [began, History.marks_append, unreleased.unmarked]
    simp [Happening.mark?, unreleased.phase, Release.marks]
  · intro scheduler member
    rcases List.mem_append.mp member with earlier | newest
    · have marked : (actor, Mark.detaches) ∈ history.marks :=
        List.mem_filterMap.mpr ⟨_, earlier, rfl⟩
      rw [unreleased.unmarked] at marked
      cases marked
    · cases List.mem_singleton.mp newest

theorem Unreleased.pass (unreleased : Unreleased count history hub)
    (permitted : (history.stand (Release.conduct count) actor).permits count action)
    (notClose : action ≠ .closePhase) (member : effect ∈ action.effects setup actor hub) :
    Unreleased count (history ++ [⟨actor, action, effect.reply⟩]) effect.hub := by
  rw [unreleased.idle actor] at permitted
  constructor
  · intro other
    by_cases own : actor = other
    · subst own
      cases effect.reply with
      | none => exact (History.stand_waiting ..).trans (unreleased.idle actor)
      | some reply =>
          rw [History.stand_own, unreleased.idle actor]
          exact Release.after_ordinary (Or.inl rfl : Release.idle.IsIdle count) permitted notClose reply
    · exact (History.stand_other own).trans (unreleased.idle other)
  · rw [History.marks_append, unreleased.unmarked, Release.unmarked_of_ordinary permitted notClose]
    rfl
  · rcases Action.phase_of_effect member with same | ⟨closes, -⟩ | ⟨source, target, same, -, reached⟩
    · exact same ▸ unreleased.phase
    · exact absurd closes notClose
    · obtain rfl : action = .movePhase source target := congrArg Happening.action same
      simp only [Release.permits, Action.isOrdinary, Bool.and_eq_true, bne_iff_ne] at permitted
      exact reached ▸ permitted.2
  · exact (Action.has_writer_of_effect (Release.ne_of_ordinary permitted rfl) member).trans unreleased.writer
  · exact ((Action.signals_of_effect member).1 (Release.ne_of_ordinary permitted rfl)).trans unreleased.announced

theorem Releasing.other (releasing : Releasing count winner history hub) (elsewhere : actor ≠ winner)
    (permitted : (history.stand (Release.conduct count) actor).permits count action)
    (member : effect ∈ action.effects setup actor hub) :
    Releasing count winner (history ++ [⟨actor, action, effect.reply⟩]) effect.hub := by
  have begun := releasing.fits
  have idle := releasing.others actor elsewhere.symm
  have onwards := Release.onwards_of_permits permitted
  rw [idle] at permitted
  have ordinary : action.isOrdinary = true := permitted
  have still : ∀ reply, effect.reply = some reply →
      Release.after .idle action reply = .idle ∧
        Happening.mark? ⟨actor, action, some reply⟩ = none :=
    fun _ reached => Release.still_of_ordinary (.inl rfl : Release.idle.IsIdle count) ordinary
      begun.closed member reached
  have unmarked : Happening.mark? ⟨actor, action, effect.reply⟩ = none := by
    cases reached : effect.reply with
    | none => exact Happening.unmarked_of_waiting actor action
    | some reply => exact (still reply reached).2
  constructor
  · rw [History.stand_other elsewhere]
    exact begun.of_effect onwards (Release.ne_of_ordinary ordinary rfl)
      (Release.ne_of_ordinary ordinary rfl) member
  · intro other notWinner
    by_cases own : actor = other
    · subst own
      cases reached : effect.reply with
      | none => exact (History.stand_waiting ..).trans idle
      | some reply =>
          rw [History.stand_own, idle]
          exact (still reply reached).1
    · exact (History.stand_other own).trans (releasing.others other notWinner)
  · rw [History.stand_other elsewhere, History.marks_append, unmarked, releasing.marks]
    exact List.append_nil _
  · intro scheduler found
    rw [History.stand_other elsewhere]
    rcases List.mem_append.mp found with earlier | newest
    · exact (releasing.stopped scheduler earlier).imp_right (List.mem_append_left _)
    · exact absurd (congrArg Happening.actor (List.mem_singleton.mp newest)) elsewhere.symm

theorem Releasing.stopped_after (releasing : Releasing count winner history hub)
    (permitted : (history.stand (Release.conduct count) winner).permits count action)
    (reply : action.Reply) (scheduler : Nat)
    (found : ⟨winner, .takeScheduler, some (some scheduler)⟩ ∈ history ++ [⟨winner, action, some reply⟩]) :
    (history.stand (Release.conduct count) winner).after action reply = .detached scheduler ∨
      ⟨winner, .stopScheduler scheduler, some ()⟩ ∈ history ++ [⟨winner, action, some reply⟩] := by
  rcases List.mem_append.mp found with earlier | newest
  · rcases releasing.stopped scheduler earlier with detached | stopped
    · rw [detached] at permitted
      obtain rfl : action = .stopScheduler scheduler := permitted
      exact .inr (List.mem_append_right history List.mem_cons_self)
    · exact .inr (List.mem_append_left _ stopped)
  · cases List.mem_singleton.mp newest
    exact .inl rfl

theorem Releasing.waiting (releasing : Releasing count winner history hub)
    (permitted : (history.stand (Release.conduct count) winner).permits count action)
    (member : effect ∈ action.effects setup winner hub) (untold : effect.reply = none) :
    Releasing count winner (history ++ [⟨winner, action, none⟩]) effect.hub := by
  have notAnnounce : action ≠ .announceClosed := by
    rintro rfl
    obtain rfl := List.mem_singleton.mp member
    cases untold
  have notTake : action ≠ .takeWriter := by
    rintro rfl
    obtain rfl := List.mem_singleton.mp member
    cases untold
  constructor
  · rw [History.stand_waiting]
    exact releasing.fits.of_effect (Release.onwards_of_permits permitted) notAnnounce notTake member
  · intro other elsewhere
    rw [History.stand_waiting]
    exact releasing.others other elsewhere
  · rw [History.stand_waiting, History.marks_append, Happening.unmarked_of_waiting, releasing.marks]
    exact List.append_nil _
  · intro scheduler found
    rw [History.stand_waiting]
    rcases List.mem_append.mp found with earlier | newest
    · exact (releasing.stopped scheduler earlier).imp_right (List.mem_append_left _)
    · cases List.mem_singleton.mp newest

theorem Releasing.own (releasing : Releasing count winner history hub)
    (permitted : (history.stand (Release.conduct count) winner).permits count action)
    (member : effect ∈ action.effects setup winner hub) :
    Releasing count winner (history ++ [⟨winner, action, effect.reply⟩]) effect.hub := by
  cases reached : effect.reply with
  | none => exact releasing.waiting permitted member reached
  | some reply =>
      obtain ⟨fits, records⟩ := releasing.fits.step permitted member reached
      constructor
      · rw [History.stand_own]
        exact fits
      · intro other elsewhere
        rw [History.stand_other elsewhere]
        exact releasing.others other elsewhere
      · rw [History.stand_own, History.marks_append, releasing.marks]
        exact records.symm
      · intro scheduler found
        rw [History.stand_own]
        exact releasing.stopped_after permitted reply scheduler found

theorem Releasing.drift (releasing : Releasing count winner history hub) (drifts : hub.Drift next) :
    Releasing count winner history next := by
  have fits := releasing.fits
  cases drifts with
  | cancel =>
      exact ⟨⟨fits.underWay, fits.closed, fun _ => rfl, fits.writer, fits.announced⟩,
        releasing.others, releasing.marks, releasing.stopped⟩
  | _ =>
      exact ⟨⟨fits.underWay, fits.closed, fits.cancelled, fits.writer, fits.announced⟩,
        releasing.others, releasing.marks, releasing.stopped⟩

theorem Releasing.stops (releasing : Releasing count winner history hub) {scheduler : Nat}
    (takes : ⟨winner, .takeScheduler, some (some scheduler)⟩ ∈ history)
    (empties : (winner, .empties) ∈ history.marks) :
    ⟨winner, .stopScheduler scheduler, some ()⟩ ∈ history := by
  rw [releasing.marks] at empties
  obtain ⟨mark, found, same⟩ := List.mem_map.mp empties
  cases same
  exact (releasing.stopped scheduler takes).resolve_left (Release.not_detached_of_empties found scheduler)

theorem Releasing.signals (releasing : Releasing count winner history hub)
    (announced : hub.closedAnnounced = true) :
    hub.phase = .closed ∧ hub.isCancelled = true ∧ hub.hasWriter = false := by
  have fits := releasing.fits
  rw [fits.announced] at announced
  cases stand : history.stand (Release.conduct count) winner with
  | announced told =>
      rw [stand] at fits
      exact ⟨fits.closed, fits.cancelled nofun, fits.writer⟩
  | _ =>
      rw [stand] at announced
      cases announced

theorem Releasing.complete (releasing : Releasing count winner history hub)
    (idle : (history.stand (Release.conduct count) winner).IsIdle count) :
    history.marks = (Release.complete count).map (Prod.mk winner) := by
  rw [releasing.marks]
  rcases idle with nothing | all
  · exact (nothing ▸ releasing.fits.underWay : Release.idle.IsUnderWay count).elim
  · rw [all, Release.complete]

def Ending (count : Nat) (history : History) (hub : Hub) : Prop :=
  Unreleased count history hub ∨ ∃ winner, Releasing count winner history hub

theorem Ending.drift (ending : Ending count history hub) (drifts : hub.Drift next) :
    Ending count history next := by
  rcases ending with unreleased | ⟨winner, releasing⟩
  · left
    cases drifts <;>
      exact ⟨unreleased.idle, unreleased.unmarked, unreleased.phase, unreleased.writer,
        unreleased.announced⟩
  · exact .inr ⟨winner, releasing.drift drifts⟩

theorem Ending.step (ending : Ending count history hub)
    (permitted : (history.stand (Release.conduct count) actor).permits count action)
    (member : effect ∈ action.effects setup actor hub) :
    Ending count (history ++ [⟨actor, action, effect.reply⟩]) effect.hub := by
  rcases ending with unreleased | ⟨winner, releasing⟩
  · by_cases closes : action = .closePhase
    · subst closes
      obtain rfl := List.mem_singleton.mp member
      exact .inr ⟨actor, unreleased.begin⟩
    · exact .inl (unreleased.pass permitted closes member)
  · right
    by_cases own : actor = winner
    · subst own
      exact ⟨actor, releasing.own permitted member⟩
    · exact ⟨winner, releasing.other own permitted member⟩

theorem Ending.cancelled_of_mark (ending : Ending count history hub) {mark : Mark}
    (marked : (actor, mark) ∈ history.marks) (late : mark ≠ .closes) : hub.isCancelled = true := by
  rcases ending with unreleased | ⟨winner, releasing⟩
  · rw [unreleased.unmarked] at marked
    cases marked
  · apply releasing.fits.cancelled
    intro only
    rw [releasing.marks, only] at marked
    simp [Release.marks, late] at marked

theorem Ending.closes_of_mark (ending : Ending count history hub) {mark : Mark}
    (marked : (actor, mark) ∈ history.marks) : (actor, .closes) ∈ history.marks := by
  rcases ending with unreleased | ⟨winner, releasing⟩
  · rw [unreleased.unmarked] at marked
    cases marked
  · rw [releasing.marks] at marked ⊢
    obtain ⟨found, among, same⟩ := List.mem_map.mp marked
    obtain rfl : winner = actor := congrArg Prod.fst same
    exact List.mem_map_of_mem (Release.closes_of_mem among)

end

namespace World

open Connection

/-- Who may begin where every operation that opens or ends a connection may be begun by
anybody at any time. The watchdog is one of the tasks of a session. -/
inductive Operates (setup : Setup) : Script (Option Task) → Prop where
  | joins {script : Script (Option Task)} (joins : Joins setup script) : Operates setup script
  | markOpen : Operates setup (.act (.movePhase .handshaking .opened) fun _ => .done none)
  | beginClose (code : Option UInt16) (reason : String) :
      Operates setup ((beginClose setup code reason).bind fun _ => .done none)
  | handlePeerClose (frame : Option CloseFrame) :
      Operates setup ((handlePeerClose setup frame).bind fun _ => .done none)
  | fail (code : UInt16) (reason : String) :
      Operates setup ((fail setup code reason).bind fun _ => .done none)
  | teardown : Operates setup ((teardown setup).bind fun _ => .done none)

def operations : Setting := ⟨Operates, Hub.Drift⟩

variable {setup : Setup} {setting : Setting} {start world : World} {history : History}

theorem Operates.routine {script : Script (Option Task)} (operates : Operates setup script) :
    Routine setup script := by
  cases operates with
  | joins joins => exact joins.routine
  | markOpen => exact .opens fun _ => .done none
  | beginClose code reason => exact .bind (.of_begin_close code reason) fun _ => .done none
  | handlePeerClose frame => exact .bind (.of_handle_peer_close frame) fun _ => .done none
  | fail code reason => exact .bind (.of_fail code reason) fun _ => .done none
  | teardown => exact .bind .of_teardown fun _ => .done none

/-- A connection whose end has not begun, on which nobody acts yet. -/
structure Unended (world : World) : Prop where
  actors : world.actors = []
  phase : world.hub.phase ≠ .closed
  writer : world.hub.hasWriter = true
  announced : world.hub.closedAnnounced = false

/-- What happens in a setting is the routine of a connection, and only the token is
touched from outside. -/
structure Setting.IsUsual (setting : Setting) : Prop where
  begins : ∀ {setup script}, setting.begins setup script → Routine setup script
  drifts : ∀ {hub next : Hub}, setting.drifts hub next → hub.Drift next

theorem operations_usual : operations.IsUsual := ⟨Operates.routine, id⟩

theorem session_usual : session.IsUsual := ⟨Joins.routine, id⟩

theorem Setting.IsUsual.respects (usual : setting.IsUsual) (setup : Setup) :
    setting.Respects (Release.conduct setup.observers.length)
      (fun _ release => release.IsIdle setup.observers.length) setup where
  begins begins actor := (usual.begins begins).follows (Release.suits setup) actor (.inl rfl)
  spawns _ other := (Routine.of_task _).follows (Release.suits setup) other (.inl rfl)
  resumes idle := (Routine.of_task _).follows (Release.suits setup) _ idle

theorem ending_of_run (usual : setting.IsUsual) (unended : start.Unended)
    (run : start.RunIn setting history world) :
    Ending start.setup.observers.length history world.hub := by
  apply run.invariant (Ending start.setup.observers.length) (usual.respects start.setup)
    (obeys_of_empty unended.actors _)
  · exact .inl ⟨fun _ => rfl, rfl, unended.phase, unended.writer, unended.announced⟩
  · exact fun ending drifts => ending.drift (usual.drifts drifts)
  · exact fun ending permitted member => ending.step permitted member

theorem ascends_of_run (usual : setting.IsUsual) (empty : start.actors = [])
    (run : start.RunIn setting history world) :
    start.hub.phase.Ascends (history.flatMap Happening.sights) world.hub.phase := by
  apply run.invariant (fun history hub => start.hub.phase.Ascends (history.flatMap Happening.sights) hub.phase)
    (usual.respects start.setup) (obeys_of_empty empty _)
  · exact Nat.le_refl _
  · intro history hub next ascends drifts
    cases usual.drifts drifts <;> exact ascends
  · intro history hub actor action effect ascends permitted member
    rw [List.flatMap_append, List.flatMap_singleton]
    exact ascends.append (Action.sights_of_effect (Release.onwards_of_permits permitted) member)

/-- The phase goes onwards only. It is closed exactly if somebody has begun the release,
and then the steps of the release so far are those of this one actor, in their order and
each of them once; no observer is told of the end twice. When the actor is done, the
release is complete, and a scheduler that it found has been stopped. Once the end has been
announced, the connection is closed, its token is cancelled and its writer is gone. -/
theorem released_once (unended : start.Unended) (run : start.RunIn operations history world) :
    (start.hub.phase :: history.flatMap Happening.sights ++ [world.hub.phase]).Pairwise (· ≤ ·) ∧
    (world.hub.phase = .closed ↔ history.marks ≠ []) ∧
    (∃ winner,
      history.marks <+: (Release.complete start.setup.observers.length).map (Prod.mk winner) ∧
      (∀ scheduler, ⟨winner, .takeScheduler, some (some scheduler)⟩ ∈ history →
        (winner, .empties) ∈ history.marks →
          ⟨winner, .stopScheduler scheduler, some ()⟩ ∈ history) ∧
      (∀ actor, world.actors[winner]? = some actor → actor.action? = none →
        world.hub.phase = .closed →
          history.marks = (Release.complete start.setup.observers.length).map (Prod.mk winner))) ∧
    (history.marks.map Prod.snd).Nodup ∧
    (world.hub.closedAnnounced = true →
      world.hub.phase = .closed ∧ world.hub.isCancelled = true ∧ world.hub.hasWriter = false) := by
  refine ⟨(ascends_of_run operations_usual unended.actors run).pairwise.1, ?_⟩
  have obeys := run.obeys (operations_usual.respects start.setup) (obeys_of_empty unended.actors _)
  rcases ending_of_run operations_usual unended run with unreleased | ⟨winner, releasing⟩
  · simp [unreleased.unmarked, unreleased.phase, unreleased.announced]
  · have underWay := releasing.fits.underWay
    have begun : history.marks ≠ [] := by
      rw [releasing.marks]
      simpa using Release.marks_nonempty underWay
    have within : history.marks <+: (Release.complete start.setup.observers.length).map (Prod.mk winner) := by
      rw [releasing.marks]
      exact (Release.marks_prefix underWay).map _
    have once : (history.marks.map Prod.snd).Nodup := by
      rw [releasing.marks, List.map_map]
      simpa using (Release.marks_prefix underWay).sublist.nodup (Release.complete_nodup _)
    refine ⟨⟨fun _ => begun, fun _ => releasing.fits.closed⟩, ⟨winner, within, ?_, ?_⟩, once,
      releasing.signals⟩
    · exact fun scheduler takes empties => releasing.stops takes empties
    · intro actor here finished _
      apply releasing.complete
      have follows := obeys.follows winner actor here
      cases doing : actor.script with
      | done result =>
          rw [doing] at follows
          exact follows
      | act action next => simp [Actor.action?, doing] at finished

def attended : World :=
  { setup := { observers := [{}] }
    hub := { phase := .opened, attached := some 0, schedulers := [{}] } }

/-- Somebody begins to close it. While his Close frame waits for the gate, somebody else
tears the connection down, and he himself goes on when that is done. -/
def tornDownMeanwhile : History × World :=
  play [0, 0, 0, 0, 1, 1, 1, 1, 1, 2, 0, 0, 0, 0, 0, 1, 1, 1, 1, 1, 1, 1, 0, 0]
    ([], ((attended.addActor
      ⟨(Connection.beginClose attended.setup (some 1000) "").bind fun _ => .done none, false⟩).addActor
      ⟨(Connection.teardown attended.setup).bind fun _ => .done none, false⟩).addActor
      ⟨(Connection.fail attended.setup 1002 "protocol error").bind fun _ => .done none, false⟩)

theorem run_torn_down_meanwhile :
    attended.RunIn operations tornDownMeanwhile.1 tornDownMeanwhile.2 := by
  apply run_in_of_play
  exact .begin (.begin (.begin .refl (.beginClose (some 1000) "")) .teardown) (.fail 1002 "protocol error")

theorem attended_unended : attended.Unended := ⟨rfl, by decide, rfl, rfl⟩

theorem released_once_meanwhile :
    tornDownMeanwhile.1.flatMap Happening.sights = [.opened, .closing, .closing, .closed] ∧
      (Phase.opened :: tornDownMeanwhile.1.flatMap Happening.sights ++ [Phase.closed]).Pairwise
        (· ≤ ·) ∧
      (∃ winner, tornDownMeanwhile.1.marks <+: (Release.complete 1).map (Prod.mk winner)) ∧
      tornDownMeanwhile.2.hub.closedAnnounced = true ∧
      tornDownMeanwhile.2.hub.isCancelled = true ∧ tornDownMeanwhile.2.hub.hasWriter = false := by
  obtain ⟨onwards, -, ⟨winner, steps, -⟩, -, signals⟩ :=
    released_once attended_unended run_torn_down_meanwhile
  have announced : tornDownMeanwhile.2.hub.closedAnnounced = true := rfl
  obtain ⟨-, cancelled, gone⟩ := signals announced
  exact ⟨rfl, onwards, ⟨winner, steps⟩, announced, cancelled, gone⟩

end World

end WebSocket
