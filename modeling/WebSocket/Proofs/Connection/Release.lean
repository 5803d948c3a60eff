import WebSocket.Proofs.Connection.CloseOnce
import WebSocket.Proofs.Gate.Visits

/-!
The release of what a connection holds. It is done by the one who has moved the
phase to closed, step for step and in one order, and by nobody else. How far it has
come can be read off the actor's own actions.
-/

namespace WebSocket

inductive Mark where
  | closes
  | cancels
  | detaches
  | empties
  | shutsDown
  | announces
  | tells (observer : Nat)
  deriving DecidableEq, Repr

/-- The step that a happening is, and who has taken it. To close the phase counts only
for the one who finds it not closed yet. -/
def Happening.mark? : Happening → Option (Nat × Mark)
  | ⟨actor, .closePhase, some before⟩ => if before = .closed then none else some (actor, .closes)
  | ⟨actor, .cancelToken, some _⟩ => some (actor, .cancels)
  | ⟨actor, .takeScheduler, some _⟩ => some (actor, .detaches)
  | ⟨actor, .takeWriter, some _⟩ => some (actor, .empties)
  | ⟨actor, .shutdown _, some _⟩ => some (actor, .shutsDown)
  | ⟨actor, .announceClosed, some _⟩ => some (actor, .announces)
  | ⟨actor, .tell observer .closed, some _⟩ => some (actor, .tells observer)
  | _ => none

def History.marks (history : History) : List (Nat × Mark) := history.filterMap Happening.mark?

/-- How far an actor has come with the release. -/
inductive Release where
  | idle
  | closed
  | cancelled
  | detached (scheduler : Nat)
  | unscheduled
  | queued
  | entered
  | barred
  | emptied
  | leaving
  | shut
  | announced (told : Nat)
  deriving DecidableEq, Repr

/-- Whether an action may be performed apart from the release. The phase may be moved
onwards, but to closed only by the one who releases. -/
def Action.isOrdinary : Action → Bool
  | cancelToken | takeScheduler | takeWriter | shutdown _ | announceClosed | tell _ .closed => false
  | movePhase source target => decide (source ≤ target) && target != .closed
  | _ => true

namespace Release

def after (release : Release) : (action : Action) → action.Reply → Release
  | .closePhase, before => if before = .closed then release else closed
  | .cancelToken, _ => cancelled
  | .takeScheduler, attached => attached.elim unscheduled detached
  | .stopScheduler _, _ =>
      match release with
      | detached _ => unscheduled
      | other => other
  | .queueForGate _, _ =>
      match release with
      | unscheduled => queued
      | other => other
  | .enterGate, hasWriter =>
      match release with
      | queued => if hasWriter then entered else barred
      | other => other
  | .takeWriter, _ => emptied
  | .leaveGate, _ =>
      match release with
      | barred => shut
      | emptied => leaving
      | other => other
  | .shutdown _, _ => shut
  | .announceClosed, _ => announced 0
  | .tell _ .closed, _ =>
      match release with
      | announced told => announced (told + 1)
      | other => other
  | _, _ => release

/-- What may be done next when there are `count` observers to be told. -/
def permits (count : Nat) : Release → Action → Prop
  | idle, action => action.isOrdinary = true
  | closed, action => action = .cancelToken
  | cancelled, action => action = .takeScheduler
  | detached scheduler, action => action = .stopScheduler scheduler
  | unscheduled, action => action = .queueForGate []
  | queued, action => action = .enterGate
  | entered, action => action = .takeWriter
  | barred, action => action = .leaveGate
  | emptied, action => action = .leaveGate
  | leaving, action => action = .readClock ∨ ∃ deadline, action = .shutdown deadline
  | shut, action => action = .announceClosed
  | announced told, action =>
      if told < count then action = .tell told .closed else action.isOrdinary = true

def conduct (count : Nat) : Conduct Release where
  start := idle
  permits _ release action := release.permits count action
  after := after

def IsIdle (count : Nat) (release : Release) : Prop := release = idle ∨ release = announced count

def marks : Release → List Mark
  | idle => []
  | closed => [.closes]
  | cancelled => [.closes, .cancels]
  | detached _ | unscheduled | queued | entered | barred => [.closes, .cancels, .detaches]
  | emptied | leaving => [.closes, .cancels, .detaches, .empties]
  | shut => [.closes, .cancels, .detaches, .empties, .shutsDown]
  | announced told =>
      [.closes, .cancels, .detaches, .empties, .shutsDown, .announces] ++
        (List.range told).map .tells

/-- All steps of the release, in their order. -/
def complete (count : Nat) : List Mark := (announced count).marks

def hasWriter : Release → Bool
  | emptied | leaving | shut | announced _ => false
  | _ => true

def isAnnounced : Release → Bool
  | announced _ => true
  | _ => false

/-- The release has been begun and has met nobody else who takes the writer. -/
def IsUnderWay (count : Nat) : Release → Prop
  | idle | barred => False
  | announced told => told ≤ count
  | _ => True

theorem marks_prefix {count : Nat} {release : Release} (underWay : release.IsUnderWay count) :
    release.marks <+: complete count := by
  have whole : ∀ some rest : List Mark, some ++ rest = (announced 0).marks →
      some <+: complete count := by
    intro some rest same
    have first : complete count = (announced 0).marks ++ (List.range count).map .tells := by
      simp [complete, marks]
    rw [first, ← same, List.append_assoc]
    exact List.prefix_append _ _
  cases release with
  | announced told =>
      have fewer : List.range told <+: List.range count := by
        obtain ⟨more, rfl⟩ := Nat.exists_eq_add_of_le underWay
        rw [List.range_add]
        exact List.prefix_append _ _
      exact (List.prefix_append_right_inj _).mpr (fewer.map _)
  | idle | barred => exact underWay.elim
  | closed => exact whole _ [.cancels, .detaches, .empties, .shutsDown, .announces] rfl
  | cancelled => exact whole _ [.detaches, .empties, .shutsDown, .announces] rfl
  | emptied => exact whole _ [.shutsDown, .announces] rfl
  | leaving => exact whole _ [.shutsDown, .announces] rfl
  | shut => exact whole _ [.announces] rfl
  | _ => exact whole _ [.empties, .shutsDown, .announces] rfl

theorem marks_nonempty {count : Nat} {release : Release} (underWay : release.IsUnderWay count) :
    release.marks ≠ [] := by
  cases release with
  | idle | barred => exact underWay.elim
  | _ => exact List.cons_ne_nil _ _

theorem closes_of_mem {release : Release} {mark : Mark} (found : mark ∈ release.marks) :
    .closes ∈ release.marks := by
  cases release with
  | idle => cases found
  | _ => simp [marks]

theorem complete_nodup (count : Nat) : (complete count).Nodup := by
  have told : ((List.range count).map Mark.tells).Nodup :=
    List.Pairwise.map _ (fun _ _ other same => other (Mark.tells.inj same)) List.nodup_range
  simp [complete, marks, told]

theorem not_detached_of_empties {release : Release} (empties : .empties ∈ release.marks)
    (scheduler : Nat) : release ≠ detached scheduler := by
  rintro rfl
  simp [marks] at empties

end Release

namespace Script

variable {Result Other Stand : Type}

def All (holds : Action → Prop) : Script Result → Prop
  | done _ => True
  | act action next => holds action ∧ ∀ reply, All holds (next reply)

theorem All.bind {holds : Action → Prop} {script : Script Result} {next : Result → Script Other}
    (first : script.All holds) (rest : ∀ result, (next result).All holds) :
    (script.bind next).All holds := by
  induction script with
  | done result => exact rest result
  | act action goesOn induction => exact ⟨first.1, fun reply => induction reply (first.2 reply)⟩

theorem All.perform {holds : Action → Prop} {action : Action} {next : action.Reply → Script Result}
    (first : holds action) (rest : ∀ reply, (next reply).All holds) :
    (Script.perform action >>= next).All holds := ⟨first, rest⟩

theorem All.ite {holds : Action → Prop} {condition : Prop} [Decidable condition]
    {first second : Script Result} (yes : first.All holds) (no : second.All holds) :
    (if condition then first else second).All holds := by
  split
  · exact yes
  · exact no

theorem All.mono {holds weaker : Action → Prop} (weaken : ∀ action, holds action → weaker action)
    {script : Script Result} (all : script.All holds) : script.All weaker := by
  induction script with
  | done result => exact trivial
  | act action next induction =>
      exact ⟨weaken action all.1, fun reply => induction reply (all.2 reply)⟩

theorem All.follows {holds : Action → Prop} {conduct : Conduct Stand} {actor : Nat} {stand : Stand}
    (permitted : ∀ action, holds action → conduct.permits actor stand action)
    (stays : ∀ action, holds action → ∀ reply, conduct.after stand action reply = stand)
    {script : Script Result} (all : script.All holds) :
    script.Follows conduct actor (fun _ after => after = stand) stand := by
  induction script with
  | done result => exact rfl
  | act action next induction =>
      refine ⟨permitted action all.1, fun reply => ?_⟩
      rw [stays action all.1]
      exact induction reply (all.2 reply)

end Script

def Action.IsTransfer : Action → Prop
  | readClock | write .. | flush _ | sleep .. => True
  | _ => False

def Action.IsSending : Action → Prop
  | drawKey | queueForGate _ | enterGate | readClock | write .. | flush _ | sleep .. | leaveGate
  | tell _ (.frameSent _) => True
  | _ => False

def Action.IsTearing : Action → Prop
  | closePhase | cancelToken | takeScheduler | stopScheduler _ | enterGate | takeWriter | leaveGate
  | readClock | shutdown _ | announceClosed | tell _ .closed => True
  | queueForGate content => content = []
  | _ => False

namespace Gate

open Script

theorem write_all_transfers (deadline : Nat) (bytes : Bytes) (taken : Nat) :
    (writeAll deadline bytes taken).All Action.IsTransfer := by
  induction bytes generalizing taken with
  | nil => exact trivial
  | cons byte rest induction =>
      cases taken with
      | succ taken => exact induction taken
      | zero =>
          refine ⟨trivial, fun result => ?_⟩
          cases result with
          | done count => exact induction (count - 1)
          | failed failure => exact trivial
          | timedOut => exact trivial

theorem then_transfer_transfers {first second : Script Transfer}
    (before : first.All Action.IsTransfer) (behind : second.All Action.IsTransfer) :
    (thenTransfer first second).All Action.IsTransfer := by
  apply before.bind
  intro result
  cases result with
  | done count => exact behind
  | failed failure => exact trivial
  | timedOut => exact trivial

theorem flush_transfers (deadline : Nat) : (flush deadline).All Action.IsTransfer :=
  ⟨trivial, fun _ => trivial⟩

theorem write_slowly_transfers (delay deadline : Nat) (bytes : Bytes) :
    (writeSlowly delay deadline bytes).All Action.IsTransfer := by
  have pauses : (pause delay deadline).All Action.IsTransfer :=
    ⟨trivial, fun _ => ⟨trivial, fun _ => trivial⟩⟩
  induction bytes with
  | nil => exact trivial
  | cons byte rest induction =>
      exact then_transfer_transfers (write_all_transfers deadline [byte] 0)
        (then_transfer_transfers (flush_transfers deadline) (then_transfer_transfers pauses induction))

theorem transfer_all_transfers (slowWrite : Option Nat) (deadline : Nat) (bytes : Bytes) :
    (transferAll slowWrite deadline bytes).All Action.IsTransfer := by
  apply then_transfer_transfers _ (flush_transfers _)
  cases slowWrite with
  | none => exact write_all_transfers _ bytes 0
  | some delay => exact write_slowly_transfers delay _ bytes

theorem send_sends (config : Config) (bytes : Bytes) : (send config bytes).All Action.IsSending := by
  refine ⟨trivial, fun _ => ⟨trivial, fun hasWriter => ?_⟩⟩
  cases hasWriter with
  | false => exact ⟨trivial, fun _ => trivial⟩
  | true =>
      refine ⟨trivial, fun entered => ?_⟩
      have transfers : (transferAll config.slowWrite (entered + config.timeouts.write) bytes).All
          Action.IsSending := by
        apply (transfer_all_transfers _ _ bytes).mono
        intro action transfer
        cases action <;> first | exact trivial | exact transfer.elim
      exact transfers.bind fun _ => ⟨trivial, fun _ => trivial⟩

end Gate

namespace Connection

open Script

theorem notify_tells (setup : Setup) {event : Event} {holds : Action → Prop}
    (tells : ∀ observer, holds (.tell observer event)) : (notify setup event).All holds := by
  unfold notify
  induction List.range setup.observers.length with
  | nil => exact trivial
  | cons index rest induction => exact ⟨tells index, fun _ => induction⟩

theorem transmit_sends (setup : Setup) (frame : Frame) :
    (transmit setup frame).All Action.IsSending := by
  have reports : (notify setup (.frameSent frame)).All Action.IsSending :=
    notify_tells setup fun _ => trivial
  have sends : (Gate.sendFrame setup.config frame).All Action.IsSending :=
    ⟨trivial, fun _ => Gate.send_sends setup.config _⟩
  apply sends.bind
  intro status
  split
  · exact reports.bind fun _ => trivial
  · exact trivial

theorem teardown_tears (setup : Setup) : (teardown setup).All Action.IsTearing := by
  have announces : (act .announceClosed fun _ => notify setup .closed).All Action.IsTearing :=
    ⟨trivial, fun _ => notify_tells setup fun _ => trivial⟩
  have shuts : ((Gate.shutdown setup.config).bind fun _ =>
      act .announceClosed fun _ => notify setup .closed).All Action.IsTearing := by
    refine All.bind ⟨rfl, fun _ => ⟨trivial, fun hasWriter => ?_⟩⟩ fun _ => announces
    cases hasWriter with
    | false => exact ⟨trivial, fun _ => trivial⟩
    | true =>
        exact ⟨trivial, fun _ => ⟨trivial, fun _ => ⟨trivial, fun _ => ⟨trivial, fun _ => trivial⟩⟩⟩⟩
  refine ⟨trivial, fun before => ?_⟩
  change Script.All _ (if before = .closed then _ else _ : Script Unit)
  split
  · exact trivial
  · refine ⟨trivial, fun _ => ⟨trivial, fun attached => ?_⟩⟩
    cases attached with
    | none => exact shuts
    | some scheduler => exact ⟨trivial, fun _ => shuts⟩

end Connection

namespace Release

open Script Connection

variable {setup : Setup} {count actor : Nat} {release : Release} {action : Action}

theorem permits_of_idle (idle : release.IsIdle count) (ordinary : action.isOrdinary = true) :
    release.permits count action := by
  rcases idle with rfl | rfl
  · exact ordinary
  · simpa only [permits, if_neg (Nat.lt_irrefl count)] using ordinary

theorem after_ordinary (idle : release.IsIdle count) (ordinary : action.isOrdinary = true)
    (notClose : action ≠ .closePhase) (reply : action.Reply) : release.after action reply = release := by
  cases action with
  | closePhase => exact absurd rfl notClose
  | cancelToken | takeScheduler | takeWriter | shutdown | announceClosed => cases ordinary
  | tell observer event =>
      cases event with
      | closed => cases ordinary
      | _ => rfl
  | stopScheduler | queueForGate | enterGate | leaveGate => rcases idle with rfl | rfl <;> rfl
  | _ => rfl

theorem ordinary_of_sending (sending : action.IsSending) :
    action.isOrdinary = true ∧ action ≠ .closePhase := by
  cases action with
  | tell observer event =>
      cases event with
      | closed => exact sending.elim
      | _ => exact ⟨rfl, nofun⟩
  | closePhase => exact sending.elim
  | _ => first | exact ⟨rfl, nofun⟩ | exact sending.elim

theorem ordinary_of_aside (isAside : action.isAside = true) :
    action.isOrdinary = true ∧ action ≠ .closePhase := by
  cases action with
  | tell observer event =>
      cases event with
      | closed => cases isAside
      | _ => exact ⟨rfl, nofun⟩
  | closePhase => cases isAside
  | _ => first | exact ⟨rfl, nofun⟩ | cases isAside

theorem follows_transmit (idle : release.IsIdle count) (frame : Frame) :
    (transmit setup frame).Follows (conduct count) actor (fun _ after => after.IsIdle count) release := by
  have permitted : ∀ action : Action, action.IsSending →
      (conduct count).permits actor release action :=
    fun _ sending => permits_of_idle idle (ordinary_of_sending sending).1
  have stays : ∀ action : Action, action.IsSending →
      ∀ reply, (conduct count).after release action reply = release := by
    intro action sending
    obtain ⟨ordinary, notClose⟩ := ordinary_of_sending sending
    exact after_ordinary idle ordinary notClose
  apply ((transmit_sends setup frame).follows permitted stays).mono
  intro _ after same
  exact same ▸ idle

theorem follows_notify_closed :
    (notify setup .closed).Follows (conduct setup.observers.length) actor
      (fun _ after => after = announced setup.observers.length) (announced 0) := by
  have tells : ∀ left told : Nat, told + left = setup.observers.length →
      ((List.range' told left).foldr (fun index rest => act (.tell index .closed) fun _ => rest)
        (.done ())).Follows (conduct setup.observers.length) actor
          (fun _ after => after = announced setup.observers.length) (announced told) := by
    intro left
    induction left with
    | zero => exact fun told same => congrArg announced same
    | succ left induction =>
        intro told same
        have more : told < setup.observers.length := by omega
        exact ⟨(if_pos more).mpr rfl, fun _ => induction (told + 1) (by omega)⟩
  have all := tells setup.observers.length 0 (Nat.zero_add _)
  rw [← List.range_eq_range'] at all
  exact all

theorem follows_shutdown :
    ((Gate.shutdown setup.config).bind fun _ => act .announceClosed fun _ =>
      notify setup .closed).Follows (conduct setup.observers.length) actor
        (fun _ after => after = announced setup.observers.length) unscheduled := by
  refine ⟨rfl, fun _ => ⟨rfl, fun hasWriter => ?_⟩⟩
  cases hasWriter with
  | false => exact ⟨rfl, fun _ => ⟨rfl, fun _ => follows_notify_closed⟩⟩
  | true =>
      refine ⟨rfl, fun _ => ⟨rfl, fun _ => ⟨.inl rfl, fun start => ⟨.inr ⟨_, rfl⟩, fun _ => ?_⟩⟩⟩⟩
      exact ⟨rfl, fun _ => follows_notify_closed⟩

theorem follows_teardown (idle : release.IsIdle setup.observers.length) :
    (teardown setup).Follows (conduct setup.observers.length) actor
      (fun _ after => after.IsIdle setup.observers.length) release := by
  refine ⟨permits_of_idle idle rfl, fun before => ?_⟩
  change (if before = .closed then _ else _ : Script Unit).Follows _ _ _
    (if before = .closed then release else closed)
  split
  · exact idle
  · refine ⟨rfl, fun _ => ⟨rfl, fun attached => ?_⟩⟩
    cases attached with
    | none => exact follows_shutdown.mono fun _ _ => .inr
    | some scheduler => exact ⟨rfl, fun _ => follows_shutdown.mono fun _ _ => .inr⟩

theorem suits (setup : Setup) :
    (conduct setup.observers.length).Suits setup (IsIdle setup.observers.length) where
  start := .inl rfl
  aside isAside idle := by
    obtain ⟨ordinary, notClose⟩ := ordinary_of_aside isAside
    refine ⟨permits_of_idle idle ordinary, fun reply => ?_⟩
    change IsIdle _ (after _ _ reply)
    rwa [after_ordinary idle ordinary notClose reply]
  opens idle := ⟨permits_of_idle idle rfl, fun _ => idle⟩
  sends _ idle := follows_transmit idle _
  claims idle := ⟨permits_of_idle idle rfl, idle⟩
  closes code reason idle := by
    refine ⟨permits_of_idle idle rfl, fun isFirst => ?_⟩
    cases isFirst with
    | true => exact follows_transmit idle _
    | false => exact idle
  tearsDown := follows_teardown

end Release

end WebSocket
