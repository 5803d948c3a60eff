import WebSocket.Proofs.Connection.Release

/-!
What the gate tells those who pass it. A sender learns the status of its passage when it leaves, and
the gate's answer to it is just that. Whoever takes the writer away is told nothing. Beside the
verdicts it is kept in mind whether the actor itself has moved or closed the phase.
-/

namespace WebSocket

variable {Result Other : Type}

/-- The statuses that an actor was told, and what it has done to the phase. -/
structure Record where
  verdicts : List SendStatus := []
  hasMoved : Bool := false
  hasClosed : Bool := false
  deriving DecidableEq, Repr

namespace Record

def told (record : Record) (status : SendStatus) : Record :=
  { record with verdicts := record.verdicts ++ [status] }

def ended (record : Record) : Record := { record with hasMoved := true, hasClosed := true }

end Record

/-- The record, and the passage that the actor is in or was in last. -/
structure Dealings where
  passage : Option Passage := none
  record : Record := {}

namespace Dealings

def verdict? : Option Passage → Option SendStatus
  | some passage => if passage.content = [] then none else some passage.status
  | none => none

def after (dealings : Dealings) : (action : Action) → action.Reply → Dealings
  | .queueForGate content, _ => { dealings with passage := some { content } }
  | .leaveGate, _ =>
      { passage := dealings.passage.map fun passage => passage.after .leaveGate ()
        record := { dealings.record with
          verdicts := dealings.record.verdicts ++ (verdict? dealings.passage).toList } }
  | .movePhase _ _, isMoved =>
      { dealings with
        record := { dealings.record with hasMoved := dealings.record.hasMoved || isMoved } }
  | .closePhase, _ => { dealings with record := dealings.record.ended }
  | action, reply =>
      { dealings with passage := dealings.passage.map fun passage => passage.after action reply }

def conduct : Conduct Dealings where
  start := {}
  permits _ _ _ := True
  after := after

theorem verdicts_after (dealings : Dealings) (action : Action) (reply : action.Reply) :
    dealings.record.verdicts <+: (dealings.after action reply).record.verdicts := by
  cases action with
  | leaveGate => exact List.prefix_append _ _
  | _ => exact List.prefix_rfl

end Dealings

namespace Happening

/-- The happening does nothing to the phase, wherever it may take place. -/
def LeavesPhase (happening : Happening) : Prop :=
  ∀ (setup : Setup) (hub : Hub) (effect : Effect happening.action.Reply),
    effect ∈ happening.action.effects setup happening.actor hub → effect.reply = happening.reply →
      effect.hub.phase = hub.phase

def movesPhase : Happening → Bool
  | ⟨_, .closePhase, some _⟩ => true
  | ⟨_, .movePhase _ _, some isMoved⟩ => isMoved
  | _ => false

theorem leaves_phase_of_unmoved {actor : Nat} {action : Action} {reply : Option action.Reply}
    (unmoved : movesPhase ⟨actor, action, reply⟩ = false) : LeavesPhase ⟨actor, action, reply⟩ := by
  intro setup hub effect member told
  have same : movesPhase ⟨actor, action, effect.reply⟩ = false :=
    (congrArg (fun reply => movesPhase ⟨actor, action, reply⟩) told).trans unmoved
  rcases Action.phase_of_effect member with still | ⟨closes, -⟩ | ⟨source, target, moved, -, -⟩
  · exact still
  · subst closes
    obtain rfl := List.mem_singleton.mp member
    cases same
  · exact absurd (congrArg movesPhase moved) (same ▸ Bool.false_ne_true)

end Happening

namespace History

open Dealings

variable {history : History} {actor : Nat}

/-- The statuses that the gate has told an actor. -/
def verdicts (history : History) (actor : Nat) : List SendStatus :=
  (history.stand conduct actor).record.verdicts

theorem verdicts_append (history more : History) (actor : Nat) :
    history.verdicts actor <+: History.verdicts (history ++ more) actor := by
  induction more using List.reverseRecOn with
  | nil => exact (List.append_nil history).symm ▸ List.prefix_rfl
  | append_singleton more happening induction =>
      apply induction.trans
      unfold verdicts
      rw [← List.append_assoc, stand_append, Conduct.advance]
      split
      · cases happening.reply with
        | none => exact List.prefix_rfl
        | some reply => exact verdicts_after _ _ reply
      · exact List.prefix_rfl

theorem closed_after (dealings : Dealings) (action : Action) (reply : action.Reply)
    (closed : (dealings.after action reply).record.hasClosed = true) :
    dealings.record.hasClosed = true ∨ action = .closePhase := by
  cases action with
  | closePhase => exact .inr rfl
  | _ => exact .inl closed

theorem moved_after (dealings : Dealings) (actor : Nat) (action : Action) (reply : action.Reply) :
    (dealings.after action reply).record.hasMoved =
      (dealings.record.hasMoved || Happening.movesPhase ⟨actor, action, some reply⟩) := by
  cases action with
  | closePhase => exact (Bool.or_true _).symm
  | movePhase source target => rfl
  | _ => exact (Bool.or_false _).symm

theorem closes_of_record (closed : (history.stand conduct actor).record.hasClosed = true) :
    ∃ before, ⟨actor, .closePhase, some before⟩ ∈ history := by
  revert closed
  refine stand_induction (motive := fun history (dealings : Dealings) =>
    dealings.record.hasClosed = true → ∃ before, ⟨actor, .closePhase, some before⟩ ∈ history)
    ?_ ?_ ?_ history
  · intro closed
    cases closed
  · intro history action reply earlier closed
    rcases closed_after _ action reply closed with before | rfl
    · obtain ⟨seen, found⟩ := earlier before
      exact ⟨seen, List.mem_append_left _ found⟩
    · exact ⟨reply, List.mem_append_right _ List.mem_cons_self⟩
  · intro history happening _ earlier closed
    obtain ⟨seen, found⟩ := earlier closed
    exact ⟨seen, List.mem_append_left _ found⟩

theorem leaves_phase_of_record (unmoved : (history.stand conduct actor).record.hasMoved = false) :
    ∀ happening ∈ history, happening.actor = actor → happening.LeavesPhase := by
  revert unmoved
  refine stand_induction (motive := fun history (dealings : Dealings) =>
    dealings.record.hasMoved = false →
      ∀ happening ∈ history, happening.actor = actor → happening.LeavesPhase) ?_ ?_ ?_ history
  · exact fun _ _ absent => absurd absent List.not_mem_nil
  · intro history action reply earlier unmoved happening member own
    obtain ⟨before, still⟩ :=
      Bool.or_eq_false_iff.mp ((moved_after _ actor action reply).symm.trans unmoved)
    rcases List.mem_append.mp member with old | new
    · exact earlier before happening old own
    · obtain rfl := List.mem_singleton.mp new
      exact Happening.leaves_phase_of_unmoved still
  · intro history newest idle earlier unmoved happening member own
    rcases List.mem_append.mp member with old | new
    · exact earlier unmoved happening old own
    · obtain rfl := List.mem_singleton.mp new
      obtain ⟨doer, action, reply⟩ := happening
      obtain rfl : reply = none := idle own
      exact Happening.leaves_phase_of_unmoved (by cases action <;> rfl)

end History

def Action.isApart : Action → Bool
  | leaveGate | movePhase .. | closePhase => false
  | _ => true

namespace Script

open Dealings

variable {script : Script Result} {ends weaker : Result → Record → Prop} {record : Record}

/-- Whatever the actor is answered, `ends` holds of the result and of the record at the end. -/
def Records (script : Script Result) (ends : Result → Record → Prop) (record : Record) : Prop :=
  ∀ actor passage, script.Follows conduct actor
    (fun result (after : Dealings) => ends result after.record) ⟨passage, record⟩

namespace Records

theorem mono (weaken : ∀ result after, ends result after → weaker result after)
    (records : script.Records ends record) : script.Records weaker record :=
  fun actor passage => (records actor passage).mono fun result (after : Dealings) =>
    weaken result after.record

theorem bind {last : Other → Record → Prop} {next : Result → Script Other}
    (records : script.Records ends record)
    (goesOn : ∀ result after, ends result after → (next result).Records last after) :
    (script.bind next).Records last record :=
  fun actor passage => (records actor passage).bind fun result (after : Dealings) ended =>
    goesOn result after.record ended actor after.passage

theorem done {result : Result} (ended : ends result record) : (Script.done result).Records ends record :=
  fun _ _ => ended

theorem perform {action : Action} {next : action.Reply → Script Result} (apart : action.isApart = true)
    (goesOn : ∀ reply, (next reply).Records ends record) :
    (Script.perform action >>= next).Records ends record := by
  refine fun actor passage => ⟨trivial, fun reply => ?_⟩
  have same : conduct.after ⟨passage, record⟩ action reply =
      ⟨(after ⟨passage, record⟩ action reply).passage, record⟩ := by
    cases action <;> first | rfl | cases apart
  rw [same]
  exact goesOn reply actor _

theorem move {source target : Phase} {next : Bool → Script Result}
    (goesOn : ∀ isMoved, (next isMoved).Records ends
      { record with hasMoved := record.hasMoved || isMoved }) :
    (Script.perform (.movePhase source target) >>= next).Records ends record :=
  fun actor passage => ⟨trivial, fun isMoved => goesOn isMoved actor passage⟩

theorem close {next : Phase → Script Result}
    (goesOn : ∀ before, (next before).Records ends record.ended) :
    (Script.perform .closePhase >>= next).Records ends record :=
  fun actor passage => ⟨trivial, fun before => goesOn before actor passage⟩

theorem ite {condition : Prop} [Decidable condition] {first second : Script Result}
    (yes : condition → first.Records ends record) (no : ¬condition → second.Records ends record) :
    (if condition then first else second).Records ends record := by
  split
  · exact yes ‹_›
  · exact no ‹_›

theorem of_apart (apart : script.All fun action => action.isApart = true) :
    script.Records (fun _ after => after = record) record := by
  induction script with
  | done result => exact done rfl
  | act action next induction => exact perform apart.1 fun reply => induction reply (apart.2 reply)

theorem grows (script : Script Result) (record : Record) :
    script.Records (fun _ (after : Record) => record.verdicts <+: after.verdicts) record := by
  intro actor passage
  induction script generalizing passage record with
  | done result => exact List.prefix_rfl
  | act action next induction =>
      refine ⟨trivial, fun reply => ?_⟩
      apply (induction reply (after ⟨passage, record⟩ action reply).record _).mono
      exact fun _ _ kept => (verdicts_after ⟨passage, record⟩ action reply).trans kept

end Records

end Script

namespace Dealings

open Script

theorem follows_of_transfer {ends : Result → Option Passage → Prop} {script : Script Result}
    {also : Nat → Option Passage → Action → Prop} {actor : Nat} {passage : Option Passage}
    (record : Record) (transfers : script.All Action.IsTransfer)
    (follows : script.Follows (Passage.conduct also) actor ends passage) :
    script.Follows conduct actor
      (fun result after => ends result after.passage ∧ after.record = record) ⟨passage, record⟩ := by
  induction script generalizing passage with
  | done result => exact ⟨follows, rfl⟩
  | act action next induction =>
      refine ⟨trivial, fun reply => ?_⟩
      have same : conduct.after ⟨passage, record⟩ action reply =
          ⟨(Passage.conduct also).after passage action reply, record⟩ := by
        cases action <;> first | rfl | exact transfers.1.elim
      rw [same]
      exact induction reply (transfers.2 reply) (follows.2 reply)

end Dealings

namespace Gate

open Script Dealings

variable {record : Record}

theorem send_records (config : Config) {content : Bytes} (nonempty : content ≠ []) :
    (send config content).Records (fun status after => after = record.told status) record := by
  refine fun actor passage => ⟨trivial, fun _ => ⟨trivial, fun hasWriter => ?_⟩⟩
  have told (status : SendStatus) : (if content = [] then none else some status).toList = [status] := by
    rw [if_neg nonempty]
    rfl
  cases hasWriter with
  | false =>
      refine ⟨trivial, fun _ => ?_⟩
      exact congrArg (fun more => { record with verdicts := record.verdicts ++ more }) (told .fatalError)
  | true =>
      refine ⟨trivial, fun entered => ?_⟩
      have carries : (transferAll config.slowWrite (entered + config.timeouts.write) content).Follows
          (Passage.conduct fun _ _ _ => True) actor (Passage.Carries content content)
          (some ⟨content, [], .inside, .success⟩) := Passage.follows_transfer_all _ _
      have transfers := follows_of_transfer record (transfer_all_transfers _ _ content) carries
      apply transfers.bind
      rintro result ⟨_, kept⟩ ⟨⟨written, rfl, -⟩, rfl⟩
      refine ⟨trivial, fun _ => ?_⟩
      exact congrArg (fun more => { kept with verdicts := kept.verdicts ++ more })
        (told result.status)

theorem shutdown_records (config : Config) :
    (shutdown config).Records (fun _ after => after = record) record := by
  have same : { record with verdicts := record.verdicts ++ [] } = record := by rw [List.append_nil]
  refine fun actor passage => ⟨trivial, fun _ => ⟨trivial, fun hasWriter => ?_⟩⟩
  cases hasWriter with
  | false => exact ⟨trivial, fun _ => same⟩
  | true => exact ⟨trivial, fun _ => ⟨trivial, fun _ => ⟨trivial, fun _ => ⟨trivial, fun _ => same⟩⟩⟩⟩

end Gate

namespace Connection

open Script

variable {record : Record}

theorem transmit_records (setup : Setup) (frame : Frame) :
    (transmit setup frame).Records (fun status after => after = record.told status) record := by
  have sends : (Gate.sendFrame setup.config frame).Records
      (fun status after => after = record.told status) record :=
    .perform rfl fun _ => Gate.send_records setup.config (Frame.serialize_nonempty frame _)
  apply sends.bind
  rintro status _ rfl
  split
  · exact (Records.of_apart (notify_tells setup fun _ => rfl)).bind fun _ _ same => .done same
  · exact .done rfl

theorem teardown_records (setup : Setup) :
    (teardown setup).Records (fun _ after => after = record.ended) record := by
  have announces : (act .announceClosed fun _ => notify setup .closed).Records
      (fun _ after => after = record.ended) record.ended :=
    .perform rfl fun _ => Records.of_apart (notify_tells setup fun _ => rfl)
  have shuts : ((Gate.shutdown setup.config).bind fun _ =>
      act .announceClosed fun _ => notify setup .closed).Records
      (fun _ after => after = record.ended) record.ended := by
    apply (Gate.shutdown_records setup.config).bind
    rintro _ _ rfl
    exact announces
  refine Records.close fun before => .ite (fun _ => .done rfl) fun _ => ?_
  refine Records.perform rfl fun _ => Records.perform rfl fun attached => ?_
  cases attached with
  | none => exact shuts
  | some scheduler => exact Records.perform rfl fun _ => shuts

end Connection

end WebSocket
