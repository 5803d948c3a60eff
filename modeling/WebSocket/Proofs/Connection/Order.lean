import WebSocket.Proofs.Connection.Runs

/-!
The order of writes. An actor writes only what it has put in the gate's line, and
the gate is passed on in the order of the line, so that frames come onto the wire
in the order in which their senders joined it.
-/

namespace WebSocket

def Duty.content? : Duty → Option Bytes
  | queued content => some content
  | inside content => some content
  | _ => none

/-- All that can change what an actor has to do, with the duty before and behind it. -/
inductive Happening.Changes (actor : Nat) : Happening → Duty → Duty → Prop where
  | look {duty : Duty} : Changes actor ⟨actor, .readPhase, some .opened⟩ duty .checked
  | move {duty : Duty} (source target : Phase) :
      Changes actor ⟨actor, .movePhase source target, some true⟩ duty .owner
  | claim {duty : Duty} : Changes actor ⟨actor, .claimClose, some true⟩ duty .claimant
  | queue {duty : Duty} (content : Bytes) :
      Changes actor ⟨actor, .queueForGate content, some ()⟩ duty (.queued content)
  | enter {happening : Happening} (content : Bytes) :
      Changes actor happening (.queued content) (.inside content)
  | rest {happening : Happening} {duty : Duty} : Changes actor happening duty .free

namespace Happening

variable {happening : Happening} {actor : Nat} {duty : Duty}

theorem changes_of_ne (change : happening.advance actor duty ≠ duty) :
    Changes actor happening duty (happening.advance actor duty) := by
  obtain ⟨other, action, reply⟩ := happening
  by_cases own : other = actor
  · subst own
    cases reply with
    | none => exact absurd (if_pos rfl) change
    | some reply =>
        have advance : advance ⟨other, action, some reply⟩ other duty = duty.after action reply :=
          if_pos rfl
        rw [advance] at change ⊢
        cases action with
        | readPhase =>
            cases reply with
            | opened => exact .look
            | _ => exact .rest
        | movePhase source target =>
            cases reply with
            | true => exact .move source target
            | false => exact absurd rfl change
        | claimClose =>
            cases reply with
            | true => exact .claim
            | false => exact .rest
        | queueForGate content => exact .queue content
        | enterGate =>
            cases duty with
            | queued content => exact .enter content
            | _ => exact absurd rfl change
        | leaveGate => exact .rest
        | _ => exact absurd rfl change
  · exact absurd (if_neg own) change

theorem changes_to {after : Duty} (before : duty ≠ after)
    (change : happening.advance actor duty = after) : Changes actor happening duty after := by
  subst change
  exact changes_of_ne before.symm

theorem of_content {content : Bytes} (before : duty.content? ≠ some content)
    (after : (happening.advance actor duty).content? = some content) :
    happening = ⟨actor, .queueForGate content, some ()⟩ := by
  have change : happening.advance actor duty ≠ duty := by
    intro same
    rw [same] at after
    exact before after
  have changes := changes_of_ne change
  generalize happening.advance actor duty = reached at changes after
  cases changes with
  | queue other =>
      cases after
      rfl
  | enter other => exact absurd after before
  | _ => cases after

end Happening

namespace History

variable {history : History} {actor queue till : Nat} {happening : Happening}

abbrev dutyAt (history : History) (place actor : Nat) : Duty := duty (history.take place) actor

theorem duty_at_succ {place : Nat} (found : history[place]? = some happening) (actor : Nat) :
    history.dutyAt (place + 1) actor = happening.advance actor (history.dutyAt place actor) := by
  rw [dutyAt, List.take_add_one, found]
  exact duty_append _ _ _

theorem since (condition : Duty → Prop) (never : ¬condition .free) (within : till ≤ history.length)
    (now : condition (history.dutyAt till actor)) :
    ∃ place happening, place < till ∧ history[place]? = some happening ∧
      ¬condition (history.dutyAt place actor) ∧
      condition (happening.advance actor (history.dutyAt place actor)) ∧
      ∀ later, place < later → later ≤ till → condition (history.dutyAt later actor) := by
  induction till with
  | zero => exact absurd now never
  | succ till induction =>
      obtain ⟨happening, found⟩ : ∃ happening, history[till]? = some happening :=
        ⟨history[till], List.getElem?_eq_getElem within⟩
      have latest : ∀ later, till < later → later ≤ till + 1 →
          condition (history.dutyAt later actor) := by
        intro later after before
        obtain rfl : later = till + 1 := by omega
        exact now
      by_cases before : condition (history.dutyAt till actor)
      · obtain ⟨place, cause, earlier, here, unlike, change, holds⟩ :=
          induction (Nat.le_of_succ_le within) before
        refine ⟨place, cause, Nat.lt_succ_of_lt earlier, here, unlike, change, ?_⟩
        intro later after bound
        rcases Nat.lt_or_ge till later with last | inner
        · exact latest later last bound
        · exact holds later after inner
      · rw [duty_at_succ found] at now
        exact ⟨till, happening, Nat.lt_succ_self till, found, before, now, latest⟩

/-- Between the two places the actor does not join the gate's line. -/
def IsQuiet (history : History) (actor first last : Nat) : Prop :=
  ∀ between happening, first < between → between < last → history[between]? = some happening →
    happening.isQueuing actor = false

theorem joins_of_is_queuing (joins : happening.isQueuing actor = true) :
    ∃ content, happening = ⟨actor, .queueForGate content, some ()⟩ := by
  obtain ⟨other, action, reply⟩ := happening
  simp only [Happening.isQueuing, Bool.and_eq_true, beq_iff_eq] at joins
  obtain ⟨rfl, joins⟩ := joins
  split at joins
  · rename_i content reply same
    cases same
    exact ⟨content, rfl⟩
  · cases joins

theorem quiet_of_holds (condition : Duty → Prop) (ends : ∀ content, ¬condition (.queued content))
    {place : Nat}
    (holds : ∀ later, place < later → later ≤ till → condition (history.dutyAt later actor)) :
    history.IsQuiet actor place till := by
  intro between happening after before found
  cases joins : happening.isQueuing actor with
  | false => rfl
  | true =>
      obtain ⟨content, rfl⟩ := joins_of_is_queuing joins
      have there := holds (between + 1) (by omega) before
      rw [duty_at_succ found, Happening.advance, if_pos rfl] at there
      exact absurd there (ends content)

theorem place_of_quiet {content : Bytes}
    (joined : history[queue]? = some ⟨actor, .queueForGate content, some ()⟩) (later : queue < till)
    (within : till ≤ history.length) (quiet : history.IsQuiet actor queue till) :
    place (history.take till) actor = queue + 1 := by
  induction till with
  | zero => cases later
  | succ till induction =>
      obtain ⟨last, found⟩ : ∃ last, history[till]? = some last :=
        ⟨history[till], List.getElem?_eq_getElem within⟩
      rw [List.take_add_one, found]
      change place (history.take till ++ [last]) actor = queue + 1
      rw [place_append]
      rcases Nat.lt_succ_iff_lt_or_eq.mp later with later | rfl
      · rw [quiet till last later (Nat.lt_succ_self till) found, if_neg Bool.false_ne_true]
        exact induction later (Nat.le_of_succ_le within) fun between happening after before =>
          quiet between happening after (Nat.lt_succ_of_lt before)
      · obtain rfl := Option.some.inj (joined.symm.trans found)
        rw [if_pos (Happening.is_queuing_own actor content),
          List.length_take_of_le (Nat.le_of_succ_le within)]

theorem queue_unique {other : Nat} {content frame : Bytes}
    (joined : history[queue]? = some ⟨actor, .queueForGate content, some ()⟩)
    (joinedToo : history[other]? = some ⟨actor, .queueForGate frame, some ()⟩)
    (earlier : queue < till) (earlierToo : other < till) (quiet : history.IsQuiet actor queue till)
    (quietToo : history.IsQuiet actor other till) : queue = other := by
  have joins := Happening.is_queuing_own actor
  rcases Nat.lt_trichotomy queue other with behind | same | behind
  · exact absurd ((joins frame).symm.trans (quiet other _ behind earlierToo joinedToo)) (by decide)
  · exact same
  · exact absurd ((joins content).symm.trans (quietToo queue _ behind earlier joined)) (by decide)

end History

/-- A write of an actor, and where the actor had put the written frame in line. -/
structure History.Writes (history : History) (place actor queue : Nat) (content : Bytes) : Prop where
  write : ∃ bytes deadline reply, history[place]? = some ⟨actor, .write bytes deadline, reply⟩ ∧
    bytes ≠ [] ∧ bytes <:+: content
  joined : history[queue]? = some ⟨actor, .queueForGate content, some ()⟩
  earlier : queue < place
  quiet : history.IsQuiet actor queue place

theorem History.Writes.queue_eq {history : History} {place actor other queue late : Nat}
    {content frame : Bytes} (writes : history.Writes place actor queue content)
    (writesToo : history.Writes place other late frame) : queue = late := by
  obtain ⟨_, _, _, found, -⟩ := writes.write
  obtain ⟨_, _, _, foundToo, -⟩ := writesToo.write
  cases found.symm.trans foundToo
  exact queue_unique writes.joined writesToo.joined writes.earlier writesToo.earlier writes.quiet
    writesToo.quiet

namespace World.Run

variable {start world : World} {history : History} {actor place queue till : Nat} {content : Bytes}

theorem joined (fresh : start.Fresh) (run : start.Run history world) (within : till ≤ history.length)
    (stands : (history.dutyAt till actor).content? = some content) :
    ∃ queue, queue < till ∧ history[queue]? = some ⟨actor, .queueForGate content, some ()⟩ ∧
      history.IsQuiet actor queue till ∧
      ∀ later, queue < later → later ≤ till →
        (history.dutyAt later actor).content? = some content := by
  obtain ⟨queue, cause, earlier, found, unlike, change, holds⟩ :=
    History.since (fun duty => duty.content? = some content) nofun within stands
  obtain rfl := Happening.of_content unlike change
  refine ⟨queue, earlier, found, fun between happening after before there => ?_, holds⟩
  cases joins : happening.isQueuing actor with
  | false => rfl
  | true =>
      -- nobody may join the line who stands at the gate already
      obtain ⟨other, rfl⟩ := History.joins_of_is_queuing joins
      have permitted : (history.dutyAt between actor).mayQueue other := run.permitted fresh there
      have standing := holds between after (Nat.le_of_lt before)
      cases duty : history.dutyAt between actor with
      | queued content => exact (duty ▸ permitted).elim
      | inside content => exact (duty ▸ permitted).elim
      | _ => rw [duty] at standing; cases standing

theorem stands_of_writes (fresh : start.Fresh) (run : start.Run history world)
    (writes : history.Writes place actor queue content) :
    history.dutyAt place actor = .inside content ∧
      ∀ later, queue < later → later ≤ place →
        (history.dutyAt later actor).content? = some content := by
  obtain ⟨⟨bytes, deadline, reply, found, -, -⟩, here, earlier, quiet⟩ := writes
  obtain ⟨-, other, inside, -⟩ := run.permitted fresh found
  have within : place ≤ history.length := Nat.le_of_lt (List.getElem?_eq_some_iff.mp found).1
  have stands : (history.dutyAt place actor).content? = some other := congrArg Duty.content? inside
  obtain ⟨same, before, joined, quietToo, holds⟩ := run.joined fresh within stands
  obtain rfl := History.queue_unique here joined earlier before quiet quietToo
  obtain rfl : content = other := by
    have equal := here.symm.trans joined
    cases equal
    rfl
  exact ⟨inside, holds⟩

theorem writes_of_write (fresh : start.Fresh) (run : start.Run history world) {bytes : Bytes}
    {deadline : Nat} {reply : Option Transfer}
    (found : history[place]? = some ⟨actor, .write bytes deadline, reply⟩) :
    ∃ queue content, history.Writes place actor queue content := by
  obtain ⟨nonempty, content, inside, part⟩ := run.permitted fresh found
  have within : place ≤ history.length := Nat.le_of_lt (List.getElem?_eq_some_iff.mp found).1
  have stands : (history.dutyAt place actor).content? = some content := congrArg Duty.content? inside
  obtain ⟨queue, earlier, joined, quiet, -⟩ := run.joined fresh within stands
  exact ⟨queue, content, ⟨⟨bytes, deadline, reply, found, nonempty, part⟩, joined, earlier, quiet⟩⟩

/-- Frames are written in the order in which they were put in line. -/
theorem in_order (fresh : start.Fresh) (run : start.Run history world)
    {first second sender other early late : Nat} {content frame : Bytes}
    (writes : history.Writes first sender early content)
    (writesToo : history.Writes second other late frame) (before : first < second) :
    early ≤ late := by
  apply Nat.le_of_not_lt
  intro passed
  obtain ⟨bytes, deadline, reply, found, -⟩ := writes.write
  obtain ⟨world, -, -, -, earlier, -⟩ := run.at found
  have within : first ≤ history.length := Nat.le_of_lt (List.getElem?_eq_some_iff.mp found).1
  have kept := (orderly_of_run fresh earlier).agreed.gate
  have lateFirst : late < first := Nat.lt_trans passed writes.earlier
  have holder := (kept.holder sender).mpr (congrArg Duty.isInside (run.stands_of_writes fresh writes).1)
  have place := History.place_of_quiet writes.joined writes.earlier within writes.quiet
  have quiet : history.IsQuiet other late first := fun between happening after still =>
    writesToo.quiet between happening after (Nat.lt_trans still before)
  have placeToo := History.place_of_quiet writesToo.joined lateFirst within quiet
  have stands := (run.stands_of_writes fresh writesToo).2 first lateFirst (Nat.le_of_lt before)
  cases duty : history.dutyAt first other with
  | inside content =>
      -- the gate has one holder, who has joined the line last in one place
      have both := (kept.holder other).mpr (congrArg Duty.isInside duty)
      obtain rfl := Option.some.inj (holder.symm.trans both)
      omega
  | queued content =>
      have waits := (kept.line other).mpr (congrArg Duty.isQueued duty)
      have ordered := kept.ordered
      rw [holder] at ordered
      have behind := (List.pairwise_cons.mp ordered).1 other waits
      omega
  | _ =>
      rw [duty] at stands
      cases stands

end World.Run

end WebSocket
