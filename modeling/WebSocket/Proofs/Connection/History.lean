import WebSocket.Proofs.Connection.Duty

/-!
Runs of any number of actors, with a history of all that happens in them. From
the history alone one can say what each actor has to do next and when it last
took its place in the gate's line.
-/

namespace WebSocket

/-- One action of an actor, with its answer if it was given one. -/
structure Happening where
  actor : Nat
  action : Action
  reply : Option action.Reply

abbrev History := List Happening

/-- How much of the offered bytes a transfer has taken. -/
def Transfer.taken (bytes : Bytes) : Transfer → Bytes
  | done count => bytes.take count
  | _ => []

namespace Happening

def advance (happening : Happening) (actor : Nat) (duty : Duty) : Duty :=
  if happening.actor = actor then
    match happening.reply with
    | some reply => duty.after happening.action reply
    | none => duty
  else duty

def isQueuing (happening : Happening) (actor : Nat) : Bool :=
  happening.actor == actor &&
    match happening with
    | ⟨_, .queueForGate _, some _⟩ => true
    | _ => false

theorem is_queuing_own (actor : Nat) (content : Bytes) :
    isQueuing ⟨actor, .queueForGate content, some ()⟩ actor = true :=
  Bool.and_eq_true_iff.mpr ⟨beq_self_eq_true actor, rfl⟩

/-- The actor moves the connection from open to closing. -/
def IsMove (happening : Happening) : Prop :=
  ∃ actor, happening = ⟨actor, .movePhase .opened .closing, some true⟩

def IsClaim (happening : Happening) : Prop := ∃ actor, happening = ⟨actor, .claimClose, some true⟩

theorem not_move {actor : Nat} {action : Action} {reply : Option action.Reply}
    (other : ∀ source target, action ≠ .movePhase source target) : ¬IsMove ⟨actor, action, reply⟩ := by
  rintro ⟨mover, same⟩
  cases same
  exact other .opened .closing rfl

theorem not_claim {actor : Nat} {action : Action} {reply : Option action.Reply}
    (other : action ≠ .claimClose) : ¬IsClaim ⟨actor, action, reply⟩ := by
  rintro ⟨claimer, same⟩
  cases same
  exact other rfl

/-- The bytes that a write has brought onto the wire. -/
def wrote : Happening → Bytes
  | ⟨_, .write bytes _, some result⟩ => result.taken bytes
  | _ => []

end Happening

namespace History

/-- What the actor's own actions oblige it to. -/
def duty (history : History) (actor : Nat) : Duty :=
  history.foldl (fun duty happening => happening.advance actor duty) .free

/-- One more than the number of the happening in which the actor last took its
place in the gate's line. -/
def place (history : History) (actor : Nat) : Nat :=
  history.length - history.reverse.findIdx (·.isQueuing actor)

theorem of_append {history : History} {newest happening : Happening} {place : Nat}
    (found : (history ++ [newest])[place]? = some happening) :
    place < history.length ∧ history[place]? = some happening ∨
      place = history.length ∧ happening = newest := by
  rw [List.getElem?_append] at found
  split at found
  · rename_i earlier
    exact .inl ⟨earlier, found⟩
  · rename_i late
    have last := (List.getElem?_eq_some_iff.mp found).1
    rw [List.length_singleton] at last
    have here : place = history.length := by omega
    subst here
    rw [Nat.sub_self] at found
    exact .inr ⟨rfl, (Option.some.inj found).symm⟩

theorem of_take {history : History} {place till : Nat} {happening : Happening}
    (found : (history.take till)[place]? = some happening) :
    place < till ∧ history[place]? = some happening := by
  rw [List.getElem?_take] at found
  split at found
  · rename_i earlier
    exact ⟨earlier, found⟩
  · cases found

/-- What an actor does behind a place of the history. -/
def behind (history : History) (place actor : Nat) : History :=
  (history.drop (place + 1)).filter (·.actor == actor)

theorem behind_append {history : History} {place : Nat} (within : place < history.length)
    (newest : Happening) (actor : Nat) :
    behind (history ++ [newest]) place actor =
      history.behind place actor ++ if newest.actor = actor then [newest] else [] := by
  unfold behind
  rw [List.drop_append_of_le_length within, List.filter_append]
  by_cases own : newest.actor = actor <;> simp [own]

theorem behind_newest (history : History) (newest : Happening) (actor : Nat) :
    behind (history ++ [newest]) history.length actor = [] := by
  simp [behind]

theorem duty_append (history : History) (happening : Happening) (actor : Nat) :
    duty (history ++ [happening]) actor = happening.advance actor (history.duty actor) := by
  rw [duty, List.foldl_append]
  rfl

theorem duty_other {history : History} {happening : Happening} {actor : Nat}
    (other : happening.actor ≠ actor) : duty (history ++ [happening]) actor = history.duty actor := by
  rw [duty_append, Happening.advance, if_neg other]

theorem duty_own (history : History) (actor : Nat) (action : Action) (reply : action.Reply) :
    duty (history ++ [⟨actor, action, some reply⟩]) actor = (history.duty actor).after action reply := by
  rw [duty_append, Happening.advance, if_pos rfl]

theorem place_append (history : History) (happening : Happening) (actor : Nat) :
    place (history ++ [happening]) actor =
      if happening.isQueuing actor then history.length + 1 else history.place actor := by
  rw [place, place, List.reverse_append, List.length_append]
  simp only [List.reverse_cons, List.reverse_nil, List.nil_append, List.singleton_append,
    List.findIdx_cons, List.length_singleton]
  cases happening.isQueuing actor with
  | true => simp
  | false =>
      simp only [cond_false, Bool.false_eq_true, if_false]
      omega

theorem place_le (history : History) (actor : Nat) : history.place actor ≤ history.length :=
  Nat.sub_le _ _

end History

namespace Duty

def isQueued : Duty → Bool
  | queued _ => true
  | _ => false

def isInside : Duty → Bool
  | inside _ => true
  | _ => false

theorem not_at_gate_of_idle {duty : Duty} (idle : duty.IsIdle) :
    duty.isQueued = false ∧ duty.isInside = false := by
  cases duty with
  | free => exact ⟨rfl, rfl⟩
  | checked => exact ⟨rfl, rfl⟩
  | _ => exact idle.elim

theorem not_at_gate_of_may_queue {duty : Duty} {content : Bytes} (mayQueue : duty.mayQueue content) :
    duty.isQueued = false ∧ duty.isInside = false := by
  cases duty with
  | queued content => exact mayQueue.elim
  | inside content => exact mayQueue.elim
  | _ => exact ⟨rfl, rfl⟩

end Duty

/-- The gate holds whom their own actions say to be inside and in line, and the
line is in the order in which they took their places. -/
structure GateKept (history : History) (gate : Lock) : Prop where
  holder : ∀ actor, gate.holder = some actor ↔ (history.duty actor).isInside = true
  line : ∀ actor, actor ∈ gate.line ↔ (history.duty actor).isQueued = true
  ordered : (gate.holder.toList ++ gate.line).Pairwise fun first second =>
    history.place first < history.place second

namespace GateKept

variable {history : History} {gate : Lock} {actor : Nat}

theorem same (kept : GateKept history gate) (happening : Happening)
    (elsewhere : ∀ actor, happening.isQueuing actor = false)
    (queued : (happening.advance happening.actor (history.duty happening.actor)).isQueued =
      (history.duty happening.actor).isQueued)
    (inside : (happening.advance happening.actor (history.duty happening.actor)).isInside =
      (history.duty happening.actor).isInside) :
    GateKept (history ++ [happening]) gate := by
  have places : ∀ actor, History.place (history ++ [happening]) actor = history.place actor := by
    intro actor
    rw [History.place_append, elsewhere, if_neg Bool.false_ne_true]
  refine ⟨fun actor => ?_, fun actor => ?_, ?_⟩
  · rw [kept.holder]
    by_cases own : happening.actor = actor
    · subst own
      rw [History.duty_append, inside]
    · rw [History.duty_other own]
  · rw [kept.line]
    by_cases own : happening.actor = actor
    · subst own
      rw [History.duty_append, queued]
    · rw [History.duty_other own]
  · exact kept.ordered.imp fun before => by rwa [places, places]

theorem away (kept : GateKept history gate) {action : Action} {reply : action.Reply}
    (elsewhere : ∀ content, action ≠ .queueForGate content)
    (before : (history.duty actor).isQueued = false ∧ (history.duty actor).isInside = false)
    (after : ((history.duty actor).after action reply).isQueued = false ∧
      ((history.duty actor).after action reply).isInside = false) :
    GateKept (history ++ [⟨actor, action, some reply⟩]) gate := by
  have advance : Happening.advance ⟨actor, action, some reply⟩ actor (history.duty actor) =
      (history.duty actor).after action reply := if_pos rfl
  refine kept.same _ (fun other => ?_) (by rw [advance, after.1, before.1])
    (by rw [advance, after.2, before.2])
  cases action with
  | queueForGate content => exact absurd rfl (elsewhere content)
  | _ => exact Bool.and_false _

theorem join (kept : GateKept history gate) (content : Bytes)
    (away : (history.duty actor).isQueued = false ∧ (history.duty actor).isInside = false) :
    GateKept (history ++ [⟨actor, .queueForGate content, some ()⟩]) (gate.join actor) := by
  have own := History.duty_own history actor (.queueForGate content) ()
  have waiting : ∀ other ∈ gate.holder.toList ++ gate.line, actor ≠ other := by
    rintro other member rfl
    rcases List.mem_append.mp member with inside | queued
    · rw [(kept.holder actor).mp (Option.mem_toList.mp inside)] at away
      exact absurd away.2 (by decide)
    · rw [(kept.line actor).mp queued] at away
      exact absurd away.1 (by decide)
  have others : ∀ other ∈ gate.holder.toList ++ gate.line,
      History.place (history ++ [⟨actor, .queueForGate content, some ()⟩]) other =
        history.place other := by
    intro other member
    have elsewhere : Happening.isQueuing ⟨actor, .queueForGate content, some ()⟩ other = false := by
      simp [Happening.isQueuing, waiting other member]
    rw [History.place_append, elsewhere, if_neg Bool.false_ne_true]
  have last : History.place (history ++ [⟨actor, .queueForGate content, some ()⟩]) actor =
      history.length + 1 := by
    rw [History.place_append, if_pos (Happening.is_queuing_own actor content)]
  refine ⟨fun other => ?_, fun other => ?_, ?_⟩
  · rw [Lock.join, kept.holder]
    by_cases same : actor = other
    · subst same
      rw [own, away.2]
      exact ⟨nofun, nofun⟩
    · rw [History.duty_other same]
  · rw [Lock.join, List.mem_append, List.mem_singleton, kept.line]
    by_cases same : actor = other
    · subst same
      rw [own]
      exact ⟨fun _ => rfl, fun _ => .inr rfl⟩
    · rw [History.duty_other same]
      exact ⟨fun either => either.resolve_right (same ·.symm), .inl⟩
  · rw [Lock.join, ← List.append_assoc, List.pairwise_append]
    refine ⟨?_, List.pairwise_singleton _ _, fun other member newcomer joined => ?_⟩
    · refine kept.ordered.imp_of_mem fun first second before => ?_
      rwa [others _ first, others _ second]
    · obtain rfl := List.mem_singleton.mp joined
      rw [others other member, last]
      exact Nat.lt_succ_of_le (history.place_le other)

theorem enter (kept : GateKept history gate) (hasWriter : Bool) (turn : gate.canEnter actor = true) :
    GateKept (history ++ [⟨actor, .enterGate, some hasWriter⟩]) (gate.enter actor) := by
  obtain ⟨holder, line⟩ := gate
  simp only [Lock.canEnter, Bool.and_eq_true, Option.isNone_iff_eq_none, beq_iff_eq] at turn
  obtain ⟨rfl, first⟩ := turn
  obtain ⟨rest, rfl⟩ := List.head?_eq_some_iff.mp first
  have queued : (history.duty actor).isQueued = true :=
    (kept.line actor).mp List.mem_cons_self
  obtain ⟨content, duty⟩ : ∃ content, history.duty actor = .queued content := by
    cases duty : history.duty actor with
    | queued content => exact ⟨content, rfl⟩
    | _ =>
        rw [duty] at queued
        cases queued
  have own := History.duty_own history actor .enterGate hasWriter
  rw [duty] at own
  have places : ∀ other, History.place (history ++ [⟨actor, .enterGate, some hasWriter⟩]) other =
      history.place other := by
    intro other
    rw [History.place_append, if_neg (by simp [Happening.isQueuing])]
  have behind : ∀ other ∈ rest, history.place actor < history.place other :=
    (List.pairwise_cons.mp kept.ordered).1
  refine ⟨fun other => ?_, fun other => ?_, ?_⟩
  · by_cases same : actor = other
    · subst same
      rw [own]
      exact ⟨fun _ => rfl, fun _ => rfl⟩
    · rw [History.duty_other same, ← kept.holder]
      exact ⟨fun found => absurd (Option.some.inj found) same, nofun⟩
  · by_cases same : actor = other
    · subst same
      rw [own]
      exact ⟨fun again => absurd (behind actor again) (Nat.lt_irrefl _), nofun⟩
    · rw [History.duty_other same, ← kept.line, List.mem_cons]
      exact ⟨.inr, fun either => either.resolve_left (same ·.symm)⟩
  · exact kept.ordered.imp fun before => by rwa [places, places]

theorem leave (kept : GateKept history gate) (inside : (history.duty actor).isInside = true) :
    GateKept (history ++ [⟨actor, .leaveGate, some ()⟩]) gate.leave := by
  have held := (kept.holder actor).mpr inside
  have own := History.duty_own history actor .leaveGate ()
  have places : ∀ other, History.place (history ++ [⟨actor, .leaveGate, some ()⟩]) other =
      history.place other := by
    intro other
    rw [History.place_append, if_neg (by simp [Happening.isQueuing])]
  refine ⟨fun other => ?_, fun other => ?_, ?_⟩
  · by_cases same : actor = other
    · subst same
      rw [own]
      exact ⟨nofun, nofun⟩
    · rw [History.duty_other same, ← kept.holder, held]
      exact ⟨nofun, fun found => absurd (Option.some.inj found) same⟩
  · rw [Lock.leave, kept.line]
    by_cases same : actor = other
    · subst same
      rw [own]
      cases duty : history.duty actor with
      | inside content => exact ⟨nofun, nofun⟩
      | _ =>
          rw [duty] at inside
          cases inside
    · rw [History.duty_other same]
  · have ordered := (List.pairwise_append.mp kept.ordered).2.1
    exact ordered.imp fun before => by rwa [places, places]

end GateKept

end WebSocket
