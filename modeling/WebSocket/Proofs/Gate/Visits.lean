import Mathlib.Data.List.Induction
import WebSocket.Proofs.Gate.Passage

/-!
The visits to the gate in a history, in the order in which their actors got in
line. At every point of a run they are those who have left, then the one who is
inside, then those who wait.
-/

namespace WebSocket

/-- A passage, with its actor and the place in the history where it began. -/
structure Visit where
  place : Nat
  actor : Nat
  passage : Passage

def Visit.advance (visit : Visit) (happening : Happening) : Visit :=
  if happening.actor = visit.actor then
    match happening.reply with
    | some reply => { visit with passage := visit.passage.after happening.action reply }
    | none => visit
  else visit

namespace Happening

def joined? : Happening → Option Bytes
  | ⟨_, .queueForGate content, some _⟩ => some content
  | _ => none

def entrant? : Happening → Option Nat
  | ⟨actor, .enterGate, some _⟩ => some actor
  | _ => none

end Happening

namespace History

def record (visits : List Visit) (happening : Happening) (place : Nat) : List Visit :=
  visits.map (·.advance happening) ++
    (happening.joined?.map fun content => ⟨place, happening.actor, { content }⟩).toList

/-- All visits to the gate, as far as they have come. -/
def visits (history : History) : List Visit :=
  history.zipIdx.foldl (fun visits (happening, place) => record visits happening place) []

/-- Who has come into the gate, in this order. -/
def entrances (history : History) : List Nat := history.filterMap Happening.entrant?

theorem visits_append (history : History) (happening : Happening) :
    visits (history ++ [happening]) = record history.visits happening history.length := by
  rw [visits, List.zipIdx_append, List.foldl_append]
  simp [visits]

end History

namespace Passage

theorem after_content (passage : Passage) (action : Action) (reply : action.Reply) :
    (passage.after action reply).content = passage.content := by
  cases action <;> simp only [after] <;> (try split) <;> (try split) <;> rfl

end Passage

namespace Visit

variable (visit : Visit) (happening : Happening)

theorem advance_actor : (visit.advance happening).actor = visit.actor := by
  unfold advance
  split
  · split <;> rfl
  · rfl

theorem advance_place : (visit.advance happening).place = visit.place := by
  unfold advance
  split
  · split <;> rfl
  · rfl

theorem advance_content : (visit.advance happening).passage.content = visit.passage.content := by
  unfold advance
  split
  · split
    · exact visit.passage.after_content _ _
    · rfl
  · rfl

variable {visit happening}

theorem advance_own {action : Action} (reply : action.Reply) :
    visit.advance ⟨visit.actor, action, some reply⟩ =
      { visit with passage := visit.passage.after action reply } := if_pos rfl

theorem advance_other (other : visit.actor ≠ happening.actor) : visit.advance happening = visit :=
  if_neg fun same => other same.symm

theorem advance_gone (gone : visit.passage.stage = .gone) : visit.advance happening = visit := by
  unfold advance
  split
  · split
    · rw [Passage.after_of_gone gone]
    · rfl
  · rfl

theorem advance_waiting {actor : Nat} (action : Action) : visit.advance ⟨actor, action, none⟩ = visit :=
  ite_self visit

end Visit

namespace History

variable {history : History}

theorem joined_of_visit {visit : Visit} (member : visit ∈ history.visits) :
    history[visit.place]? =
      some ⟨visit.actor, .queueForGate visit.passage.content, some ()⟩ := by
  induction history using List.reverseRecOn generalizing visit with
  | nil => cases member
  | append_singleton history happening induction =>
      rw [visits_append, record] at member
      rcases List.mem_append.mp member with member | newest
      · obtain ⟨before, earlier, rfl⟩ := List.mem_map.mp member
        rw [Visit.advance_place, Visit.advance_actor, Visit.advance_content,
          List.getElem?_append_left (List.getElem?_eq_some_iff.mp (induction earlier)).1]
        exact induction earlier
      · obtain ⟨actor, action, reply⟩ := happening
        rw [Option.mem_toList] at newest
        obtain ⟨content, joined, rfl⟩ := Option.map_eq_some_iff.mp newest
        unfold Happening.joined? at joined
        split at joined
        · rename_i same
          cases joined
          cases same
          exact List.getElem?_concat_length
        · cases joined

theorem visit_of_joined {place actor : Nat} {content : Bytes}
    (joined : history[place]? = some ⟨actor, .queueForGate content, some ()⟩) :
    ∃ visit ∈ history.visits, visit.place = place ∧ visit.actor = actor ∧
      visit.passage.content = content := by
  induction history using List.reverseRecOn with
  | nil => cases joined
  | append_singleton history happening induction =>
      rw [visits_append, record]
      rcases of_append joined with ⟨-, joined⟩ | ⟨rfl, rfl⟩
      · obtain ⟨visit, member, same, own, carries⟩ := induction joined
        refine ⟨visit.advance happening, List.mem_append_left _ (List.mem_map_of_mem member), ?_⟩
        rw [Visit.advance_place, Visit.advance_actor, Visit.advance_content]
        exact ⟨same, own, carries⟩
      · exact ⟨_, List.mem_append_right _ List.mem_cons_self, rfl, rfl, rfl⟩

theorem visits_in_order (history : History) :
    history.visits.Pairwise fun first second => first.place < second.place := by
  induction history using List.reverseRecOn with
  | nil => exact .nil
  | append_singleton history happening induction =>
      rw [visits_append, record, List.pairwise_append]
      refine ⟨?_, ?_, fun visit member newest joined => ?_⟩
      · refine List.pairwise_map.mpr (induction.imp fun before => ?_)
        rwa [Visit.advance_place, Visit.advance_place]
      · cases happening.joined? with
        | none => exact .nil
        | some content => exact List.pairwise_singleton _ _
      · obtain ⟨before, earlier, rfl⟩ := List.mem_map.mp member
        rw [Option.mem_toList] at joined
        obtain ⟨content, -, rfl⟩ := Option.map_eq_some_iff.mp joined
        rw [Visit.advance_place]
        exact (List.getElem?_eq_some_iff.mp (joined_of_visit earlier)).1

/-- What relates each visit to those behind it relates an earlier one to a later one. -/
theorem related_of_place {Related : Visit → Visit → Prop} (pairs : history.visits.Pairwise Related)
    {first second : Visit} (member : first ∈ history.visits) (memberToo : second ∈ history.visits)
    (before : first.place < second.place) : Related first second := by
  obtain ⟨place, here⟩ := List.getElem?_of_mem member
  obtain ⟨placeToo, there⟩ := List.getElem?_of_mem memberToo
  obtain ⟨short, rfl⟩ := List.getElem?_eq_some_iff.mp here
  obtain ⟨shortToo, rfl⟩ := List.getElem?_eq_some_iff.mp there
  rcases Nat.lt_trichotomy place placeToo with ahead | same | behind
  · exact List.pairwise_iff_getElem.mp pairs _ _ short shortToo ahead
  · subst same
    exact absurd before (Nat.lt_irrefl _)
  · exact absurd before
      (Nat.lt_asymm (List.pairwise_iff_getElem.mp history.visits_in_order _ _ shortToo short behind))

theorem gone_of_take {place : Nat} {visit : Visit} (member : visit ∈ visits (history.take place))
    (gone : visit.passage.stage = .gone) : visit ∈ history.visits := by
  induction history using List.reverseRecOn with
  | nil => rwa [List.take_nil] at member
  | append_singleton history happening induction =>
      rcases Nat.lt_or_ge history.length place with whole | part
      · rwa [List.take_of_length_le (by rw [List.length_append, List.length_singleton]; omega)] at member
      · rw [List.take_append_of_le_length part] at member
        rw [visits_append, record]
        refine List.mem_append_left _ (List.mem_map.mpr ⟨visit, induction member, ?_⟩)
        exact Visit.advance_gone gone

end History

/-- Those who have left, the one inside, and those in line. -/
structure Ledger where
  old : List Visit := []
  held : Option Visit := none
  line : List Visit := []

namespace Ledger

def visits (ledger : Ledger) : List Visit := ledger.old ++ ledger.held.toList ++ ledger.line

def present (ledger : Ledger) : List Visit := ledger.held.toList ++ ledger.line

theorem visits_eq (ledger : Ledger) : ledger.visits = ledger.old ++ ledger.present :=
  List.append_assoc ..

end Ledger

/-- All that can happen at the gate, with the writer that is found there. -/
inductive Ledger.Change (hasWriter : Bool) (place : Nat) : Happening → Ledger → Ledger → Prop where
  | stay {ledger : Ledger} {happening : Happening} (nobody : happening.entrant? = none)
      (nothing : happening.wrote = []) : Change hasWriter place happening ledger ledger
  | join {ledger : Ledger} (actor : Nat) (content : Bytes) :
      Change hasWriter place ⟨actor, .queueForGate content, some ()⟩ ledger
        { ledger with line := ledger.line ++ [⟨place, actor, { content }⟩] }
  | enter {old rest : List Visit} {visit : Visit} (waiting : visit.passage.stage = .waiting) :
      Change hasWriter place ⟨visit.actor, .enterGate, some hasWriter⟩ ⟨old, none, visit :: rest⟩
        ⟨old, some { visit with passage := visit.passage.after .enterGate hasWriter }, rest⟩
  | work {old line : List Visit} {visit : Visit} {action : Action} {reply : action.Reply}
      (permitted : visit.passage.permits action) (notEnter : action ≠ .enterGate)
      (notLeave : action ≠ .leaveGate)
      (written : (visit.passage.after action reply).written = visit.passage.written ++
        Happening.wrote ⟨visit.actor, action, some reply⟩) :
      Change hasWriter place ⟨visit.actor, action, some reply⟩ ⟨old, some visit, line⟩
        ⟨old, some { visit with passage := visit.passage.after action reply }, line⟩
  | leave {old line : List Visit} {visit : Visit} (permitted : visit.passage.permits .leaveGate) :
      Change hasWriter place ⟨visit.actor, .leaveGate, some ()⟩ ⟨old, some visit, line⟩
        ⟨old ++ [{ visit with passage := visit.passage.after .leaveGate () }], none, line⟩

/-- The gate agrees with the visits, and every actor's stand with its visit. -/
structure Booked (also : Nat → Option Passage → Action → Prop) (history : History) (hub : Hub)
    (ledger : Ledger) : Prop where
  visits : history.visits = ledger.visits
  gate : hub.gate = ⟨ledger.held.map Visit.actor, ledger.line.map Visit.actor⟩
  past : ∀ visit ∈ ledger.old, visit.passage.stage = .gone
  inside : ∀ visit ∈ ledger.held,
    visit.passage.stage = if hub.hasWriter then .inside else .barred
  waiting : ∀ visit ∈ ledger.line, visit.passage.stage = .waiting
  distinct : (ledger.present.map Visit.actor).Nodup
  sound : ∀ visit ∈ ledger.visits, visit.passage.IsSound
  stands : ∀ visit ∈ ledger.present,
    history.stand (Passage.conduct also) visit.actor = some visit.passage
  away : ∀ actor, (∀ visit ∈ ledger.present, visit.actor ≠ actor) →
    Passage.IsAway (history.stand (Passage.conduct also) actor)
  latest : ∀ actor passage, history.stand (Passage.conduct also) actor = some passage →
    ∃ visit ∈ ledger.visits, visit.actor = actor ∧ visit.passage = passage

theorem Action.gate_of_effect {setup : Setup} {actor : Nat} {action : Action} {hub : Hub}
    {effect : Effect action.Reply} (notQueue : ∀ content, action ≠ .queueForGate content)
    (notEnter : action ≠ .enterGate) (notLeave : action ≠ .leaveGate)
    (member : effect ∈ action.effects setup actor hub) : effect.hub.gate = hub.gate := by
  cases plain : action.isPlain with
  | true => exact (Action.agrees_of_plain plain member).gate
  | false =>
      cases action with
      | movePhase source target =>
          simp only [Action.effects] at member
          split at member <;>
            · obtain rfl := List.mem_singleton.mp member
              rfl
      | readPhase | closePhase | claimClose =>
          obtain rfl := List.mem_singleton.mp member
          rfl
      | queueForGate content => exact absurd rfl (notQueue content)
      | enterGate => exact absurd rfl notEnter
      | leaveGate => exact absurd rfl notLeave
      | _ => cases plain

theorem Action.has_writer_of_effect {setup : Setup} {actor : Nat} {action : Action} {hub : Hub}
    {effect : Effect action.Reply} (notTake : action ≠ .takeWriter)
    (member : effect ∈ action.effects setup actor hub) : effect.hub.hasWriter = hub.hasWriter := by
  cases action with
  | takeWriter => exact absurd rfl notTake
  | tell observer event =>
      obtain rfl := List.mem_singleton.mp member
      unfold Hub.tell
      split
      · rfl
      · dsimp only
        split <;> rfl
  | write | flush | shutdown =>
      simp only [Action.effects, Hub.transfer, Hub.answer] at member
      grind
  | read =>
      simp only [Action.effects, Hub.receive, Hub.answer] at member
      grind
  | _ =>
      simp only [Action.effects, Hub.answer, Hub.updateScheduler, Hub.log] at member
      grind

theorem Transfer.carried_of_effect {setup : Setup} {actor : Nat} {bytes : Bytes} {deadline : Nat}
    {hub : Hub} {effect : Effect Transfer} {result : Transfer}
    (member : effect ∈ (Action.write bytes deadline).effects setup actor hub)
    (told : effect.reply = some result) : result.carried bytes = result.taken bytes := by
  have some : ∀ stream : Stream, ∀ cue,
      (stream.write cue bytes).1.carried bytes = (stream.write cue bytes).1.taken bytes := by
    intro stream cue
    unfold Stream.write
    split
    · rfl
    · rfl
    · rename_i count positive taken
      have atLeast : max 1 count = count := by
        have nonzero : count ≠ 0 := positive
        omega
      exact congrArg bytes.take atLeast
  simp only [Action.effects, Hub.transfer, Hub.answer] at member
  grind [Transfer.carried, Transfer.taken]

namespace Booked

open Passage

variable {also : Nat → Option Passage → Action → Prop} {history : History} {hub next : Hub}
variable {ledger : Ledger} {setup : Setup} {actor : Nat} {action : Action}
variable {effect : Effect action.Reply} {visit : Visit} {rest : List Visit}

theorem not_gone (booked : Booked also history hub ledger) (member : visit ∈ ledger.present) :
    visit.passage.stage ≠ .gone := by
  rcases List.mem_append.mp member with held | line
  · rw [booked.inside visit (Option.mem_toList.mp held)]
    split <;> decide
  · rw [booked.waiting visit line]
    decide

theorem present_of_permits (booked : Booked also history hub ledger) {passage : Passage}
    (stands : history.stand (conduct also) actor = some passage)
    (permitted : passage.permits action) :
    ∃ visit ∈ ledger.present, visit.actor = actor ∧ visit.passage = passage := by
  by_contra absent
  have away := booked.away actor fun visit member same => by
    have standsToo := booked.stands visit member
    rw [same, stands] at standsToo
    exact absent ⟨visit, member, same, (Option.some.inj standsToo).symm⟩
  have gone : passage.stage = .gone := away passage stands
  cases action <;> simp [permits, gone] at permitted

theorem keep (booked : Booked also history hub ledger) {happening : Happening}
    (nobody : happening.joined? = none)
    (idle : ∀ visit ∈ ledger.visits, visit.advance happening = visit)
    (stands : ∀ other, History.stand (history ++ [happening]) (conduct also) other =
      history.stand (conduct also) other)
    (gate : next.gate = hub.gate) (writer : next.hasWriter = hub.hasWriter) :
    Booked also (history ++ [happening]) next ledger := by
  refine ⟨?_, gate.trans booked.gate, booked.past, writer ▸ booked.inside, booked.waiting,
    booked.distinct, booked.sound, fun visit member => ?_, fun actor others => ?_,
    fun actor passage found => ?_⟩
  · rw [History.visits_append, History.record, nobody, booked.visits]
    exact (List.append_nil _).trans ((List.map_congr_left idle).trans (List.map_id _))
  · rw [stands]
    exact booked.stands visit member
  · rw [stands]
    exact booked.away actor others
  · rw [stands] at found
    exact booked.latest actor passage found

theorem rest_other (booked : Booked also history hub ledger)
    (first : ledger.present = visit :: rest) : ∀ other ∈ rest, other.actor ≠ visit.actor := by
  have distinct := booked.distinct
  rw [first, List.map_cons, List.nodup_cons] at distinct
  intro other member same
  exact distinct.1 (List.mem_map.mpr ⟨other, member, same⟩)

theorem visits_after (booked : Booked also history hub ledger)
    (first : ledger.present = visit :: rest) (permitted : visit.passage.permits action)
    (reply : action.Reply) :
    History.visits (history ++ [⟨visit.actor, action, some reply⟩]) =
      ledger.old ++ { visit with passage := visit.passage.after action reply } :: rest := by
  have nobody : Happening.joined? ⟨visit.actor, action, some reply⟩ = none := by
    cases action <;> first | rfl | exact permitted.elim
  rw [History.visits_append, History.record, nobody, booked.visits, Ledger.visits_eq, first,
    List.map_append, List.map_cons, Visit.advance_own]
  have before : ledger.old.map (·.advance ⟨visit.actor, action, some reply⟩) = ledger.old :=
    (List.map_congr_left fun other member => Visit.advance_gone (booked.past other member)).trans
      (List.map_id _)
  have behind : rest.map (·.advance ⟨visit.actor, action, some reply⟩) = rest :=
    (List.map_congr_left fun other member =>
      Visit.advance_other (booked.rest_other first other member)).trans (List.map_id _)
  rw [before, behind]
  exact List.append_nil _

theorem stand_after (booked : Booked also history hub ledger)
    (first : ledger.present = visit :: rest) (permitted : visit.passage.permits action)
    (reply : action.Reply) :
    History.stand (history ++ [⟨visit.actor, action, some reply⟩]) (conduct also) visit.actor =
      some (visit.passage.after action reply) := by
  rw [History.stand_own, booked.stands visit (first ▸ List.mem_cons_self)]
  cases action <;> first | rfl | exact permitted.elim

theorem sound_after (booked : Booked also history hub ledger)
    (first : ledger.present = visit :: rest) (permitted : visit.passage.permits action)
    (reply : action.Reply) :
    ∀ other ∈ ledger.old ++ { visit with passage := visit.passage.after action reply } :: rest,
      other.passage.IsSound := by
  have sound := booked.sound
  rw [Ledger.visits_eq, first] at sound
  intro other member
  rcases List.mem_append.mp member with old | member
  · exact sound other (List.mem_append_left _ old)
  · rcases List.mem_cons.mp member with rfl | behind
    · have before := sound visit (List.mem_append_right _ List.mem_cons_self)
      exact is_sound_after before permitted reply
    · exact sound other (List.mem_append_right _ (List.mem_cons_of_mem _ behind))

theorem latest_after (booked : Booked also history hub ledger)
    (first : ledger.present = visit :: rest) (permitted : visit.passage.permits action)
    (reply : action.Reply) {passage : Passage}
    (stands : History.stand (history ++ [⟨visit.actor, action, some reply⟩]) (conduct also) actor =
      some passage) :
    ∃ other ∈ ledger.old ++ { visit with passage := visit.passage.after action reply } :: rest,
      other.actor = actor ∧ other.passage = passage := by
  by_cases own : visit.actor = actor
  · subst own
    rw [booked.stand_after first permitted] at stands
    exact ⟨_, List.mem_append_right _ List.mem_cons_self, rfl, Option.some.inj stands⟩
  · rw [History.stand_other own] at stands
    obtain ⟨other, member, same, carries⟩ := booked.latest actor passage stands
    rw [Ledger.visits_eq, first] at member
    refine ⟨other, ?_, same, carries⟩
    rcases List.mem_append.mp member with old | member
    · exact List.mem_append_left _ old
    · rcases List.mem_cons.mp member with rfl | behind
      · exact absurd same own
      · exact List.mem_append_right _ (List.mem_cons_of_mem _ behind)

theorem stay (booked : Booked also history hub ledger) {line : List Visit}
    (first : ledger.present = visit :: line) (permitted : visit.passage.permits action)
    (reply : action.Reply)
    (gate : next.gate = ⟨some visit.actor, line.map Visit.actor⟩)
    (waiting : ∀ other ∈ line, other.passage.stage = .waiting)
    (inside : (visit.passage.after action reply).stage =
      if next.hasWriter then .inside else .barred) :
    Booked also (history ++ [⟨visit.actor, action, some reply⟩]) next
      ⟨ledger.old, some { visit with passage := visit.passage.after action reply }, line⟩ := by
  have visits := booked.visits_after first permitted reply
  have joined : (⟨ledger.old, some { visit with passage := visit.passage.after action reply }, line⟩ :
      Ledger).visits = ledger.old ++ { visit with passage := visit.passage.after action reply } :: line :=
    List.append_assoc ..
  have distinct := booked.distinct
  rw [first] at distinct
  refine ⟨visits.trans joined.symm, gate, booked.past, ?_, waiting, distinct, ?_, ?_, ?_, ?_⟩
  · rintro other ⟨⟩
    exact inside
  · rw [joined]
    exact booked.sound_after first permitted reply
  · intro other member
    rcases List.mem_cons.mp member with rfl | behind
    · exact booked.stand_after first permitted reply
    · rw [History.stand_other (booked.rest_other first other behind).symm]
      exact booked.stands other (first ▸ List.mem_cons_of_mem _ behind)
  · intro actor others
    have own := others _ List.mem_cons_self
    rw [History.stand_other own]
    refine booked.away actor fun other member => ?_
    rw [first] at member
    rcases List.mem_cons.mp member with rfl | behind
    · exact own
    · exact others other (List.mem_cons_of_mem _ behind)
  · rw [joined]
    exact fun actor passage stands => booked.latest_after first permitted reply stands

theorem leave {old line : List Visit} (booked : Booked also history hub ⟨old, some visit, line⟩)
    (permitted : visit.passage.permits .leaveGate) :
    Booked also (history ++ [⟨visit.actor, .leaveGate, some ()⟩]) { hub with gate := hub.gate.leave }
      ⟨old ++ [{ visit with passage := visit.passage.after .leaveGate () }], none, line⟩ := by
  have first : Ledger.present ⟨old, some visit, line⟩ = visit :: line := rfl
  have gone : (visit.passage.after .leaveGate ()).stage = .gone := by
    have inside : visit.passage.stage = .inside ∨ visit.passage.stage = .barred :=
      permitted.elim .inr fun left => .inl left.1
    simp only [after, if_pos inside]
  have joined : Ledger.visits ⟨old ++ [{ visit with passage := visit.passage.after .leaveGate () }],
      none, line⟩ = old ++ { visit with passage := visit.passage.after .leaveGate () } :: line := by
    simp [Ledger.visits]
  refine ⟨(booked.visits_after first permitted ()).trans joined.symm, ?_, ?_,
    fun _ nobody => absurd nobody (Option.not_mem_none _), booked.waiting, ?_, ?_, ?_, ?_, ?_⟩
  · change hub.gate.leave = _
    rw [booked.gate]
    rfl
  · intro other member
    rcases List.mem_append.mp member with before | last
    · exact booked.past other before
    · rw [List.mem_singleton.mp last]
      exact gone
  · exact (List.nodup_cons.mp booked.distinct).2
  · rw [joined]
    exact booked.sound_after first permitted ()
  · intro other member
    rw [History.stand_other (booked.rest_other first other member).symm]
    exact booked.stands other (List.mem_cons_of_mem _ member)
  · intro actor others
    by_cases own : visit.actor = actor
    · subst own
      rw [booked.stand_after first permitted]
      exact away_of_gone gone
    · rw [History.stand_other own]
      refine booked.away actor fun other member => ?_
      rcases List.mem_cons.mp member with rfl | behind
      · exact own
      · exact others other behind
  · rw [joined]
    exact fun actor passage stands => booked.latest_after first permitted () stands

theorem join (booked : Booked also history hub ledger)
    (away : IsAway (history.stand (conduct also) actor)) (content : Bytes) :
    Booked also (history ++ [⟨actor, .queueForGate content, some ()⟩])
      { hub with gate := hub.gate.join actor }
      { ledger with line := ledger.line ++ [⟨history.length, actor, { content }⟩] } := by
  have absent : ∀ visit ∈ ledger.present, visit.actor ≠ actor := by
    rintro visit member rfl
    exact booked.not_gone member (away _ (booked.stands visit member))
  have same : ∀ visit : Visit, visit.advance ⟨actor, .queueForGate content, some ()⟩ = visit := by
    intro visit
    unfold Visit.advance
    split <;> rfl
  have present : Ledger.present
      { ledger with line := ledger.line ++ [⟨history.length, actor, { content }⟩] } =
        ledger.present ++ [⟨history.length, actor, { content }⟩] := (List.append_assoc ..).symm
  have joined : Ledger.visits
      { ledger with line := ledger.line ++ [⟨history.length, actor, { content }⟩] } =
        ledger.visits ++ [⟨history.length, actor, { content }⟩] := (List.append_assoc ..).symm
  have own : History.stand (history ++ [⟨actor, .queueForGate content, some ()⟩]) (conduct also) actor =
      some { content } := History.stand_own ..
  refine ⟨?_, ?_, booked.past, booked.inside, ?_, ?_, ?_, ?_, ?_, ?_⟩
  · rw [joined, ← booked.visits, History.visits_append, History.record]
    exact congrArg (· ++ _) ((List.map_congr_left fun visit _ => same visit).trans (List.map_id _))
  · change hub.gate.join actor = _
    rw [booked.gate, Lock.join, List.map_append]
    rfl
  · intro visit member
    rcases List.mem_append.mp member with before | last
    · exact booked.waiting visit before
    · rw [List.mem_singleton.mp last]
  · rw [present, List.map_append, List.nodup_append]
    refine ⟨booked.distinct, List.pairwise_singleton _ _, fun other member newest joins => ?_⟩
    obtain ⟨visit, found, rfl⟩ := List.mem_map.mp member
    rw [List.mem_singleton.mp joins]
    exact absent visit found
  · rw [joined]
    intro visit member
    rcases List.mem_append.mp member with before | last
    · exact booked.sound visit before
    · rw [List.mem_singleton.mp last]
      exact is_sound_of_content content
  · rw [present]
    intro visit member
    rcases List.mem_append.mp member with before | last
    · rw [History.stand_other (absent visit before).symm]
      exact booked.stands visit before
    · rw [List.mem_singleton.mp last]
      exact own
  · rw [present]
    intro other others
    have elsewhere : actor ≠ other := others _ (List.mem_append_right _ List.mem_cons_self)
    rw [History.stand_other elsewhere]
    exact booked.away other fun visit member => others visit (List.mem_append_left _ member)
  · rw [joined]
    intro other passage stands
    by_cases same : actor = other
    · subst same
      rw [own] at stands
      exact ⟨_, List.mem_append_right _ List.mem_cons_self, rfl, Option.some.inj stands⟩
    · rw [History.stand_other same] at stands
      obtain ⟨visit, member, found⟩ := booked.latest other passage stands
      exact ⟨visit, List.mem_append_left _ member, found⟩

theorem first_of_turn (booked : Booked also history hub ledger) (member : visit ∈ ledger.present)
    (turn : hub.gate.canEnter visit.actor = true) :
    ∃ rest, ledger = ⟨ledger.old, none, visit :: rest⟩ := by
  obtain ⟨old, held, line⟩ := ledger
  rw [booked.gate] at turn
  simp only [Lock.canEnter, Bool.and_eq_true, Option.isNone_iff_eq_none, Option.map_eq_none_iff,
    beq_iff_eq] at turn
  obtain ⟨rfl, head⟩ := turn
  obtain ⟨rest, inLine⟩ := List.head?_eq_some_iff.mp head
  obtain ⟨first, others, rfl, same, rfl⟩ := List.map_eq_cons_iff.mp inLine
  obtain rfl : visit = first := by
    rcases List.mem_cons.mp member with same | behind
    · exact same
    · exact absurd same.symm (booked.rest_other rfl visit behind)
  exact ⟨others, rfl⟩

theorem enter {old : List Visit} (booked : Booked also history hub ⟨old, none, visit :: rest⟩) :
    Booked also (history ++ [⟨visit.actor, .enterGate, some hub.hasWriter⟩])
      { hub with gate := hub.gate.enter visit.actor }
      ⟨old, some { visit with passage := visit.passage.after .enterGate hub.hasWriter }, rest⟩ := by
  have permitted : visit.passage.permits .enterGate := booked.waiting visit List.mem_cons_self
  refine booked.stay rfl permitted hub.hasWriter ?_ ?_ ?_
  · change hub.gate.enter _ = _
    rw [booked.gate]
    rfl
  · exact fun other member => booked.waiting other (List.mem_cons_of_mem _ member)
  · have waiting : visit.passage.stage = .waiting := permitted
    simp only [after, if_pos waiting]
    cases hub.hasWriter <;> rfl

theorem entrant_of_waiting (action : Action) :
    Happening.entrant? ⟨actor, action, none⟩ = none := by
  cases action <;> rfl

theorem wrote_of_waiting (action : Action) : Happening.wrote ⟨actor, action, none⟩ = [] := by
  cases action <;> rfl

theorem not_waiting_of_permits {passage : Passage} (permitted : passage.permits action)
    (notEnter : action ≠ .enterGate) : passage.stage ≠ .waiting := by
  intro waiting
  cases action <;> first | exact notEnter rfl | simp [permits, waiting] at permitted

theorem stage_after {passage : Passage} (permitted : passage.permits action)
    {reply : action.Reply} (notEnter : action ≠ .enterGate) (notLeave : action ≠ .leaveGate)
    (notTake : action ≠ .takeWriter) : (passage.after action reply).stage = passage.stage := by
  cases action with
  | enterGate => exact absurd rfl notEnter
  | leaveGate => exact absurd rfl notLeave
  | takeWriter => exact absurd rfl notTake
  | write bytes deadline => simp only [after, permitted.1, if_true]
  | flush deadline => simp only [after, permitted.1, if_true]
  | sleep till deadline => simp only [after, permitted.1, if_true]
  | _ => rfl

theorem written_after {passage : Passage} (permitted : passage.permits action)
    (member : effect ∈ action.effects setup actor hub) {reply : action.Reply}
    (told : effect.reply = some reply) :
    (passage.after action reply).written =
      passage.written ++ Happening.wrote ⟨actor, action, some reply⟩ := by
  cases action with
  | write bytes deadline =>
      simp only [after, if_pos permitted.1, Happening.wrote]
      rw [Transfer.carried_of_effect member told]
  | enterGate =>
      refine Eq.trans ?_ (List.append_nil _).symm
      simp only [after]
      split
      · cases reply <;> rfl
      · rfl
  | flush | sleep | takeWriter | leaveGate =>
      refine Eq.trans ?_ (List.append_nil _).symm
      simp only [after]
      split <;> rfl
  | _ => exact (List.append_nil _).symm

theorem change_away (booked : Booked also history hub ledger)
    (away : IsAway (history.stand (conduct also) actor)) (outside : isOutside action = true)
    (member : effect ∈ action.effects setup actor hub) :
    ∃ next, Ledger.Change hub.hasWriter history.length ⟨actor, action, effect.reply⟩ ledger next ∧
      Booked also (history ++ [⟨actor, action, effect.reply⟩]) effect.hub next := by
  by_cases queues : ∃ content, action = .queueForGate content
  · obtain ⟨content, rfl⟩ := queues
    obtain rfl := List.mem_singleton.mp member
    exact ⟨_, .join actor content, booked.join away content⟩
  · have notQueue : ∀ content, action ≠ .queueForGate content :=
      fun content same => queues ⟨content, same⟩
    have notInside : ∀ other, isOutside other = false → action ≠ other := by
      rintro other inside rfl
      exact absurd (outside.symm.trans inside) (by decide)
    refine ⟨ledger, .stay ?_ ?_, booked.keep ?_ ?_ ?_ ?_ ?_⟩
    · cases action <;> first | rfl | exact absurd outside Bool.false_ne_true
    · cases action <;> first | rfl | exact absurd outside Bool.false_ne_true
    · cases action <;> first | rfl | exact absurd rfl (notQueue _)
    · intro visit found
      rw [Ledger.visits_eq] at found
      rcases List.mem_append.mp found with before | present
      · exact Visit.advance_gone (booked.past visit before)
      · refine Visit.advance_other fun same => booked.not_gone present ?_
        have stands := booked.stands visit present
        rw [same] at stands
        exact away _ stands
    · intro other
      by_cases own : actor = other
      · subst own
        cases effect.reply with
        | none => exact History.stand_waiting ..
        | some reply =>
            rw [History.stand_own]
            exact conduct_after_away away notQueue reply
      · exact History.stand_other own
    · exact Action.gate_of_effect notQueue (notInside _ rfl) (notInside _ rfl) member
    · exact Action.has_writer_of_effect (notInside _ rfl) member

theorem change_waiting (booked : Booked also history hub ledger)
    (notQueue : ∀ content, action ≠ .queueForGate content) (notEnter : action ≠ .enterGate)
    (member : effect ∈ action.effects setup actor hub) (untold : effect.reply = none) :
    Booked also (history ++ [⟨actor, action, none⟩]) effect.hub ledger := by
  refine booked.keep ?_ ?_ ?_ ?_ ?_
  · cases action <;> rfl
  · exact fun other _ => Visit.advance_waiting action
  · exact fun other => History.stand_waiting ..
  · refine Action.gate_of_effect notQueue notEnter ?_ member
    rintro rfl
    obtain rfl := List.mem_singleton.mp member
    cases untold
  · refine Action.has_writer_of_effect ?_ member
    rintro rfl
    obtain rfl := List.mem_singleton.mp member
    cases untold

theorem change_inside {old line : List Visit} (booked : Booked also history hub ⟨old, some visit, line⟩)
    (permitted : visit.passage.permits action) (notEnter : action ≠ .enterGate)
    (member : effect ∈ action.effects setup visit.actor hub) {reply : action.Reply}
    (told : effect.reply = some reply) :
    ∃ next, Ledger.Change hub.hasWriter history.length ⟨visit.actor, action, some reply⟩
        ⟨old, some visit, line⟩ next ∧
      Booked also (history ++ [⟨visit.actor, action, some reply⟩]) effect.hub next := by
  by_cases leaves : action = .leaveGate
  · subst leaves
    obtain rfl := List.mem_singleton.mp member
    exact ⟨_, .leave permitted, booked.leave permitted⟩
  · have notQueue : ∀ content, action ≠ .queueForGate content := by
      rintro content rfl
      exact permitted
    have gate := (Action.gate_of_effect notQueue notEnter leaves member).trans booked.gate
    refine ⟨_, .work permitted notEnter leaves (written_after permitted member told),
      booked.stay rfl permitted reply gate booked.waiting ?_⟩
    by_cases takes : action = .takeWriter
    · subst takes
      obtain rfl := List.mem_singleton.mp member
      simp only [after, if_pos permitted.1]
      rfl
    · rw [Action.has_writer_of_effect takes member, stage_after permitted notEnter leaves takes]
      exact booked.inside visit rfl

theorem change_present (booked : Booked also history hub ledger) (present : visit ∈ ledger.present)
    (permitted : visit.passage.permits action)
    (member : effect ∈ action.effects setup visit.actor hub) :
    ∃ next, Ledger.Change hub.hasWriter history.length ⟨visit.actor, action, effect.reply⟩ ledger next ∧
      Booked also (history ++ [⟨visit.actor, action, effect.reply⟩]) effect.hub next := by
  by_cases enters : action = .enterGate
  · subst enters
    simp only [Action.effects] at member
    split at member
    · rename_i turn
      obtain rfl := List.mem_singleton.mp member
      obtain ⟨rest, same⟩ := booked.first_of_turn present turn
      rw [same] at booked ⊢
      exact ⟨_, .enter permitted, booked.enter⟩
    · cases member
  · obtain ⟨old, held, line⟩ := ledger
    obtain rfl : held = some visit := by
      rcases List.mem_append.mp present with inside | behind
      · exact Option.mem_toList.mp inside
      · exact absurd (booked.waiting visit behind) (not_waiting_of_permits permitted enters)
    cases told : effect.reply with
    | none =>
        have notQueue : ∀ content, action ≠ .queueForGate content := by
          rintro content rfl
          exact permitted
        exact ⟨_, .stay (entrant_of_waiting _) (wrote_of_waiting _),
          booked.change_waiting notQueue enters member told⟩
    | some reply => exact booked.change_inside permitted enters member told

/-- What one permitted action does to the visits. -/
theorem change (booked : Booked also history hub ledger)
    (permitted : (conduct also).permits actor (history.stand (conduct also) actor) action)
    (member : effect ∈ action.effects setup actor hub) :
    ∃ next, Ledger.Change hub.hasWriter history.length ⟨actor, action, effect.reply⟩ ledger next ∧
      Booked also (history ++ [⟨actor, action, effect.reply⟩]) effect.hub next := by
  rcases permitted with ⟨away, outside, -⟩ | ⟨passage, stands, permitted⟩
  · exact booked.change_away away outside member
  · obtain ⟨visit, present, rfl, rfl⟩ := booked.present_of_permits stands permitted
    exact booked.change_present present permitted member

end Booked

end WebSocket
