import WebSocket.Proofs.Connection.Session
import WebSocket.Proofs.Gate.Visits

/-!
What the visits to the gate add up to. The wire carries what they have written,
one after the other; they have come in in the order in which they got in line;
and behind a visit that took the writer nothing more is written.
-/

namespace WebSocket

/-- A transfer that was not done, or a pause that ran out of time. -/
def Happening.isTrouble : Happening → Bool
  | ⟨_, .write _ _, some result⟩ | ⟨_, .flush _, some result⟩ => result.status != .success
  | ⟨_, .sleep _ _, some inTime⟩ => !inTime
  | _ => false

def Passage.IsRefused (passage : Passage) : Prop :=
  passage.stage = .waiting ∨ (passage.stage = .barred ∨ passage.stage = .gone) ∧
    passage.status = .fatalError ∧ passage.written = []

structure Account (written : Bytes) (history : History) (hub : Hub) (ledger : Ledger) : Prop where
  wire : hub.stream.written = written ++ ledger.visits.flatMap (·.passage.written)
  entrances : history.entrances = (ledger.old ++ ledger.held.toList).map Visit.actor
  shut : ∀ visit ∈ ledger.visits, visit.passage.content = [] →
    visit.passage.stage = .barred ∨ visit.passage.stage = .gone → hub.hasWriter = false
  behind : ledger.visits.Pairwise fun first second =>
    first.passage.content = [] → second.passage.IsRefused
  smooth : (∀ happening ∈ history, happening.isTrouble = false) → hub.hasWriter = true →
    ∀ visit ∈ ledger.visits, visit.passage.status = .success

theorem pairwise_replace {Item : Type} {Related : Item → Item → Prop} {front back : List Item}
    {item other : Item} (pairs : (front ++ item :: back).Pairwise Related)
    (before : ∀ first ∈ front, Related first item → Related first other)
    (behind : ∀ second ∈ back, Related item second → Related other second) :
    (front ++ other :: back).Pairwise Related := by
  obtain ⟨frontPairs, backPairs, across⟩ := List.pairwise_append.mp pairs
  obtain ⟨first, rest⟩ := List.pairwise_cons.mp backPairs
  refine List.pairwise_append.mpr ⟨frontPairs, ?_, fun early inFront late inBack => ?_⟩
  · exact List.pairwise_cons.mpr ⟨fun second member => behind second member (first second member), rest⟩
  · rcases List.mem_cons.mp inBack with rfl | further
    · exact before early inFront (across early inFront item List.mem_cons_self)
    · exact across early inFront late (List.mem_cons_of_mem _ further)

namespace Ledger

variable {also : Nat → Option Passage → Action → Prop} {history : History} {hub : Hub}
variable {ledger next : Ledger} {hasWriter : Bool} {place : Nat} {happening : Happening}

theorem visits_held (old line : List Visit) (visit : Visit) :
    Ledger.visits ⟨old, some visit, line⟩ = old ++ visit :: line := List.append_assoc ..

theorem visits_left (old line : List Visit) (visit : Visit) :
    Ledger.visits ⟨old ++ [visit], none, line⟩ = old ++ visit :: line := by
  simp [visits]

theorem visits_line (old line : List Visit) : Ledger.visits ⟨old, none, line⟩ = old ++ line := by
  simp [visits]

theorem nothing_written (booked : Booked also history hub ledger) {other : Visit}
    (member : other ∈ ledger.line) : other.passage.written = [] :=
  ((booked.sound other (List.mem_append_right _ member)).fresh (booked.waiting other member)).1

theorem wire_of_change (booked : Booked also history hub ledger)
    (change : Change hasWriter place happening ledger next) :
    next.visits.flatMap (·.passage.written) =
      ledger.visits.flatMap (·.passage.written) ++ happening.wrote := by
  cases change with
  | stay nobody nothing => rw [nothing, List.append_nil]
  | join actor content => simp [visits, Happening.wrote]
  | enter waiting =>
      rename_i old rest visit
      have same : (visit.passage.after .enterGate hasWriter).written = visit.passage.written := by
        simp only [Passage.after, if_pos waiting]
        cases hasWriter <;> rfl
      simp [visits, same, Happening.wrote]
  | work permitted notEnter notLeave written =>
      rename_i old line visit action reply
      have nothing : line.flatMap (·.passage.written) = [] :=
        List.flatMap_eq_nil_iff.mpr fun other member => nothing_written booked member
      simp [visits, written, nothing]
  | leave permitted =>
      rename_i old line visit
      have same : (visit.passage.after .leaveGate ()).written = visit.passage.written := by
        simp only [Passage.after]
        split <;> rfl
      simp [visits, same, Happening.wrote]

theorem entrances_of_change (change : Change hasWriter place happening ledger next) :
    (next.old ++ next.held.toList).map Visit.actor =
      (ledger.old ++ ledger.held.toList).map Visit.actor ++ happening.entrant?.toList := by
  cases change with
  | stay nobody nothing => rw [nobody, Option.toList_none, List.append_nil]
  | join actor content => exact (List.append_nil _).symm
  | enter waiting => simp [Happening.entrant?]
  | work permitted notEnter notLeave written =>
      rename_i old line visit action reply
      have nobody : Happening.entrant? ⟨visit.actor, action, some reply⟩ = none := by
        cases action <;> first | rfl | exact absurd rfl notEnter
      rw [nobody, Option.toList_none, List.append_nil]
      simp
  | leave permitted => simp [Happening.entrant?]

theorem visits_of_change (change : Change hasWriter place happening ledger next) :
    next.visits = ledger.visits ∨
    (∃ actor content, next.visits = ledger.visits ++ [⟨place, actor, { content }⟩]) ∨
    ∃ back visit action reply, happening = ⟨visit.actor, action, some reply⟩ ∧
      visit.passage.permits action ∧ ledger.visits = ledger.old ++ visit :: back ∧
      next.visits =
        ledger.old ++ { visit with passage := visit.passage.after action reply } :: back ∧
      (visit.passage.stage = .waiting →
        visit.passage.after action reply = visit.passage.after .enterGate hasWriter) := by
  cases change with
  | stay nobody nothing => exact .inl rfl
  | join actor content => exact .inr (.inl ⟨actor, content, (List.append_assoc ..).symm⟩)
  | enter waiting =>
      exact .inr (.inr ⟨_, _, _, _, rfl, waiting, visits_line .., visits_held .., fun _ => rfl⟩)
  | work permitted notEnter notLeave written =>
      have notWaiting := Booked.not_waiting_of_permits permitted notEnter
      exact .inr (.inr ⟨_, _, _, _, rfl, permitted, visits_held .., visits_held ..,
        fun waiting => absurd waiting notWaiting⟩)
  | leave permitted =>
      have notWaiting := Booked.not_waiting_of_permits permitted nofun
      exact .inr (.inr ⟨_, _, _, _, rfl, permitted, visits_held .., visits_left ..,
        fun waiting => absurd waiting notWaiting⟩)

end Ledger

theorem Action.no_writer_of_effect {setup : Setup} {actor : Nat} {action : Action} {hub : Hub}
    {effect : Effect action.Reply} (member : effect ∈ action.effects setup actor hub)
    (gone : hub.hasWriter = false) : effect.hub.hasWriter = false := by
  by_cases takes : action = .takeWriter
  · subst takes
    obtain rfl := List.mem_singleton.mp member
    rfl
  · rw [Action.has_writer_of_effect takes member, gone]

namespace Passage

variable {passage : Passage} {action : Action} {reply : action.Reply}

theorem status_after {actor : Nat} (notEnter : passage.stage ≠ .waiting)
    (fine : Happening.isTrouble ⟨actor, action, some reply⟩ = false) (success : passage.status = .success) :
    (passage.after action reply).status = .success := by
  cases action with
  | enterGate => rwa [after, if_neg notEnter]
  | write bytes deadline =>
      simp only [after]
      split
      · exact bne_eq_false_iff_eq.mp fine
      · exact success
  | flush deadline =>
      simp only [after]
      split
      · exact bne_eq_false_iff_eq.mp fine
      · exact success
  | sleep till deadline =>
      simp only [after]
      split
      · cases reply with
        | true => rfl
        | false => cases fine
      · exact success
  | takeWriter | leaveGate =>
      simp only [after]
      split <;> exact success
  | _ => exact success

theorem barred_of_left (permitted : passage.permits action)
    (gone : (passage.after action reply).stage = .gone) (empty : passage.content = []) :
    passage.stage = .barred := by
  by_cases leaves : action = .leaveGate
  · subst leaves
    exact permitted.resolve_right fun inside => inside.2.1 empty
  · cases action with
    | leaveGate => exact absurd rfl leaves
    | enterGate =>
        have waiting : passage.stage = .waiting := permitted
        simp only [after, if_pos waiting] at gone
        cases reply <;> cases gone
    | takeWriter =>
        simp only [after, if_pos permitted.1] at gone
        cases gone
    | write | flush | sleep =>
        simp only [after, if_pos permitted.1] at gone
        exact absurd (permitted.1.symm.trans gone) (by decide)
    | readClock =>
        have inside : passage.stage = .inside := permitted
        exact absurd (inside.symm.trans gone) (by decide)
    | _ => exact permitted.elim

theorem refused_after (refused : passage.IsRefused) (notWaiting : passage.stage ≠ .waiting)
    (permitted : passage.permits action) : (passage.after action reply).IsRefused := by
  obtain ⟨stage, told⟩ := refused.resolve_left notWaiting
  rcases stage with barred | gone
  · cases action with
    | leaveGate =>
        simp only [after, if_pos (Or.inr barred)]
        exact .inr ⟨.inr rfl, told⟩
    | _ => simp [permits, barred] at permitted
  · rw [after_of_gone gone]
    exact refused

theorem refused_of_enter (sound : passage.IsSound) (waiting : passage.stage = .waiting) :
    (passage.after .enterGate false).IsRefused := by
  simp only [after, if_pos waiting]
  exact .inr ⟨.inl rfl, rfl, (sound.fresh waiting).1⟩

end Passage

theorem Booked.no_writer_of_barred {also : Nat → Option Passage → Action → Prop} {history : History}
    {hub : Hub} {ledger : Ledger} {visit : Visit} (booked : Booked also history hub ledger)
    (member : visit ∈ ledger.visits) (barred : visit.passage.stage = .barred) :
    hub.hasWriter = false := by
  rcases List.mem_append.mp member with earlier | behind
  · rcases List.mem_append.mp earlier with old | held
    · cases (booked.past visit old).symm.trans barred
    · have inside := booked.inside visit (Option.mem_toList.mp held)
      cases there : hub.hasWriter with
      | false => rfl
      | true =>
          rw [there, barred] at inside
          cases inside
  · cases (booked.waiting visit behind).symm.trans barred

namespace Account

variable {also : Nat → Option Passage → Action → Prop} {history : History} {hub after : Hub}
variable {ledger next : Ledger} {happening : Happening} {written : Bytes}

theorem shut_of_change (booked : Booked also history hub ledger)
    (account : Account written history hub ledger)
    (change : Ledger.Change hub.hasWriter history.length happening ledger next)
    (bookedToo : Booked also (history ++ [happening]) after next)
    (writer : hub.hasWriter = false → after.hasWriter = false) :
    ∀ visit ∈ next.visits, visit.passage.content = [] →
      visit.passage.stage = .barred ∨ visit.passage.stage = .gone → after.hasWriter = false := by
  intro visit member empty stage
  rcases stage with barred | gone
  · exact bookedToo.no_writer_of_barred member barred
  · rcases Ledger.visits_of_change change with same | ⟨actor, content, grown⟩ |
      ⟨back, first, action, reply, rfl, permitted, before, changed, -⟩
    · exact writer (account.shut visit (same ▸ member) empty (.inr gone))
    · rw [grown] at member
      rcases List.mem_append.mp member with earlier | newest
      · exact writer (account.shut visit earlier empty (.inr gone))
      · rw [List.mem_singleton.mp newest] at gone
        cases gone
    · rw [changed] at member
      have earlier : ∀ other ∈ ledger.old ++ first :: back, other.passage.content = [] →
          other.passage.stage = .gone → after.hasWriter = false :=
        fun other found empty gone => writer (account.shut other (before ▸ found) empty (.inr gone))
      rcases List.mem_append.mp member with old | member
      · exact earlier visit (List.mem_append_left _ old) empty gone
      · rcases List.mem_cons.mp member with rfl | behind
        · have taken : first.passage.content = [] := (first.passage.after_content _ _).symm.trans empty
          have barred := Passage.barred_of_left permitted gone taken
          refine writer (booked.no_writer_of_barred (before ▸ ?_) barred)
          exact List.mem_append_right _ List.mem_cons_self
        · exact earlier visit (List.mem_append_right _ (List.mem_cons_of_mem _ behind)) empty gone

theorem behind_of_change (booked : Booked also history hub ledger)
    (account : Account written history hub ledger)
    (change : Ledger.Change hub.hasWriter history.length happening ledger next) :
    next.visits.Pairwise fun first second =>
      first.passage.content = [] → second.passage.IsRefused := by
  rcases Ledger.visits_of_change change with same | ⟨actor, content, grown⟩ |
    ⟨back, visit, action, reply, rfl, permitted, before, changed, enters⟩
  · rw [same]
    exact account.behind
  · rw [grown, List.pairwise_append]
    refine ⟨account.behind, List.pairwise_singleton _ _, fun first member newest joined _ => ?_⟩
    rw [List.mem_singleton.mp joined]
    exact .inl rfl
  · rw [changed]
    have pairs := account.behind
    rw [before] at pairs
    have member : visit ∈ ledger.visits := before ▸ List.mem_append_right _ List.mem_cons_self
    refine pairwise_replace pairs (fun first old refused empty => ?_)
      fun second inBack refused empty => ?_
    · by_cases waiting : visit.passage.stage = .waiting
      · -- the one in front has been inside and has taken the writer, or found none
        have gone : hub.hasWriter = false :=
          account.shut first (before ▸ List.mem_append_left _ old) empty (.inr (booked.past first old))
        change Passage.IsRefused (visit.passage.after action reply)
        rw [enters waiting, gone]
        exact Passage.refused_of_enter (booked.sound visit member) waiting
      · exact Passage.refused_after (refused empty) waiting permitted
    · exact refused ((visit.passage.after_content _ _).symm.trans empty)

theorem smooth_of_change (account : Account written history hub ledger)
    (change : Ledger.Change hub.hasWriter history.length happening ledger next)
    (fine : ∀ earlier ∈ history ++ [happening], earlier.isTrouble = false) (writer : hub.hasWriter = true) :
    ∀ visit ∈ next.visits, visit.passage.status = .success := by
  have before := account.smooth (fun earlier member => fine earlier (List.mem_append_left _ member)) writer
  rcases Ledger.visits_of_change change with same | ⟨actor, content, grown⟩ |
    ⟨back, visit, action, reply, rfl, permitted, split, changed, enters⟩
  · rw [same]
    exact before
  · rw [grown]
    intro visit member
    rcases List.mem_append.mp member with earlier | newest
    · exact before visit earlier
    · rw [List.mem_singleton.mp newest]
  · rw [split] at before
    rw [changed]
    intro other member
    rcases List.mem_append.mp member with old | member
    · exact before other (List.mem_append_left _ old)
    · rcases List.mem_cons.mp member with rfl | behind
      · have success := before visit (List.mem_append_right _ List.mem_cons_self)
        by_cases waiting : visit.passage.stage = .waiting
        · change (visit.passage.after action reply).status = .success
          rw [enters waiting, writer, Passage.after, if_pos waiting, if_pos rfl]
          exact success
        · have newest := fine _ (List.mem_append_right _ List.mem_cons_self)
          exact Passage.status_after waiting newest success
      · exact before other (List.mem_append_right _ (List.mem_cons_of_mem _ behind))

theorem entrances_append (history : History) (happening : Happening) :
    History.entrances (history ++ [happening]) = history.entrances ++ happening.entrant?.toList := by
  rw [History.entrances, List.filterMap_append]
  refine congrArg (_ ++ ·) ?_
  cases found : happening.entrant? with
  | none => simp [found]
  | some actor => simp [found]

/-- One change of the visits, with what it does to the stream and to the writer. -/
theorem step (booked : Booked also history hub ledger) (account : Account written history hub ledger)
    (change : Ledger.Change hub.hasWriter history.length happening ledger next)
    (bookedToo : Booked also (history ++ [happening]) after next)
    (wire : after.stream.written = hub.stream.written ++ happening.wrote)
    (writer : hub.hasWriter = false → after.hasWriter = false) :
    Account written (history ++ [happening]) after next where
  wire := by
    rw [wire, account.wire, Ledger.wire_of_change booked change, List.append_assoc]
  entrances := by
    rw [entrances_append, account.entrances, Ledger.entrances_of_change change]
  shut := account.shut_of_change booked change bookedToo writer
  behind := account.behind_of_change booked change
  smooth fine there := by
    refine account.smooth_of_change change fine ?_
    cases before : hub.hasWriter with
    | true => rfl
    | false => exact absurd there (by rw [writer before]; decide)

end Account

namespace World.RunIn

variable {also : Nat → Option Passage → Action → Prop} {setting : Setting} {start world : World}
variable {ends : Option Task → Option Passage → Prop} {history : History}

/-- The books of a gate are kept throughout every run in which all follow its conduct. -/
theorem booked (respects : setting.Respects (Passage.conduct also) ends start.setup)
    (obeys : Obeys (Passage.conduct also) ends [] start) (gate : start.hub.gate = {})
    (outside : ∀ hub next, setting.drifts hub next → hub.Drift next)
    (run : start.RunIn setting history world) :
    ∃ ledger, Booked also history world.hub ledger ∧
      Account start.hub.stream.written history world.hub ledger := by
  refine run.invariant
    (fun history hub => ∃ ledger, Booked also history hub ledger ∧
      Account start.hub.stream.written history hub ledger)
    respects obeys ⟨{}, ?_, ?_⟩ ?_ ?_
  · exact ⟨rfl, gate, nofun, nofun, nofun, .nil, nofun, nofun, fun _ _ => nofun, nofun⟩
  · exact ⟨(List.append_nil _).symm, rfl, nofun, .nil, nofun⟩
  · rintro history hub next ⟨ledger, booked, account⟩ drifts
    refine ⟨ledger, ?_⟩
    cases outside hub next drifts <;>
      exact ⟨⟨booked.visits, booked.gate, booked.past, booked.inside, booked.waiting, booked.distinct,
        booked.sound, booked.stands, booked.away, booked.latest⟩,
        ⟨account.wire, account.entrances, account.shut, account.behind, account.smooth⟩⟩
  · rintro history hub actor action effect ⟨ledger, booked, account⟩ permitted member
    obtain ⟨next, change, bookedToo⟩ := booked.change permitted member
    exact ⟨next, bookedToo, account.step booked change bookedToo (Action.written_of_effect member)
      (Action.no_writer_of_effect member)⟩

end World.RunIn

end WebSocket
