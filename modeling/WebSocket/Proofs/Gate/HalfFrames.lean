import WebSocket.Proofs.Gate.Calls

/-!
The wire under failing and late writes. A write that fails softly or comes too
late leaves its frame unfinished and the writer in its place, so that the gate
lets the next sender write behind the unfinished frame.
-/

namespace WebSocket

def Visit.IsCut (visit : Visit) : Prop :=
  visit.passage.written ≠ [] ∧ visit.passage.written ≠ visit.passage.content

/-- Behind a frame that was left unfinished nothing more is written. -/
def History.HalfFramesLast (history : History) : Prop :=
  history.visits.Pairwise fun first second =>
    first.passage.stage = .gone → first.IsCut → second.passage.written = []

/-- If only the last of what was written may be cut, there are whole frames and
at most one unfinished frame behind them. -/
theorem whole_then_rest {visits : List Visit}
    (parts : ∀ visit ∈ visits, visit.passage.written <+: visit.passage.content)
    (last : visits.Pairwise fun first second => first.IsCut → second.passage.written = []) :
    ∃ (whole : List Bytes) (rest : Bytes), visits.flatMap (·.passage.written) = whole.flatten ++ rest ∧
      (∀ frame ∈ whole, ∃ visit ∈ visits, frame = visit.passage.content) ∧
      (rest = [] ∨ ∃ visit ∈ visits, rest <+: visit.passage.content) := by
  induction visits with
  | nil => exact ⟨[], [], rfl, nofun, .inl rfl⟩
  | cons visit visits induction =>
      obtain ⟨first, pairs⟩ := List.pairwise_cons.mp last
      by_cases cut : visit.IsCut
      · have nothing : visits.flatMap (·.passage.written) = [] :=
          List.flatMap_eq_nil_iff.mpr fun other member => first other member cut
        refine ⟨[], visit.passage.written, ?_, nofun, .inr ⟨visit, List.mem_cons_self, ?_⟩⟩
        · rw [List.flatMap_cons, nothing, List.append_nil]
          rfl
        · exact parts visit List.mem_cons_self
      · obtain ⟨whole, rest, joined, frames, behind⟩ :=
          induction (fun other member => parts other (List.mem_cons_of_mem _ member)) pairs
        have behind : rest = [] ∨ ∃ other ∈ visit :: visits, rest <+: other.passage.content :=
          behind.imp_right fun ⟨other, member, part⟩ => ⟨other, List.mem_cons_of_mem _ member, part⟩
        have later : ∀ frame ∈ whole, ∃ other ∈ visit :: visits, frame = other.passage.content :=
          fun frame member =>
            let ⟨other, found, same⟩ := frames frame member
            ⟨other, List.mem_cons_of_mem _ found, same⟩
        rw [List.flatMap_cons, joined]
        by_cases empty : visit.passage.written = []
        · exact ⟨whole, rest, by rw [empty, List.nil_append], later, behind⟩
        · have all : visit.passage.written = visit.passage.content :=
            Classical.byContradiction fun part => cut ⟨empty, part⟩
          refine ⟨visit.passage.written :: whole, rest, ?_, fun frame member => ?_, behind⟩
          · rw [List.flatten_cons, List.append_assoc]
          · rcases List.mem_cons.mp member with rfl | further
            · exact ⟨visit, List.mem_cons_self, all⟩
            · exact later frame further

namespace World

open GateCall

variable {setup : Setup} {stream : Stream} {calls : List GateCall} {world : World} {history : History}

/-- Only one is inside: nobody writes before all have left who got in line earlier. -/
theorem left_before_write (run : (ofCalls setup stream calls).RunIn isolated history world) :
    history.visits.Pairwise fun first second =>
      second.passage.written ≠ [] → first.passage.stage = .gone := by
  obtain ⟨ledger, booked, -⟩ := booked_of_calls run
  have nothing : ∀ visit ∈ ledger.line, visit.passage.written = [] :=
    fun visit member => Ledger.nothing_written booked member
  rw [booked.visits, Ledger.visits, List.pairwise_append, List.pairwise_append]
  refine ⟨⟨?_, ?_, ?_⟩, ?_, ?_⟩
  · exact List.Pairwise.imp_of_mem (fun member _ _ _ => booked.past _ member)
      (List.pairwise_of_forall fun _ _ => trivial)
  · cases ledger.held with
    | none => exact .nil
    | some visit => exact List.pairwise_singleton _ _
  · exact fun first member _ _ _ => booked.past first member
  · exact List.Pairwise.imp_of_mem (fun _ member _ some => absurd (nothing _ member) some)
      (List.pairwise_of_forall fun _ _ => trivial)
  · exact fun _ _ second member some => absurd (nothing second member) some

/-- At any time the wire carries what the calls have written, one after the other,
and each of them a part of its own frame. A sender is told success only if it has
written all of it. But whoever comes into the gate may write unless the writer has
been taken; that an earlier frame was left unfinished keeps nobody out. Only where
nothing is written behind unfinished frames are there whole frames and at most one
unfinished frame at the end. -/
theorem wire_of_calls (run : (ofCalls setup stream calls).RunIn isolated history world) :
    world.hub.stream.written = stream.written ++ history.visits.flatMap (·.passage.written) ∧
    (∀ visit ∈ history.visits, visit.passage.written <+: visit.passage.content ∧
      ∃ call, calls[visit.actor]? = some call ∧ call.Carries visit.passage.content) ∧
    (history.visits.map Visit.actor).Nodup ∧
    (history.visits.Pairwise fun first second => first.place < second.place) ∧
    (history.visits.Pairwise fun first second =>
      second.passage.written ≠ [] → first.passage.stage = .gone) ∧
    (∀ id status, ⟨id, .report id (.sent (.ok status)), some ()⟩ ∈ history →
      ∃ visit ∈ history.visits, visit.actor = id ∧ visit.passage.stage = .gone ∧
        visit.passage.status = status ∧
        (status = .success → visit.passage.written = visit.passage.content)) ∧
    (∀ place actor hasWriter, history[place]? = some ⟨actor, .enterGate, some hasWriter⟩ →
      (hasWriter = true ↔ ∀ earlier ∈ history.take place, earlier.action ≠ .takeWriter)) ∧
    (history.HalfFramesLast → ∃ (whole : List Bytes) (rest : Bytes),
      world.hub.stream.written = stream.written ++ whole.flatten ++ rest ∧
      (∀ frame ∈ whole, ∃ visit ∈ history.visits, frame = visit.passage.content) ∧
      (rest = [] ∨ ∃ visit ∈ history.visits, rest <+: visit.passage.content)) := by
  obtain ⟨ledger, booked, account⟩ := booked_of_calls run
  have wire : world.hub.stream.written =
      stream.written ++ history.visits.flatMap (·.passage.written) := by
    rw [booked.visits]
    exact account.wire
  have parts : ∀ visit ∈ history.visits, visit.passage.written <+: visit.passage.content :=
    fun visit member => (sound_of_visit run member).part
  have exclusive := left_before_write run
  refine ⟨wire, fun visit member => ⟨parts visit member, carries_of_visit run member⟩,
    actors_nodup run, history.visits_in_order, exclusive, fun id status => visit_of_report run,
    fun place actor hasWriter found => ?_, fun halfLast => ?_⟩
  · obtain ⟨-, before, earlier, effect, member, reply⟩ := permitted_of_calls run found
    simp only [Action.effects] at member
    split at member
    · obtain rfl := List.mem_singleton.mp member
      rw [← Option.some.inj reply]
      exact writer_of_calls earlier
    · cases member
  · have last : history.visits.Pairwise fun first second =>
        first.IsCut → second.passage.written = [] := by
      refine (halfLast.and exclusive).imp fun both cut => ?_
      exact Classical.byContradiction fun some => some (both.1 (both.2 some) cut)
    obtain ⟨whole, rest, joined, frames, behind⟩ := whole_then_rest parts last
    exact ⟨whole, rest, by rw [wire, joined, List.append_assoc], frames, behind⟩

def faultyStream : Stream :=
  { writing := { cues := [.accept 3, .fail ⟨.other "Other", "scripted"⟩] } }

/-- Two calls on it. The first one ends before the second one begins. -/
def cutShort : History × World :=
  play [0, 0, 0, 0, 0, 0, 0, 0, 1, 1, 1, 1, 1, 1, 1, 1]
    ([], ofCalls {} faultyStream [.send (.text "hello"), .send (.text "x")])

theorem run_cut_short :
    (ofCalls {} faultyStream [.send (.text "hello"), .send (.text "x")]).RunIn isolated cutShort.1
      cutShort.2 :=
  run_in_of_play _ .refl

theorem wire_of_calls_cut_short :
    cutShort.2.hub.stream.written = cutShort.1.visits.flatMap (·.passage.written) ∧
    (∃ visit ∈ cutShort.1.visits, visit.actor = 0 ∧ visit.passage.status = .error) ∧
    ∃ visit ∈ cutShort.1.visits, visit.actor = 1 ∧ visit.passage.written = visit.passage.content := by
  obtain ⟨wire, -, -, -, -, reports, -⟩ := wire_of_calls run_cut_short
  have failed : cutShort.1[7]? = some ⟨0, .report 0 (.sent (.ok .error)), some ()⟩ := rfl
  have sent : cutShort.1[15]? = some ⟨1, .report 1 (.sent (.ok .success)), some ()⟩ := rfl
  obtain ⟨first, member, own, -, status, -⟩ := reports 0 .error (List.mem_of_getElem? failed)
  obtain ⟨second, memberToo, ownToo, -, -, whole⟩ := reports 1 .success (List.mem_of_getElem? sent)
  exact ⟨wire, ⟨first, member, own, status⟩, second, memberToo, ownToo, whole rfl⟩

/-- The first send has failed with three bytes written, and the frame of the second
one follows these. -/
theorem not_half_frames_last :
    ∃ (stream : Stream) (calls : List GateCall) (history : History) (world : World),
      (ofCalls {} stream calls).RunIn isolated history world ∧ ¬history.HalfFramesLast ∧
      world.hub.stream.written =
        ((Frame.text "hello").serialize (some ⟨0, 0, 0, 0⟩)).take 3 ++
          (Frame.text "x").serialize (some ⟨0, 0, 0, 0⟩) := by
  refine ⟨_, _, cutShort.1, cutShort.2, run_cut_short, fun last => ?_, rfl⟩
  have behind := (List.pairwise_cons.mp last).1 _ List.mem_cons_self rfl
  exact absurd (behind ⟨by decide, by decide⟩) (by decide)

end World

end WebSocket
