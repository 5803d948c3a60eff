import WebSocket.Transport.Stream

/-!
Sides of a stream that keep their callers waiting but never fail them. Every
write to such a side takes at least one byte.
-/

namespace WebSocket

def Cue.isFailing : Cue → Bool
  | fail _ | broken _ => true
  | accept count => count == 0
  | wait _ | hang | data _ | eof => false

namespace Side

/-- No call to the side fails, though it may take its time. -/
def Works (side : Side) : Prop := ∀ cue ∈ side.cues, cue.isFailing = false

theorem waiting_of_turn {side next : Side} {now : Nat} (turned : side.turn now = .waiting next) :
    ∃ milliseconds rest, side.cues = .wait milliseconds :: rest ∧ next.cues = rest ∧
      next.idles = side.idles := by
  unfold turn at turned
  split at turned
  · cases turned
  · split at turned
    · split at turned <;> cases turned
    · rename_i milliseconds rest cues
      cases turned
      exact ⟨milliseconds, rest, cues, rfl, rfl⟩
    · cases turned
    · cases turned
    · cases turned

theorem plays_of_turn {side next : Side} {now : Nat} {cue : Option Cue}
    (turned : side.turn now = .plays cue next) :
    (side.cues = [] ∧ side.idles = false ∧ cue = none ∧ next = side) ∨
      (∃ failure rest, side.cues = .broken failure :: rest) ∨
      ∃ played, cue = some played ∧ side.cues = played :: next.cues ∧ next.idles = side.idles := by
  unfold turn at turned
  split at turned
  · cases turned
  · split at turned
    · rename_i cues
      split at turned
      · cases turned
      · rename_i idles
        cases turned
        exact .inl ⟨cues, by simpa using idles, rfl, rfl⟩
    · cases turned
    · cases turned
    · rename_i failure rest cues
      exact .inr (.inl ⟨failure, rest, cues⟩)
    · rename_i played rest _ _ _ cues
      cases turned
      exact .inr (.inr ⟨played, rfl, cues, rfl⟩)

theorem works_of_waiting {side next : Side} {now : Nat} (works : side.Works)
    (turned : side.turn now = .waiting next) : next.Works := by
  obtain ⟨_, rest, cues, remaining, _⟩ := waiting_of_turn turned
  intro cue member
  rw [remaining] at member
  exact works cue (cues ▸ List.mem_cons_of_mem _ member)

theorem works_of_plays {side next : Side} {now : Nat} {cue : Option Cue} (works : side.Works)
    (turned : side.turn now = .plays cue next) :
    next.Works ∧ ∀ played, cue = some played → played.isFailing = false := by
  rcases plays_of_turn turned with ⟨_, _, rfl, rfl⟩ | ⟨failure, rest, cues⟩ | ⟨played, rfl, cues, _⟩
  · exact ⟨works, fun _ absent => nomatch absent⟩
  · have failing := works (.broken failure) (cues ▸ List.mem_cons_self)
    exact absurd failing (by simp [Cue.isFailing])
  · refine ⟨fun cue member => works cue (cues ▸ List.mem_cons_of_mem _ member), ?_⟩
    intro found same
    cases same
    exact works played (cues ▸ List.mem_cons_self)

end Side

namespace Stream

theorem write_works (stream : Stream) {cue : Option Cue} {bytes : Bytes} (offered : bytes ≠ [])
    (works : ∀ played, cue = some played → played.isFailing = false) :
    ∃ count written, stream.write cue bytes = (.done count, { stream with written }) := by
  have positive : 0 < bytes.length := List.length_pos_iff.mpr offered
  have roomy : ∃ count, room cue bytes.length = .ok (count + 1) := by
    unfold room
    split
    · have failing := works _ rfl
      simp [Cue.isFailing] at failing
    · have failing := works _ rfl
      simp only [Cue.isFailing, beq_eq_false_iff_ne, ne_eq] at failing
      exact ⟨_, congrArg Except.ok (Nat.succ_pred_eq_of_pos (by omega)).symm⟩
    · exact ⟨_, congrArg Except.ok (Nat.succ_pred_eq_of_pos positive).symm⟩
  obtain ⟨count, roomy⟩ := roomy
  rw [write, roomy]
  exact ⟨_, _, rfl⟩

theorem flush_works (stream : Stream) {cue : Option Cue}
    (works : ∀ played, cue = some played → played.isFailing = false) :
    ∃ flushes, stream.flush cue = (.done 0, { stream with flushes }) := by
  unfold flush
  split
  · have failing := works _ rfl
    simp [Cue.isFailing] at failing
  · exact ⟨_, rfl⟩

end Stream

end WebSocket
