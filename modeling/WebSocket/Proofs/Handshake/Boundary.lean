import WebSocket.Handshake.Head

/-!
Where a head ends: behind the first empty line, wherever the bytes before it or behind it
come from.
-/

namespace WebSocket.Head

/-- At this position an empty line, and the line break before it, have just ended. -/
def EndsAt (bytes : Bytes) (position : Nat) : Prop :=
  ∃ lines, lines ++ [13, 10, 13, 10] <+: bytes ∧ lines.length + 4 = position

structure FirstEndsAt (bytes : Bytes) (position : Nat) : Prop where
  ends : EndsAt bytes position
  least : ∀ other, EndsAt bytes other → position ≤ other

theorem FirstEndsAt.unique {bytes : Bytes} {position other : Nat}
    (isFirst : FirstEndsAt bytes position) (isFirstToo : FirstEndsAt bytes other) :
    position = other :=
  Nat.le_antisymm (isFirst.least other isFirstToo.ends) (isFirstToo.least position isFirst.ends)

theorem ends_at_cons_iff {byte : Byte} {rest : Bytes} {position : Nat} :
    EndsAt (byte :: rest) position ↔
      ([13, 10, 13, 10] <+: byte :: rest ∧ position = 4) ∨
        ∃ before, EndsAt rest before ∧ position = before + 1 := by
  constructor
  · rintro ⟨lines, begins, rfl⟩
    cases lines with
    | nil => exact .inl ⟨begins, rfl⟩
    | cons first lines =>
        obtain ⟨-, begins⟩ := List.cons_prefix_cons.mp begins
        exact .inr ⟨_, ⟨lines, begins, rfl⟩, rfl⟩
  · rintro (⟨begins, rfl⟩ | ⟨before, ⟨lines, begins, rfl⟩, rfl⟩)
    · exact ⟨[], begins, rfl⟩
    · exact ⟨byte :: lines, List.cons_prefix_cons.mpr ⟨rfl, begins⟩, by simp⟩

theorem length_of_ends_at {bytes : Bytes} {position : Nat} (ends : EndsAt bytes position) :
    4 ≤ position ∧ position ≤ bytes.length := by
  obtain ⟨lines, begins, rfl⟩ := ends
  have shorter := begins.length_le
  simp only [List.length_append, List.length_cons, List.length_nil] at shorter
  omega

theorem ends_at_append_iff {first : Bytes} {position : Nat} (within : position ≤ first.length)
    (later : Bytes) : EndsAt (first ++ later) position ↔ EndsAt first position := by
  constructor
  · rintro ⟨lines, begins, rfl⟩
    refine ⟨lines, List.prefix_of_prefix_length_le begins (List.prefix_append ..) ?_, rfl⟩
    simpa using within
  · rintro ⟨lines, begins, rfl⟩
    exact ⟨lines, begins.trans (List.prefix_append ..), rfl⟩

theorem end_of_other {byte : Byte} {rest : Bytes}
    (other : ¬[13, 10, 13, 10] <+: byte :: rest) : end? (byte :: rest) = (end? rest).map (· + 1) := by
  rw [end?]
  rintro tail rfl rfl
  exact other (List.prefix_append [13, 10, 13, 10] tail)

/-- The search finds the first empty line, and finds nothing only where there is none. -/
theorem end_spec (bytes : Bytes) :
    (∃ position, end? bytes = some position ∧ FirstEndsAt bytes position) ∨
      (end? bytes = none ∧ ∀ position, ¬EndsAt bytes position) := by
  induction bytes with
  | nil =>
      refine .inr ⟨rfl, fun position ends => ?_⟩
      have bounds := length_of_ends_at ends
      simp only [List.length_nil] at bounds
      omega
  | cons byte rest induction =>
      by_cases begins : [13, 10, 13, 10] <+: byte :: rest
      · obtain ⟨tail, whole⟩ := begins
        refine .inl ⟨4, ?_, ?_, fun other ends => (length_of_ends_at ends).1⟩
        · rw [← whole]
          rfl
        · exact ends_at_cons_iff.mpr (.inl ⟨⟨tail, whole⟩, rfl⟩)
      · rw [end_of_other begins]
        have later {position : Nat} (ends : EndsAt (byte :: rest) position) :
            ∃ before, EndsAt rest before ∧ position = before + 1 :=
          (ends_at_cons_iff.mp ends).resolve_left fun ⟨here, _⟩ => begins here
        rcases induction with ⟨position, found, ends, least⟩ | ⟨found, nowhere⟩
        · rw [found]
          refine .inl ⟨position + 1, rfl, ends_at_cons_iff.mpr (.inr ⟨position, ends, rfl⟩), ?_⟩
          intro other otherEnds
          obtain ⟨before, inRest, rfl⟩ := later otherEnds
          exact Nat.succ_le_succ (least before inRest)
        · rw [found]
          refine .inr ⟨rfl, fun position ends => ?_⟩
          obtain ⟨before, inRest, -⟩ := later ends
          exact nowhere before inRest

theorem end_eq_some_iff {bytes : Bytes} {position : Nat} :
    Head.end? bytes = some position ↔ FirstEndsAt bytes position := by
  rcases end_spec bytes with ⟨first, found, isFirst⟩ | ⟨found, nowhere⟩
  · rw [found, Option.some.injEq]
    constructor
    · rintro rfl
      exact isFirst
    · intro isFirstToo
      exact isFirst.unique isFirstToo
  · rw [found]
    exact iff_of_false nofun fun other => nowhere position other.ends

theorem end_eq_none_iff {bytes : Bytes} :
    Head.end? bytes = none ↔ ∀ position, ¬EndsAt bytes position := by
  rcases end_spec bytes with ⟨first, found, isFirst⟩ | ⟨found, nowhere⟩
  · rw [found]
    exact iff_of_false nofun fun nowhere => nowhere first isFirst.ends
  · exact iff_of_true found nowhere

theorem FirstEndsAt.append {first : Bytes} {position : Nat} (isFirst : FirstEndsAt first position)
    (later : Bytes) : FirstEndsAt (first ++ later) position := by
  have within := (length_of_ends_at isFirst.ends).2
  refine ⟨(ends_at_append_iff within later).mpr isFirst.ends, fun other ends => ?_⟩
  by_cases inFirst : other ≤ first.length
  · exact isFirst.least other ((ends_at_append_iff inFirst later).mp ends)
  · omega

theorem length_lt_of_ends_at {first later : Bytes} {position : Nat}
    (missing : Head.end? first = none) (ends : EndsAt (first ++ later) position) :
    first.length < position := by
  apply Nat.lt_of_not_le
  intro within
  exact end_eq_none_iff.mp missing position ((ends_at_append_iff within later).mp ends)

end WebSocket.Head
