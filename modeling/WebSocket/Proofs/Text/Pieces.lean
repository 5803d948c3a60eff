import WebSocket.Text.Blank
import WebSocket.Text.Split

/-!
Texts that are put together from pieces and taken apart again. Pieces without a separator in them
come back as they are, what is stripped off around a text does not matter, and a line comes back
without its end.
-/

namespace WebSocket.Text

section

variable {separator : Char} {isSeparator : Char → Bool} {text before after piece : List Char}

theorem split_eq_split_on (separator : Char) (text : List Char) :
    split separator text = text.splitOn separator := by
  induction text with
  | nil => rfl
  | cons character rest induction =>
      rw [List.splitOn_cons_eq_if_modifyHead, ← induction, split]
      by_cases here : character = separator
      · rw [if_pos here, if_pos (beq_iff_eq.mpr here)]
      · rw [if_neg here, if_neg fun same => here (beq_iff_eq.mp same)]
        obtain ⟨piece, pieces, same⟩ : ∃ piece pieces, split separator rest = piece :: pieces :=
          List.exists_cons_of_ne_nil (induction ▸ List.splitOn_ne_nil separator rest)
        rw [same, List.modifyHead_cons]

theorem split_intercalate {pieces : List (List Char)} (filled : pieces ≠ [])
    (whole : ∀ piece ∈ pieces, separator ∉ piece) :
    split separator ([separator].intercalate pieces) = pieces := by
  rw [split_eq_split_on]
  exact List.splitOn_intercalate separator whole filled

theorem intercalate_append (between : List Char) (pieces : List (List Char)) (last behind : List Char) :
    between.intercalate (pieces ++ [last ++ behind]) =
      between.intercalate (pieces ++ [last]) ++ behind := by
  induction pieces with
  | nil => rw [List.nil_append, List.nil_append, List.intercalate_singleton, List.intercalate_singleton]
  | cons piece rest induction =>
      have more (last : List Char) : rest ++ [last] ≠ [] := List.concat_ne_nil last rest
      rw [List.cons_append, List.intercalate_cons_of_ne_nil (more _), induction, List.cons_append,
        List.intercalate_cons_of_ne_nil (more _)]
      simp only [List.append_assoc]

theorem not_mem_of_mem_split (found : piece ∈ split separator text) : separator ∉ piece := by
  induction text generalizing piece with
  | nil =>
      obtain rfl := List.mem_singleton.mp found
      exact List.not_mem_nil
  | cons character rest induction =>
      rw [split] at found
      split at found
      · rcases List.mem_cons.mp found with rfl | found
        · exact List.not_mem_nil
        · exact induction found
      · rename_i other
        split at found
        · obtain rfl := List.mem_singleton.mp found
          exact fun inside => other (List.mem_singleton.mp inside).symm
        · rename_i first pieces same
          rcases List.mem_cons.mp found with rfl | found
          · intro inside
            rcases List.mem_cons.mp inside with here | inside
            · exact other here.symm
            · exact induction (same ▸ List.mem_cons_self) inside
          · exact induction (same ▸ List.mem_cons_of_mem first found)

theorem mem_intercalate {between : List Char} {pieces : List (List Char)} {character : Char}
    (found : piece ∈ pieces) (inside : character ∈ piece) : character ∈ between.intercalate pieces := by
  induction pieces with
  | nil => cases found
  | cons first rest induction =>
      cases rest with
      | nil =>
          obtain rfl := List.mem_singleton.mp found
          rwa [List.intercalate_singleton]
      | cons second rest =>
          rw [List.intercalate_cons_cons]
          rcases List.mem_cons.mp found with rfl | later
          · exact List.mem_append_left _ (List.mem_append_left _ inside)
          · exact List.mem_append_right _ (induction later)

theorem mem_of_mem_split {character : Char} (found : piece ∈ split separator text)
    (inside : character ∈ piece) : character ∈ text := by
  rw [split_eq_split_on] at found
  have joined : [separator].intercalate (text.splitOn separator) = text :=
    List.intercalate_splitOn separator
  exact joined ▸ mem_intercalate found inside

theorem beq_false_of_not_mem {mark : Char} (free : mark ∉ text) :
    ∀ character ∈ text, (character == mark) = false :=
  fun _ found => beq_eq_false_iff_ne.mpr fun same => free (same ▸ found)

theorem split_once_append {mark : Char} (whole : ∀ character ∈ before, isSeparator character = false)
    (marks : isSeparator mark = true) (after : List Char) :
    splitOnce isSeparator (before ++ mark :: after) = some (before, after) := by
  induction before with
  | nil => exact if_pos marks
  | cons character rest induction =>
      obtain ⟨other, others⟩ := List.forall_mem_cons.mp whole
      rw [List.cons_append, splitOnce, other, induction others]
      rfl

theorem split_once_none (whole : ∀ character ∈ text, isSeparator character = false) :
    splitOnce isSeparator text = none := by
  induction text with
  | nil => rfl
  | cons character rest induction =>
      obtain ⟨other, others⟩ := List.forall_mem_cons.mp whole
      rw [splitOnce, other, induction others]
      rfl

theorem eq_of_split_once (cut : splitOnce isSeparator text = some (before, after)) :
    ∃ mark, text = before ++ mark :: after := by
  induction text generalizing before with
  | nil => cases cut
  | cons character rest induction =>
      rw [splitOnce] at cut
      split at cut
      · cases cut
        exact ⟨character, rfl⟩
      · obtain ⟨⟨first, second⟩, found, same⟩ := Option.map_eq_some_iff.mp cut
        cases same
        obtain ⟨mark, same⟩ := induction found
        exact ⟨mark, congrArg (character :: ·) same⟩

theorem mem_of_mem_behind {character : Char}
    (found : character ∈ ((splitOnce isSeparator text).getD (text, [])).2) : character ∈ text := by
  cases cut : splitOnce isSeparator text with
  | none =>
      rw [cut] at found
      cases found
  | some parts =>
      rw [cut] at found
      obtain ⟨mark, same⟩ := eq_of_split_once cut
      rw [same]
      exact List.mem_append_right _ (List.mem_cons_of_mem mark found)

end

section

variable {unwanted : Char → Bool} {front kept behind : List Char}

theorem strip_append_left (all : ∀ character ∈ front, unwanted character = true) (kept : List Char) :
    strip unwanted (front ++ kept) = strip unwanted kept := by
  rw [strip, List.dropWhile_append_of_pos all, strip]

theorem strip_append_right (kept : List Char) (all : ∀ character ∈ behind, unwanted character = true) :
    strip unwanted (kept ++ behind) = strip unwanted kept := by
  have back : ∀ character ∈ behind.reverse, unwanted character = true :=
    fun character found => all character (List.mem_reverse.mp found)
  rw [strip, List.dropWhile_append, strip]
  split
  · rename_i nothing
    have none : behind.dropWhile unwanted = [] := by
      simpa using @List.dropWhile_append_of_pos _ unwanted behind [] all
    rw [none, List.isEmpty_iff.mp nothing]
  · rw [List.reverse_append, List.dropWhile_append_of_pos back]

theorem strip_of_ends (first : ∀ character ∈ kept.head?, unwanted character = false)
    (last : ∀ character ∈ kept.getLast?, unwanted character = false) : strip unwanted kept = kept := by
  have keeps {text : List Char} (first : ∀ character ∈ text.head?, unwanted character = false) :
      text.dropWhile unwanted = text := by
    cases text with
    | nil => rfl
    | cons character rest => rw [List.dropWhile_cons, first character rfl, if_neg Bool.false_ne_true]
  rw [strip, keeps first, keeps (List.head?_reverse ▸ last), List.reverse_reverse]

theorem strip_of_wanted (wanted : ∀ character ∈ kept, unwanted character = false) :
    strip unwanted kept = kept :=
  strip_of_ends (fun _ first => wanted _ (List.mem_of_mem_head? first))
    fun _ last => wanted _ (List.mem_of_getLast? last)

theorem mem_of_mem_strip {character : Char} (found : character ∈ strip unwanted kept) :
    character ∈ kept := by
  have inside := (List.dropWhile_sublist unwanted).subset (List.mem_reverse.mp found)
  exact (List.dropWhile_sublist unwanted).subset (List.mem_reverse.mp inside)

end

section

variable {content line rest : List Char} {more : List (List Char)}

theorem lines_cons {character : Char} (noFeed : character ≠ '\n')
    (noEnd : character = '\r' → rest.head? ≠ some '\n') (behind : lines rest = line :: more) :
    lines (character :: rest) = (character :: line) :: more := by
  rw [lines, behind]
  · exact noFeed
  · rintro later rfl rfl
    exact noEnd rfl rfl

theorem lines_feed (oneLine : '\n' ∉ content) (whole : content.getLast? ≠ some '\r')
    (rest : List Char) : lines (content ++ '\n' :: rest) = content :: lines rest := by
  induction content with
  | nil => rfl
  | cons character content induction =>
      obtain ⟨noFeed, others⟩ := List.ne_and_not_mem_of_not_mem_cons oneLine
      cases content with
      | nil => exact lines_cons noFeed.symm (fun same => absurd (congrArg some same) whole) rfl
      | cons second content =>
          have noEnd : character = '\r' → some second ≠ some '\n' :=
            fun _ same => others (Option.some.inj same ▸ List.mem_cons_self)
          exact lines_cons noFeed.symm noEnd (induction others whole)

theorem lines_return_feed (oneLine : '\n' ∉ content) (rest : List Char) :
    lines (content ++ '\r' :: '\n' :: rest) = content :: lines rest := by
  induction content with
  | nil => rfl
  | cons character content induction =>
      obtain ⟨noFeed, others⟩ := List.ne_and_not_mem_of_not_mem_cons oneLine
      refine lines_cons noFeed.symm (fun _ => ?_) (induction others)
      cases content with
      | nil => nofun
      | cons second content =>
          exact fun same => others (Option.some.inj same ▸ List.mem_cons_self)

/-- The character stands somewhere in the text where it does not belong to the end of a line. -/
def StandsWithin (character : Char) (text : List Char) : Prop :=
  ∃ before behind, text = before ++ character :: behind ∧ character ≠ '\n' ∧
    (character = '\r' → behind.head? ≠ some '\n')

theorem stands_within_append {character : Char} {text : List Char} (front : List Char)
    (stands : StandsWithin character text) : StandsWithin character (front ++ text) := by
  obtain ⟨before, behind, split, kept⟩ := stands
  exact ⟨front ++ before, behind, by rw [split, List.append_assoc], kept⟩

theorem stands_within_of_mem_lines {text : List Char} {character : Char} (found : line ∈ lines text)
    (inside : character ∈ line) : StandsWithin character text := by
  have first {character : Char} {rest : List Char} (noFeed : character ≠ '\n')
      (noEnd : ∀ later, character = '\r' → rest = '\n' :: later → False) :
      StandsWithin character (character :: rest) := by
    refine ⟨[], rest, rfl, noFeed, fun isReturn feeds => ?_⟩
    obtain ⟨later, split⟩ := List.head?_eq_some_iff.mp feeds
    exact noEnd later isReturn split
  fun_induction lines text generalizing line with
  | case1 => cases found
  | case2 rest induction =>
      rcases List.mem_cons.mp found with rfl | found
      · cases inside
      · exact stands_within_append ['\n'] (induction found inside)
  | case3 rest induction =>
      rcases List.mem_cons.mp found with rfl | found
      · cases inside
      · exact stands_within_append ['\r', '\n'] (induction found inside)
  | case4 kept rest noFeed noEnd last induction =>
      obtain rfl := List.mem_singleton.mp found
      obtain rfl := List.mem_singleton.mp inside
      exact first noFeed noEnd
  | case5 kept rest noFeed noEnd begun more behind induction =>
      rw [behind] at induction
      rcases List.mem_cons.mp found with rfl | found
      · rcases List.mem_cons.mp inside with rfl | inside
        · exact first noFeed noEnd
        · exact stands_within_append [kept] (induction List.mem_cons_self inside)
      · exact stands_within_append [kept] (induction (List.mem_cons_of_mem begun found) inside)

end

end WebSocket.Text
