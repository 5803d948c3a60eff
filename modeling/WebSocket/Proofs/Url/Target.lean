import WebSocket.Proofs.Handshake.Writing
import WebSocket.Url.Parse

/-!
What a URL asks for never breaks the line that it is written on: a path and a query are made of
encoded characters, of slashes and of drive letters, whatever text the URL was read of.
-/

namespace WebSocket

namespace Text

def IsUnbroken (text : List Char) : Prop := ∀ character ∈ text, isLineBreak character = false

theorem no_break_of_ne {character : Char} (noReturn : character ≠ '\r') (noFeed : character ≠ '\n') :
    isLineBreak character = false := by
  rw [isLineBreak, beq_eq_false_iff_ne.mpr noReturn, beq_eq_false_iff_ne.mpr noFeed, Bool.or_false]

theorem unbroken_nil : IsUnbroken [] := nofun

theorem unbroken_append {first second : List Char} (before : IsUnbroken first) (after : IsUnbroken second) :
    IsUnbroken (first ++ second) :=
  fun character found => (List.mem_append.mp found).elim (before character) (after character)

theorem one_line_iff_unbroken (text : String) : IsOneLine text ↔ IsUnbroken text.toList := by
  rw [IsOneLine, List.any_eq_false]
  simp only [Bool.not_eq_true, IsUnbroken]

theorem not_mem_of_one_line {text : String} {mark : Char} (oneLine : IsOneLine text)
    (breaks : isLineBreak mark = true) : mark ∉ text.toList := by
  intro found
  have unbroken : isLineBreak mark = false := (one_line_iff_unbroken text).mp oneLine mark found
  exact Bool.false_ne_true (unbroken.symm.trans breaks)

theorem one_line_iff_of_no_feed {text : String} (noFeed : '\n' ∉ text.toList) :
    IsOneLine text ↔ '\r' ∉ text.toList := by
  refine ⟨fun oneLine => not_mem_of_one_line oneLine rfl, fun noReturn => ?_⟩
  rw [one_line_iff_unbroken]
  intro character found
  refine no_break_of_ne ?_ ?_
  · rintro rfl
    exact noReturn found
  · rintro rfl
    exact noFeed found

theorem one_line_of_unbroken {text : List Char} (unbroken : IsUnbroken text) :
    IsOneLine (String.ofList text) := by
  rw [one_line_iff_unbroken, String.toList_ofList]
  exact unbroken

theorem unbroken_intercalate {between : List Char} {pieces : List (List Char)}
    (joins : IsUnbroken between) (unbroken : ∀ piece ∈ pieces, IsUnbroken piece) :
    IsUnbroken (between.intercalate pieces) := by
  induction pieces with
  | nil => exact unbroken_nil
  | cons piece rest induction =>
      obtain ⟨first, others⟩ := List.forall_mem_cons.mp unbroken
      cases rest with
      | nil => rwa [List.intercalate_singleton]
      | cons second rest =>
          rw [List.intercalate_cons_cons]
          exact unbroken_append (unbroken_append first joins) (induction others)

end Text

namespace Percent

theorem unbroken_encode_char (set : EncodeSet) (character : Char) :
    Text.IsUnbroken (encodeChar set character) := by
  have digits : ∀ value : Fin 16, isLineBreak (hexDigit value.val) = false := by decide
  rw [encodeChar]
  split
  · intro written found
    obtain ⟨byte, -, among⟩ := List.mem_flatMap.mp found
    have small : byte.toNat < 256 := byte.toNat_lt
    simp only [List.mem_cons, List.not_mem_nil, or_false] at among
    rcases among with rfl | rfl | rfl
    · rfl
    · exact digits ⟨byte.toNat / 16, by omega⟩
    · exact digits ⟨byte.toNat % 16, by omega⟩
  · rename_i kept
    intro written found
    obtain rfl := List.mem_singleton.mp found
    -- a line break is a control character, and none of these is kept
    refine Text.no_break_of_ne ?_ ?_ <;>
    · rintro rfl
      exact kept rfl

theorem unbroken_encode (set : EncodeSet) (text : List Char) : Text.IsUnbroken (encode set text) := by
  intro written found
  obtain ⟨character, -, among⟩ := List.mem_flatMap.mp found
  exact unbroken_encode_char set character written among

end Percent

namespace Url

theorem mem_of_mem_shorten {kind : SchemeKind} {segments : List (List Char)} {segment : List Char}
    (found : segment ∈ shorten kind segments) : segment ∈ segments := by
  unfold shorten at found
  split at found
  · split at found
    · exact found
    · cases found
  · exact (List.dropLast_sublist segments).subset found

theorem unbroken_drive_letter {segment : List Char} (drive : isDriveLetter segment = true) :
    Text.IsUnbroken (segment.take 1 ++ [':']) := by
  unfold isDriveLetter at drive
  split at drive
  · rename_i letter mark
    have alphabetic : letter.isAlpha = true := (Bool.and_eq_true_iff.mp drive).1
    have unbroken : isLineBreak letter = false := by
      refine Text.no_break_of_ne ?_ ?_ <;>
      · rintro rfl
        cases alphabetic
    exact List.forall_mem_cons.mpr ⟨unbroken, List.forall_mem_singleton.mpr rfl⟩
  · cases drive

section

variable {kind : SchemeKind}

theorem unbroken_resolve_segments {resolved : List (List Char)} (segments : List (List Char))
    (unbroken : ∀ segment ∈ resolved, Text.IsUnbroken segment) :
    ∀ segment ∈ resolveSegments kind resolved segments, Text.IsUnbroken segment := by
  induction segments generalizing resolved with
  | nil => exact unbroken
  | cons segment rest induction =>
      have ended : ∀ last ∈ (if rest.isEmpty then [[]] else []), Text.IsUnbroken last := by
        intro last found
        split at found
        · exact List.mem_singleton.mp found ▸ Text.unbroken_nil
        · cases found
      unfold resolveSegments
      dsimp only
      split
      · refine induction (List.forall_mem_append.mpr ⟨?_, ended⟩)
        exact fun kept found => unbroken kept (mem_of_mem_shorten found)
      · split
        · exact induction (List.forall_mem_append.mpr ⟨unbroken, ended⟩)
        · split
          · rename_i drive
            have isDrive : isDriveLetter segment = true := (Bool.and_eq_true_iff.mp drive).2
            exact induction (List.forall_mem_singleton.mpr (unbroken_drive_letter isDrive))
          · have encoded := Percent.unbroken_encode Percent.pathSet segment
            exact induction (List.forall_mem_append.mpr
              ⟨unbroken, List.forall_mem_singleton.mpr encoded⟩)

theorem one_line_render_segments {segments : List (List Char)}
    (unbroken : ∀ segment ∈ segments, Text.IsUnbroken segment) :
    IsOneLine (renderSegments kind segments) := by
  have slash : Text.IsUnbroken ['/'] := List.forall_mem_singleton.mpr rfl
  have joined := Text.unbroken_intercalate slash unbroken
  refine Text.one_line_of_unbroken (List.forall_mem_cons.mpr ⟨rfl, ?_⟩)
  split
  · exact fun character found => joined character ((List.dropWhile_sublist _).subset found)
  · exact joined

theorem one_line_parse_path (text : List Char) : IsOneLine (parsePath kind text) := by
  have resolved (segments : List (List Char)) :
      IsOneLine (renderSegments kind (resolveSegments kind [] segments)) :=
    one_line_render_segments (unbroken_resolve_segments segments nofun)
  unfold parsePath
  split
  · rfl
  · exact resolved _
  · exact resolved _

theorem one_line_parse_suffix (text : List Char) :
    ∀ query ∈ (parseSuffix kind text).1, IsOneLine query := by
  intro query found
  unfold parseSuffix at found
  dsimp only at found
  generalize (breakAt (· == '#') text).1 = marked at found
  cases marked with
  | nil => cases found
  | cons mark content =>
      obtain rfl := Option.some.inj found
      exact Text.one_line_of_unbroken (Percent.unbroken_encode _ content)

end

structure HasOneLineTarget (url : Url) : Prop where
  path : IsOneLine url.path
  query : ∀ query ∈ url.query, IsOneLine query

section

variable {scheme : String} {text : List Char} {url : Url}

theorem one_line_target_of_authority {kind : SchemeKind}
    (parsed : parseAuthority scheme kind text = .ok url) : url.HasOneLineTarget := by
  unfold parseAuthority at parsed
  dsimp only at parsed
  split at parsed
  · cases parsed
  obtain ⟨host, -, parsed⟩ := ok_of_bind parsed
  split at parsed
  · cases parsed
  obtain ⟨⟨port, left⟩, -, parsed⟩ := ok_of_bind parsed
  cases parsed
  exact ⟨one_line_parse_path _, one_line_parse_suffix _⟩

theorem one_line_target_of_file (parsed : parseFile scheme text = .ok url) : url.HasOneLineTarget := by
  unfold parseFile at parsed
  split at parsed
  dsimp only at parsed
  split at parsed
  all_goals
    obtain ⟨host, -, parsed⟩ := ok_of_bind parsed
    cases parsed
    exact ⟨one_line_parse_path _, one_line_parse_suffix _⟩

theorem one_line_target_of_rootless (scheme : String) (text : List Char) :
    (parseRootless scheme text).HasOneLineTarget := by
  refine ⟨?_, one_line_parse_suffix _⟩
  unfold parseRootless
  dsimp only
  split
  · exact one_line_parse_path _
  · exact Text.one_line_of_unbroken (Percent.unbroken_encode [] _)

end

theorem one_line_target_of_parse {text : String} {url : Url} (parsed : parse text = .ok url) :
    url.HasOneLineTarget := by
  unfold parse at parsed
  dsimp only at parsed
  split at parsed
  · cases parsed
  · split at parsed
    · exact one_line_target_of_file parsed
    · exact one_line_target_of_authority parsed
    · exact one_line_target_of_authority parsed
    · cases parsed
      exact one_line_target_of_rootless _ _

theorem one_line_target {url : Url} (oneLine : url.HasOneLineTarget) : IsOneLine (Request.target url) := by
  have path : IsOneLine (if url.path = "" then "/" else url.path) := by
    split
    · rfl
    · exact oneLine.path
  unfold Request.target
  dsimp only
  split
  · rename_i query present
    rw [one_line_append_iff, one_line_append_iff]
    exact ⟨⟨path, rfl⟩, oneLine.query query present⟩
  · exact path

end Url

end WebSocket
