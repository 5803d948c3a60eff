import Mathlib.Data.List.Basic
import WebSocket.Proofs.Text.Encoding
import WebSocket.Text.Lossy

/-!
Where a text may be cut. A text is cut behind a whole character, and stepping back from
any offset finds the last such place in front of it.
-/

namespace WebSocket.Utf8

/-- Whether the offset is one of the two ends, or a character begins there. -/
def isBoundary (bytes : Bytes) (offset : Nat) : Bool :=
  offset == 0 || (bytes[offset]?.map fun byte => !isContinuation byte).getD (offset == bytes.length)

/-- Steps back from the offset to a boundary; nothing if that leads below zero. -/
def stepBack (bytes : Bytes) : (offset : Nat) → Option Nat
  | 0 => if isBoundary bytes 0 then some 0 else none
  | offset + 1 => if isBoundary bytes (offset + 1) then some (offset + 1) else stepBack bytes offset

def bytesOf (characters : List Char) : Bytes := characters.flatMap String.utf8EncodeChar

theorem bytes_of_append (first second : List Char) :
    bytesOf (first ++ second) = bytesOf first ++ bytesOf second := by
  simp [bytesOf]

theorem bytes_of_cons (character : Char) (rest : List Char) :
    bytesOf (character :: rest) = String.utf8EncodeChar character ++ bytesOf rest := by
  simp [bytesOf]

theorem length_bytes_of {front characters : List Char} (part : front <+: characters) :
    (bytesOf front).length ≤ (bytesOf characters).length := by
  obtain ⟨rest, rfl⟩ := part
  rw [bytes_of_append, List.length_append]
  exact Nat.le_add_right _ _

theorem is_continuation_of_char {character : Char} {offset : Nat} {byte : Byte}
    (found : (String.utf8EncodeChar character)[offset]? = some byte) :
    isContinuation byte = decide (offset ≠ 0) := by
  have small : character.val.toNat < 0x110000 := by
    have valid := character.valid
    rcases valid with low | high
    · exact Nat.lt_trans low (by decide)
    · exact high.2
  have inside : isContinuation byte = decide (128 ≤ byte.toNat ∧ byte.toNat < 192) := by
    rw [isContinuation, Bool.decide_and]
    congr 1
    exact decide_eq_decide.mpr Nat.lt_succ_iff.symm
  rw [inside, decide_eq_decide]
  revert found
  match offset with
  | 0 =>
      fun_cases String.utf8EncodeChar character <;> intro found <;>
        simp only [List.getElem?_cons_zero, Option.some.injEq] at found <;>
        simp only [← found, UInt8.toNat_ofNat', ne_eq, not_true_eq_false, iff_false] <;> omega
  | 1 | 2 | 3 =>
      fun_cases String.utf8EncodeChar character <;> intro found <;>
        simp only [List.getElem?_cons_succ, List.getElem?_cons_zero, List.getElem?_nil,
          Option.some.injEq, reduceCtorEq] at found <;>
        simp only [← found, UInt8.toNat_ofNat'] <;> omega
  | offset + 4 => fun_cases String.utf8EncodeChar character <;> simp

theorem is_boundary_iff (characters : List Char) (offset : Nat) :
    isBoundary (bytesOf characters) offset = true ↔
      ∃ front, front <+: characters ∧ (bytesOf front).length = offset := by
  constructor
  · intro boundary
    induction characters generalizing offset with
    | nil =>
        have start : offset = 0 := by simpa [isBoundary, bytesOf] using boundary
        exact ⟨[], List.nil_prefix, start.symm⟩
    | cons character rest induction =>
        by_cases start : offset = 0
        · exact ⟨[], List.nil_prefix, start.symm⟩
        by_cases inside : offset < (String.utf8EncodeChar character).length
        · have found := List.getElem?_eq_getElem inside
          have continued := is_continuation_of_char found
          rw [isBoundary, bytes_of_cons, List.getElem?_append_left inside, found] at boundary
          simp [continued, start] at boundary
        · obtain ⟨later, rfl⟩ := Nat.exists_eq_add_of_le (Nat.le_of_not_lt inside)
          have behind : isBoundary (bytesOf rest) later = true := by
            have size := character.utf8Size_pos
            rw [isBoundary, bytes_of_cons, List.getElem?_append_right (Nat.le_add_right _ _)] at boundary
            rw [isBoundary]
            cases found : (bytesOf rest)[later]? with
            | none =>
                simp [found, Nat.ne_of_gt size] at boundary
                simp [boundary]
            | some byte =>
                simp [found, Nat.ne_of_gt size] at boundary
                simp [boundary]
          obtain ⟨front, part, length⟩ := induction _ behind
          refine ⟨character :: front, List.cons_prefix_cons.mpr ⟨rfl, part⟩, ?_⟩
          rw [bytes_of_cons, List.length_append, length]
  · rintro ⟨front, ⟨rest, rfl⟩, rfl⟩
    rw [bytes_of_append]
    cases rest with
    | nil => simp [isBoundary, bytesOf]
    | cons character rest =>
        have first : 0 < (String.utf8EncodeChar character).length := by
          rw [String.length_utf8EncodeChar]
          exact character.utf8Size_pos
        have continued := is_continuation_of_char (List.getElem?_eq_getElem first)
        simp [isBoundary, bytes_of_cons, List.getElem?_append_right, List.getElem?_append_left first,
          List.getElem?_eq_getElem first, continued]

theorem step_back_eq_some {bytes : Bytes} {start last : Nat} (within : last ≤ start)
    (boundary : isBoundary bytes last = true)
    (latest : ∀ offset, offset ≤ start → isBoundary bytes offset = true → offset ≤ last) :
    stepBack bytes start = some last := by
  induction start with
  | zero =>
      obtain rfl : last = 0 := Nat.le_zero.mp within
      simp [stepBack, boundary]
  | succ start induction =>
      rw [stepBack]
      split
      · rename_i here
        have passed := latest (start + 1) (Nat.le_refl _) here
        rw [Nat.le_antisymm passed within]
      · rename_i elsewhere
        have earlier : last ≠ start + 1 := by
          rintro rfl
          exact elsewhere boundary
        apply induction (by omega)
        intro offset before
        exact latest offset (by omega)

theorem fitting_begins (room : Nat) (characters : List Char) : fitting room characters <+: characters := by
  induction characters generalizing room with
  | nil => simp [fitting]
  | cons character rest induction =>
      rw [fitting]
      split
      · exact List.cons_prefix_cons.mpr ⟨rfl, induction _⟩
      · exact List.nil_prefix

theorem prefix_fitting {room : Nat} {front characters : List Char} (part : front <+: characters)
    (fits : (bytesOf front).length ≤ room) : front <+: fitting room characters := by
  induction front generalizing room characters with
  | nil => exact List.nil_prefix
  | cons character front induction =>
      obtain ⟨rest, rfl⟩ := part
      rw [bytes_of_cons, List.length_append, String.length_utf8EncodeChar] at fits
      rw [List.cons_append, fitting, if_pos (by omega)]
      exact List.cons_prefix_cons.mpr ⟨rfl, induction (List.prefix_append _ _) (by omega)⟩

theorem step_back_cut (room : Nat) (text : String) :
    stepBack (encode text) (min (encode text).length room) = some (encode (cut room text)).length := by
  have whole : encode text = bytesOf text.toList := encode_eq_flat_map text
  have kept : encode (cut room text) = bytesOf (fitting room text.toList) := by
    rw [encode_eq_flat_map, cut, String.toList_ofList]
    rfl
  have part := fitting_begins room text.toList
  have shorter : (encode (cut room text)).length ≤ (encode text).length := by
    rw [whole, kept]
    exact length_bytes_of part
  apply step_back_eq_some
  · exact Nat.le_min.mpr ⟨shorter, encode_cut_length room text⟩
  · rw [whole, kept, is_boundary_iff]
    exact ⟨_, part, rfl⟩
  · intro offset within boundary
    rw [whole, is_boundary_iff] at boundary
    obtain ⟨front, begins, rfl⟩ := boundary
    rw [kept]
    exact length_bytes_of (prefix_fitting begins (Nat.le_trans within (Nat.min_le_right _ _)))

theorem take_cut (room : Nat) (text : String) :
    (encode text).take (encode (cut room text)).length = encode (cut room text) := by
  obtain ⟨rest, same⟩ := fitting_begins room text.toList
  have whole : encode text = encode (cut room text) ++ bytesOf rest := by
    calc encode text = bytesOf (fitting room text.toList ++ rest) := by
          rw [same]
          exact encode_eq_flat_map text
      _ = encode (cut room text) ++ bytesOf rest := by
          rw [bytes_of_append, encode_eq_flat_map, cut, String.toList_ofList]
          rfl
  rw [whole, List.take_left]

/-- The text that is kept is a beginning of the text, and all beginnings that fit are part of it. -/
theorem longest_cut (room : Nat) (text : String) :
    (cut room text).toList <+: text.toList ∧ (encode (cut room text)).length ≤ room ∧
      ∀ front : String, front.toList <+: text.toList → (encode front).length ≤ room →
        front.toList <+: (cut room text).toList := by
  rw [cut, String.toList_ofList]
  refine ⟨fitting_begins room text.toList, encode_cut_length room text, ?_⟩
  intro front begins fits
  apply prefix_fitting begins
  rwa [encode_eq_flat_map] at fits

/-- A character of two bytes that would end behind the room is left out as a whole. -/
example : stepBack (encode (String.ofList (List.replicate 3 'é'))) 5 = some 4 := by decide

theorem cut_of_fits {room : Nat} {text : String} (fits : (encode text).length ≤ room) :
    cut room text = text := by
  rw [encode_eq_flat_map] at fits
  have all := prefix_fitting (List.prefix_refl text.toList) fits
  have same := List.IsPrefix.eq_of_length_le (fitting_begins room text.toList) all.length_le
  rw [cut, same, String.ofList_toList]

end WebSocket.Utf8
