import WebSocket.Handshake.Response
import WebSocket.Proofs.Handshake.Writing
import WebSocket.Proofs.Text.Pieces

/-!
Response heads that are written out and read back. A head is its status line, its header lines and
an empty line; what is read is what was written, whatever the ends of the lines are and whatever
lines without a colon stand among the headers.
-/

namespace WebSocket

/-- A text on one line that neither begins nor ends with a blank. -/
structure IsTrimmedLine (text : String) : Prop where
  oneLine : IsOneLine text
  trimmed : Text.trim text.toList = text.toList

instance (text : String) : Decidable (IsTrimmedLine text) :=
  decidable_of_iff (_ ∧ _) ⟨fun both => ⟨both.1, both.2⟩, fun line => ⟨line.oneLine, line.trimmed⟩⟩

inductive LineEnd where
  | returnFeed
  | feed
  deriving DecidableEq, Repr

namespace LineEnd

def text : LineEnd → String
  | returnFeed => "\r\n"
  | feed => "\n"

/-- A line of this content can have this end: none of it is taken for the end. -/
structure Ends (lineEnd : LineEnd) (content : List Char) : Prop where
  noFeed : '\n' ∉ content
  whole : lineEnd = feed → content.getLast? ≠ some '\r'

instance (lineEnd : LineEnd) (content : List Char) : Decidable (lineEnd.Ends content) :=
  decidable_of_iff (_ ∧ _) ⟨fun both => ⟨both.1, both.2⟩, fun ends => ⟨ends.noFeed, ends.whole⟩⟩

theorem ends_of_one_line {text : String} (oneLine : IsOneLine text) (lineEnd : LineEnd) :
    lineEnd.Ends text.toList := by
  have unbroken {character : Char} (found : character ∈ text.toList) : isLineBreak character = false :=
    Bool.eq_false_iff.mpr (List.any_eq_false.mp oneLine character found)
  exact ⟨fun found => Bool.noConfusion (unbroken found),
    fun _ last => Bool.noConfusion (unbroken (List.mem_of_getLast? last))⟩

theorem lines_ended {lineEnd : LineEnd} {content : List Char} (ends : lineEnd.Ends content)
    (rest : List Char) :
    Text.lines (content ++ lineEnd.text.toList ++ rest) = content :: Text.lines rest := by
  rw [List.append_assoc]
  cases lineEnd with
  | returnFeed => exact Text.lines_return_feed ends.noFeed rest
  | feed => exact Text.lines_feed ends.noFeed (ends.whole rfl) rest

end LineEnd

namespace Response

inductive HeadLine where
  | header (field : HeaderField)
  | other (text : String)
  deriving DecidableEq, Repr

namespace HeadLine

def text : HeadLine → String
  | header field => field.line
  | other text => text

def field? : HeadLine → Option HeaderField
  | header field => some field
  | other _ => none

/-- A field is read as it is meant, or the line is read as none. -/
def IsReadable : HeadLine → LineEnd → Prop
  | header field, _ =>
      IsTrimmedLine field.name ∧ IsTrimmedLine field.value ∧ ':' ∉ field.name.toList
  | other text, lineEnd => text.toList ≠ [] ∧ ':' ∉ text.toList ∧ lineEnd.Ends text.toList

instance (line : HeadLine) (lineEnd : LineEnd) : Decidable (line.IsReadable lineEnd) := by
  cases line <;> exact inferInstanceAs (Decidable (_ ∧ _ ∧ _))

variable {line : HeadLine} {lineEnd : LineEnd}

theorem ends_of_readable (readable : line.IsReadable lineEnd) : lineEnd.Ends line.text.toList := by
  cases line with
  | header field =>
      obtain ⟨name, value, -⟩ := readable
      exact LineEnd.ends_of_one_line (HeaderField.IsOneLine.line ⟨name.oneLine, value.oneLine⟩) _
  | other text => exact readable.2.2

theorem field_to_list (field : HeaderField) :
    field.line.toList = field.name.toList ++ ':' :: ' ' :: field.value.toList := by
  change (field.name ++ ": " ++ field.value).toList = _
  rw [String.toList_append, String.toList_append, List.append_assoc]
  rfl

theorem text_ne_nil (readable : line.IsReadable lineEnd) : line.text.toList ≠ [] := by
  cases line with
  | header field =>
      rw [text, field_to_list]
      exact List.append_ne_nil_of_right_ne_nil _ (List.cons_ne_nil _ _)
  | other text => exact readable.1

theorem parse_field (readable : line.IsReadable lineEnd) :
    parseField line.text.toList = line.field? := by
  cases line with
  | other text =>
      rw [HeadLine.text, parseField, Text.split_once_none (Text.beq_false_of_not_mem readable.2.1)]
      rfl
  | header field =>
      obtain ⟨name, value, colonFree⟩ := readable
      have blank : ∀ character ∈ [' '], Text.isBlank character = true :=
        List.forall_mem_singleton.mpr rfl
      have spaced : Text.trim (' ' :: field.value.toList) = field.value.toList :=
        (Text.strip_append_left blank field.value.toList).trans value.trimmed
      rw [text, field_to_list, parseField, Text.split_once_append (Text.beq_false_of_not_mem colonFree) rfl,
        Option.map_some]
      dsimp only
      rw [name.trimmed, spaced, String.ofList_toList, String.ofList_toList]
      rfl

end HeadLine

theorem digits_of_status (status : UInt16) :
    (toString status).toList = Nat.toDigits 10 status.toNat := Nat.toList_repr

theorem digit_of_mem_status {status : UInt16} {character : Char}
    (found : character ∈ (toString status).toList) : character.isDigit = true :=
  Nat.isDigit_of_mem_toDigits (by decide) (by decide) (digits_of_status status ▸ found)

theorem parse_status (status : UInt16) : parseStatus (toString status).toList = some status := by
  have digits : (toString status).toList.all Char.isDigit = true :=
    List.all_eq_true.mpr fun _ => digit_of_mem_status
  have filled : (toString status).toList.isEmpty = false := by
    rw [digits_of_status]
    exact List.isEmpty_eq_false_iff.mpr Nat.toDigits_ne_nil
  have value : (toString status).toList.foldl
      (fun total digit => total * 10 + (digit.toNat - 48)) 0 = status.toNat := by
    calc _ = Nat.ofDigitChars 10 (Nat.toDigits 10 status.toNat) 0 := by
          simp only [digits_of_status, Nat.ofDigitChars_eq_foldl, Nat.mul_comm]
          rfl
      _ = status.toNat := Nat.ofDigitChars_ten_toDigits
  have unsigned (rest : List Char) (same : (toString status).toList = '+' :: rest) : False := by
    have plus : '+'.isDigit = true := digit_of_mem_status (same ▸ List.mem_cons_self)
    cases plus
  rw [parseStatus]
  · simp only [filled, digits, value, Bool.not_true, Bool.or_false, Bool.false_eq_true, if_false]
    rw [if_pos status.toNat_lt, UInt16.ofNat_toNat]
  · exact unsigned

def statusLine (version : String) (status : UInt16) (reason : String) : String :=
  version ++ " " ++ toString status ++ " " ++ reason

/-- The head as it is written, each line with an end of its own. -/
def head (statusLine : String) (first : LineEnd) (lines : List (HeadLine × LineEnd)) (last : LineEnd) :
    String :=
  statusLine ++ first.text ++ String.join (lines.map fun (line, lineEnd) => line.text ++ lineEnd.text) ++
    last.text

structure IsVersion (version : String) : Prop where
  begins : "HTTP/1.".toList <+: version.toList
  noSpace : ' ' ∉ version.toList
  oneLine : IsOneLine version

instance (version : String) : Decidable (IsVersion version) :=
  decidable_of_iff (_ ∧ _ ∧ _) ⟨fun all => ⟨all.1, all.2.1, all.2.2⟩,
    fun version => ⟨version.begins, version.noSpace, version.oneLine⟩⟩

theorem status_line_to_list (version : String) (status : UInt16) (reason : String) :
    (statusLine version status reason).toList =
      version.toList ++ ' ' :: ((toString status).toList ++ ' ' :: reason.toList) := by
  simp only [statusLine, String.toList_append, List.append_assoc]
  rfl

section

variable {version reason : String} {first last : LineEnd} {lines : List (HeadLine × LineEnd)}

theorem one_line_status_line (spoken : IsVersion version) (status : UInt16) (oneLine : IsOneLine reason) :
    IsOneLine (statusLine version status reason) := by
  have digits : IsOneLine (toString status) := by
    refine List.any_eq_false.mpr fun character found broken => ?_
    have digit := digit_of_mem_status found
    rcases Bool.or_eq_true_iff.mp broken with same | same <;>
      rw [beq_iff_eq.mp same] at digit <;> cases digit
  simp only [statusLine, one_line_append_iff]
  exact ⟨⟨⟨⟨spoken.oneLine, rfl⟩, digits⟩, rfl⟩, oneLine⟩

theorem parse_lines (spoken : IsVersion version) (status : UInt16) (trimmed : IsTrimmedLine reason)
    (rest : List (List Char)) :
    parseLines (statusLine version status reason).toList rest =
      .ok ⟨status, reason, ⟨(rest.takeWhile fun line => !line.isEmpty).filterMap parseField⟩, false⟩ := by
  have noSpace : ' ' ∉ (toString status).toList := fun found => nomatch digit_of_mem_status found
  have begins : "HTTP/1.".toList.isPrefixOf version.toList = true :=
    List.isPrefixOf_iff_prefix.mpr spoken.begins
  have known : ¬(!"HTTP/1.".toList.isPrefixOf version.toList) = true := by rw [begins]; decide
  unfold parseLines
  rw [status_line_to_list, Text.split_once_append (Text.beq_false_of_not_mem spoken.noSpace) rfl,
    Option.getD_some]
  dsimp only
  rw [Text.split_once_append (Text.beq_false_of_not_mem noSpace) rfl, Option.getD_some]
  dsimp only
  rw [if_neg known, parse_status, trimmed.trimmed, String.ofList_toList]

theorem lines_of_head_lines (readable : ∀ line ∈ lines, line.1.IsReadable line.2) (rest : List Char) :
    Text.lines ((String.join (lines.map fun (line, lineEnd) => line.text ++ lineEnd.text)).toList ++ rest) =
      lines.map (fun line => line.1.text.toList) ++ Text.lines rest := by
  induction lines with
  | nil => rfl
  | cons next more induction =>
      obtain ⟨here, others⟩ := List.forall_mem_cons.mp readable
      rw [String.toList_join, List.map_cons, List.flatMap_cons, String.toList_append, List.append_assoc,
        LineEnd.lines_ended (HeadLine.ends_of_readable here), ← String.toList_join, induction others]
      rfl

theorem fields_of_head_lines (readable : ∀ line ∈ lines, line.1.IsReadable line.2) :
    (lines.map fun line => line.1.text.toList).filterMap parseField =
      lines.filterMap fun line => line.1.field? := by
  induction lines with
  | nil => rfl
  | cons next more induction =>
      obtain ⟨here, others⟩ := List.forall_mem_cons.mp readable
      rw [List.map_cons, List.filterMap_cons, HeadLine.parse_field here, List.filterMap_cons,
        induction others]

/-- A head that is written out is read as what it was: the status, the reason, and all headers in
order. The other lines, the ends of the lines and what stands behind the empty line do not matter. -/
theorem parse_head (spoken : IsVersion version) (status : UInt16) (trimmed : IsTrimmedLine reason)
    (readable : ∀ line ∈ lines, line.1.IsReadable line.2) (rest : String) :
    parse (Utf8.encode (head (statusLine version status reason) first lines last ++ rest)) =
      .ok ⟨status, reason, ⟨lines.filterMap fun line => line.1.field?⟩, false⟩ := by
  have read : Text.lines (head (statusLine version status reason) first lines last ++ rest).toList =
      (statusLine version status reason).toList ::
        (lines.map (fun line => line.1.text.toList) ++ [] :: Text.lines rest.toList) := by
    have oneLine := one_line_status_line spoken status trimmed.oneLine
    have empty : last.Ends [] := ⟨List.not_mem_nil, fun _ => nofun⟩
    rw [head, String.toList_append, String.toList_append, String.toList_append, String.toList_append,
      List.append_assoc, List.append_assoc, LineEnd.lines_ended (LineEnd.ends_of_one_line oneLine first),
      lines_of_head_lines readable]
    exact congrArg (_ :: _ ++ ·) (LineEnd.lines_ended empty rest.toList)
  have fields : ((lines.map (fun line => line.1.text.toList) ++ [] :: Text.lines rest.toList).takeWhile
      fun line => !line.isEmpty).filterMap parseField = lines.filterMap fun line => line.1.field? := by
    have filled : ∀ text ∈ lines.map fun line => line.1.text.toList, (!text.isEmpty) = true := by
      intro text found
      obtain ⟨line, member, rfl⟩ := List.mem_map.mp found
      rw [List.isEmpty_eq_false_iff.mpr (HeadLine.text_ne_nil (readable line member))]
      rfl
    rw [List.takeWhile_append_of_pos filled, List.takeWhile_cons, List.isEmpty_nil, Bool.not_true,
      if_neg Bool.false_ne_true, List.append_nil, fields_of_head_lines readable]
  rw [parse, Utf8.decode_eq_some_iff.mpr rfl]
  dsimp only
  rw [read]
  dsimp only
  rw [parse_lines spoken status trimmed, fields]

/-- The second line end here is a bare line feed, the reason and a value are empty, a value has
colons in it, a name comes twice, and a line is none of the headers. -/
theorem parse_head_of_mixed_lines :
    let text := "HTTP/1.é 65535 \r\nSet-Cookie: a: b\nno header\r\r\nset-cookie: \r\n" ++
      "Set-Cookie: a: b\n\nbehind\n\n: "
    parse (Utf8.encode text) = .ok ⟨65535, "",
      ⟨[⟨"Set-Cookie", "a: b"⟩, ⟨"set-cookie", ""⟩, ⟨"Set-Cookie", "a: b"⟩]⟩, false⟩ := by
  have spoken : IsVersion "HTTP/1.é" := by decide +kernel
  have trimmed : IsTrimmedLine "" := by decide +kernel
  let lines : List (HeadLine × LineEnd) := [(.header ⟨"Set-Cookie", "a: b"⟩, .feed),
    (.other "no header\r", .returnFeed), (.header ⟨"set-cookie", ""⟩, .returnFeed),
    (.header ⟨"Set-Cookie", "a: b"⟩, .feed)]
  have readable : ∀ line ∈ lines, line.1.IsReadable line.2 := by decide +kernel
  exact @parse_head _ _ .returnFeed .feed lines spoken 65535 trimmed readable "behind\n\n: "

end

end Response

end WebSocket
