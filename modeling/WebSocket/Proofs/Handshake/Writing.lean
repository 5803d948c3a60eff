import WebSocket.Proofs.Handshake.Boundary
import WebSocket.Proofs.Handshake.Fields
import WebSocket.Proofs.Text.Encoding

/-!
A request on the wire. It is written line by line, and no text that it is made of or
changed with can begin a line of its own: line breaks stand at the ends of lines only.
-/

namespace WebSocket

theorem one_line_iff (text : String) :
    IsOneLine text ↔ 13 ∉ Utf8.encode text ∧ 10 ∉ Utf8.encode text := by
  have isReturn (character : Char) : character.toNat = 13 ↔ character = '\r' := by
    rw [← Char.toNat_inj]
    rfl
  have isFeed (character : Char) : character.toNat = 10 ↔ character = '\n' := by
    rw [← Char.toNat_inj]
    rfl
  have returns : 13 ∈ Utf8.encode text ↔ _ := Utf8.mem_encode_iff (by decide) text
  have feeds : 10 ∈ Utf8.encode text ↔ _ := Utf8.mem_encode_iff (by decide) text
  rw [returns, feeds]
  simp only [UInt8.reduceToNat, isReturn, isFeed, exists_eq_right]
  simp only [IsOneLine, isLineBreak, List.any_eq_false, Bool.or_eq_true, beq_iff_eq, not_or]
  constructor
  · intro oneLine
    exact ⟨fun member => (oneLine _ member).1 rfl, fun member => (oneLine _ member).2 rfl⟩
  · rintro ⟨noReturn, noFeed⟩ character member
    exact ⟨fun same => noReturn (same ▸ member), fun same => noFeed (same ▸ member)⟩

theorem one_line_append_iff (first second : String) :
    IsOneLine (first ++ second) ↔ IsOneLine first ∧ IsOneLine second := by
  simp only [IsOneLine, String.toList_append, List.any_append, Bool.or_eq_false_iff]

def endedLine (line : String) : Bytes := Utf8.encode line ++ [13, 10]

namespace HeaderField

def line (field : HeaderField) : String := s!"{field.name}: {field.value}"

theorem IsOneLine.line {field : HeaderField} (oneLine : field.IsOneLine) :
    WebSocket.IsOneLine field.line := by
  have named : WebSocket.IsOneLine (field.name ++ ": ") :=
    (one_line_append_iff ..).mpr ⟨oneLine.name, rfl⟩
  exact (one_line_append_iff ..).mpr ⟨named, oneLine.value⟩

end HeaderField

namespace Head

theorem end_of_unbroken {line : Bytes} (unbroken : 13 ∉ line) (rest : Bytes) :
    Head.end? (line ++ rest) = (end? rest).map (· + line.length) := by
  induction line with
  | nil => exact Option.map_id'.symm
  | cons byte line induction =>
      obtain ⟨other, later⟩ := List.ne_and_not_mem_of_not_mem_cons unbroken
      have begins : ¬[13, 10, 13, 10] <+: byte :: (line ++ rest) :=
        fun begins => other (List.cons_prefix_cons.mp begins).1
      rw [List.cons_append, end_of_other begins, induction later, Option.map_map]
      rfl

theorem end_of_lines {lines : List Bytes} (proper : ∀ line ∈ lines, line ≠ [] ∧ 13 ∉ line) :
    let bytes := 13 :: 10 :: (lines.flatMap (· ++ [13, 10]) ++ [13, 10])
    Head.end? bytes = some bytes.length := by
  induction lines with
  | nil => rfl
  | cons line rest induction =>
      obtain ⟨⟨nonempty, unbroken⟩, others⟩ := List.forall_mem_cons.mp proper
      obtain ⟨byte, more, rfl⟩ := List.exists_cons_of_ne_nil nonempty
      have other : byte ≠ 13 := fun same => unbroken (same ▸ List.mem_cons_self)
      dsimp only at induction ⊢
      rw [List.flatMap_cons, List.append_assoc, List.append_assoc, List.cons_append,
        end_of_other (by simp [other.symm]), end_of_other (by simp), ← List.cons_append,
        end_of_unbroken unbroken]
      change Option.map _ (Option.map _ (Option.map _ (Head.end? (13 :: 10 ::
        (rest.flatMap (· ++ [13, 10]) ++ [13, 10]))))) = _
      rw [induction others]
      simp
      omega

end Head

namespace Request

def requestLine (path : String) : String := s!"GET {path} HTTP/1.1"

/-- The lines of a request, up to the empty one behind its fields. -/
def lines (request : Request) : List String :=
  requestLine request.path :: request.headers.fields.map HeaderField.line ++ [""]

theorem write_fields {fields : List HeaderField} (oneLines : ∀ field ∈ fields, field.IsOneLine)
    (written : String) :
    (writeFields written fields).1 = .ok () ∧
      Utf8.encode (writeFields written fields).2 =
        Utf8.encode written ++ (fields.map HeaderField.line ++ [""]).flatMap endedLine := by
  induction fields generalizing written with
  | nil =>
      refine ⟨rfl, ?_⟩
      rw [writeFields, Utf8.encode_append]
      rfl
  | cons field rest induction =>
      obtain ⟨oneLine, others⟩ := List.forall_mem_cons.mp oneLines
      have line : Utf8.encode (written ++ s!"{field.name}: {field.value}\r\n") =
          Utf8.encode written ++ endedLine field.line := by
        rw [Utf8.encode_append, Utf8.encode_append]
        rfl
      rw [writeFields, check_of_one_line oneLine.name, check_of_one_line oneLine.value]
      dsimp only
      obtain ⟨succeeds, bytes⟩ := induction others (written ++ s!"{field.name}: {field.value}\r\n")
      refine ⟨succeeds, ?_⟩
      rw [bytes, line, List.append_assoc]
      rfl

theorem request_line_iff (path : String) : IsOneLine (requestLine path) ↔ IsOneLine path := by
  have verb : IsOneLine (toString "GET ") := rfl
  have version : IsOneLine (toString " HTTP/1.1") := rfl
  simp only [requestLine, one_line_append_iff, verb, version, true_and, and_true]
  rfl

theorem nonempty_of_space {line : String} (spaced : ' ' ∈ line.toList) : Utf8.encode line ≠ [] := by
  have found : 32 ∈ Utf8.encode line := (Utf8.mem_encode_iff (by decide) line).mpr ⟨' ', spaced, rfl⟩
  exact List.ne_nil_of_mem found

section

variable {request : Request} (oneLines : ∀ field ∈ request.headers.fields, field.IsOneLine)
  (path : IsOneLine request.path)

include oneLines path

theorem write_of_one_line :
    request.write.1 = .ok () ∧ Utf8.encode request.write.2 = request.lines.flatMap endedLine := by
  have first : Utf8.encode s!"GET {request.path} HTTP/1.1\r\n" =
      endedLine (requestLine request.path) := by
    have ending : Utf8.encode (toString " HTTP/1.1\r\n") =
        Utf8.encode (toString " HTTP/1.1") ++ [13, 10] := by decide +kernel
    rw [endedLine, requestLine, Utf8.encode_append _ (toString " HTTP/1.1\r\n"), ending,
      Utf8.encode_append _ (toString " HTTP/1.1"), List.append_assoc]
  obtain ⟨succeeds, bytes⟩ := write_fields oneLines s!"GET {request.path} HTTP/1.1\r\n"
  rw [write, check_of_one_line path]
  refine ⟨succeeds, bytes.trans ?_⟩
  rw [first, lines, List.cons_append, List.flatMap_cons]

theorem lines_unbroken : ∀ line ∈ request.lines, IsOneLine line := by
  intro line member
  rcases List.mem_append.mp member with written | empty
  · rcases List.mem_cons.mp written with rfl | inFields
    · exact (request_line_iff request.path).mpr path
    · obtain ⟨field, among, rfl⟩ := List.mem_map.mp inFields
      exact (oneLines field among).line
  · obtain rfl := List.mem_singleton.mp empty
    rfl

theorem end_of_written :
    Head.end? (request.lines.flatMap endedLine) =
      some (request.lines.flatMap endedLine).length := by
  have proper : ∀ line ∈ (request.headers.fields.map HeaderField.line).map Utf8.encode,
      line ≠ [] ∧ 13 ∉ line := by
    intro bytes member
    obtain ⟨line, among, rfl⟩ := List.mem_map.mp member
    obtain ⟨field, inFields, rfl⟩ := List.mem_map.mp among
    refine ⟨nonempty_of_space ?_, ((one_line_iff _).mp (oneLines field inFields).line).1⟩
    simp only [HeaderField.line, String.toList_append, List.mem_append]
    exact .inl (.inr (by decide))
  have unbroken : 13 ∉ Utf8.encode (requestLine request.path) :=
    ((one_line_iff _).mp ((request_line_iff _).mpr path)).1
  have bytes : request.lines.flatMap endedLine = Utf8.encode (requestLine request.path) ++
      13 :: 10 :: (((request.headers.fields.map HeaderField.line).map Utf8.encode).flatMap
        (· ++ [13, 10]) ++ [13, 10]) := by
    rw [lines, List.cons_append, List.flatMap_cons, List.flatMap_append, List.flatMap_map Utf8.encode,
      endedLine, List.append_assoc]
    rfl
  rw [bytes, Head.end_of_unbroken unbroken, Head.end_of_lines proper]
  simp
  omega

end

theorem lines_of_edit (request : Request) (change : Edit) :
    (request.edit change).2.lines =
      requestLine (change.path?.getD request.path) ::
        ((request.headers.fields.filter change.spares).map HeaderField.line ++
          (change.added?.map HeaderField.line).toList) ++ [""] := by
  have added : (change.added?.map HeaderField.line).toList =
      change.added?.toList.map HeaderField.line := by
    cases change.added? <;> rfl
  rw [lines, path_of_edit, fields_of_edit, List.map_append, added]

/-- A request can be written unless there is a line break in its path, whatever has been
changed in it. Then its lines are what is written, their ends are the only line breaks, and
the head ends with the last of them. A further change has no part in the lines of others. -/
theorem writes_its_lines {url : Url} {config : Config} {nonce : Bytes} {made : Request}
    (new : Request.new url config nonce = .ok made) (changes : List Edit) :
    let request := (made.editAll changes).2
    (request.write.1 = .ok () ↔ IsOneLine request.path) ∧
      (¬IsOneLine request.path → request.write =
        (.error (.invalidHeaderValue "request-target" "contains CR or LF characters"), "")) ∧
      (request.write.1 = .ok () →
        let bytes := Utf8.encode request.write.2
        bytes = request.lines.flatMap endedLine ∧
          (∀ line ∈ request.lines, 13 ∉ Utf8.encode line ∧ 10 ∉ Utf8.encode line) ∧
          Head.end? bytes = some bytes.length) ∧
      ∀ change, (request.edit change).2.lines =
        requestLine (change.path?.getD request.path) ::
          ((request.headers.fields.filter change.spares).map HeaderField.line ++
            (change.added?.map HeaderField.line).toList) ++ [""] := by
  intro request
  have oneLines : ∀ field ∈ request.headers.fields, field.IsOneLine :=
    one_line_of_edit_all (parts_of_new new).2.2.2 changes
  have broken (path : ¬IsOneLine request.path) : request.write =
      (.error (.invalidHeaderValue "request-target" "contains CR or LF characters"), "") := by
    rw [write, check_of_break path]
  have writes : request.write.1 = .ok () ↔ IsOneLine request.path := by
    constructor
    · intro succeeds
      apply Decidable.byContradiction
      intro path
      rw [broken path] at succeeds
      cases succeeds
    · intro path
      exact (write_of_one_line oneLines path).1
  refine ⟨writes, broken, ?_, lines_of_edit request⟩
  intro succeeds
  have path := writes.mp succeeds
  have bytes := (write_of_one_line oneLines path).2
  rw [bytes]
  refine ⟨rfl, fun line member => ?_, end_of_written oneLines path⟩
  exact (one_line_iff line).mp (lines_unbroken oneLines path line member)

/-- A path and a value that try to begin lines of their own: the value is not added, and
nothing is written until the path is mended. -/
theorem writes_after_mending :
    let url : Url := { scheme := "ws", host := some (.domain "example.com"), path := "/chat" }
    let changes : List Edit := [.append "X-Name" "a\r\nX-Own: b", .remove "UPGRADE",
      .setPath "/ HTTP/1.1\r\nHost: another\r\n\r\n"]
    ∃ made, Request.new url {} (Utf8.encode "the sample nonce") = .ok made ∧
      let broken := (made.editAll changes).2
      let mended := (made.editAll (changes ++ [.setPath "/chat"])).2
      broken.write.1 ≠ .ok () ∧ mended.write.1 = .ok () ∧
      let bytes := Utf8.encode mended.write.2
      bytes = ["GET /chat HTTP/1.1", "Host: example.com", "Connection: Upgrade",
        "Sec-WebSocket-Key: dGhlIHNhbXBsZSBub25jZQ==", "Sec-WebSocket-Version: 13",
        ""].flatMap endedLine ∧
      Head.end? bytes = some bytes.length := by
  intro url changes
  have new : Request.new url {} (Utf8.encode "the sample nonce") = .ok _ :=
    new_of_one_line rfl rfl (by decide +kernel)
  refine ⟨_, new, ?_⟩
  intro broken mended
  obtain ⟨stopped, -, -, -⟩ := writes_its_lines new changes
  obtain ⟨mends, -, written, -⟩ := writes_its_lines new (changes ++ [.setPath "/chat"])
  have succeeds : mended.write.1 = .ok () := mends.mpr (by decide +kernel)
  obtain ⟨bytes, -, ends⟩ := written succeeds
  have lines : mended.lines = ["GET /chat HTTP/1.1", "Host: example.com", "Connection: Upgrade",
      "Sec-WebSocket-Key: dGhlIHNhbXBsZSBub25jZQ==", "Sec-WebSocket-Version: 13", ""] := by
    decide +kernel
  refine ⟨fun passes => ?_, succeeds, bytes.trans (congrArg _ lines), ends⟩
  exact absurd (stopped.mp passes) (by decide +kernel)

end Request

end WebSocket
