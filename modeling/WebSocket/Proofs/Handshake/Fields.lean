import WebSocket.Handshake.Request

/-!
The fields of a request: which of them a new request has, and what a change does to them.
No field ever holds a line break, whatever the changes are.
-/

namespace WebSocket

/-- There is no line break in the text. -/
def IsOneLine (text : String) : Prop := text.toList.any isLineBreak = false

instance (text : String) : Decidable (IsOneLine text) :=
  inferInstanceAs (Decidable (_ = _))

theorem check_of_one_line {header value : String} (oneLine : IsOneLine value) :
    checkHeaderValue header value = .ok () := by
  have passes : ¬value.toList.any isLineBreak = true := Bool.not_eq_true _ ▸ oneLine
  rw [checkHeaderValue, if_neg passes]

theorem check_of_break {header value : String} (broken : ¬IsOneLine value) :
    checkHeaderValue header value =
      .error (.invalidHeaderValue header "contains CR or LF characters") := by
  have fails : value.toList.any isLineBreak = true := by
    cases found : value.toList.any isLineBreak
    · exact absurd found broken
    · rfl
  rw [checkHeaderValue, if_pos fails]

namespace HeaderField

structure IsOneLine (field : HeaderField) : Prop where
  name : WebSocket.IsOneLine field.name
  value : WebSocket.IsOneLine field.value

instance (field : HeaderField) : Decidable field.IsOneLine :=
  decidable_of_iff (_ ∧ _) ⟨fun both => ⟨both.1, both.2⟩, fun oneLine => ⟨oneLine.name, oneLine.value⟩⟩

end HeaderField

namespace Headers

variable {headers : Headers} {name value : String}

theorem fields_of_append (headers : Headers) (name value : String) :
    (headers.append name value).2.fields =
      headers.fields ++ if HeaderField.IsOneLine ⟨name, value⟩ then [⟨name, value⟩] else [] := by
  unfold append
  by_cases named : WebSocket.IsOneLine name
  · rw [check_of_one_line named]
    by_cases valued : WebSocket.IsOneLine value
    · rw [check_of_one_line valued, if_pos ⟨named, valued⟩]
    · rw [check_of_break valued, if_neg fun oneLine => valued oneLine.value]
      exact (List.append_nil _).symm
  · rw [check_of_break named, if_neg fun oneLine => named oneLine.name]
    exact (List.append_nil _).symm

theorem append_of_one_line (headers : Headers) {field : HeaderField} (oneLine : field.IsOneLine) :
    headers.append field.name field.value = (.ok (), ⟨headers.fields ++ [field]⟩) := by
  rw [append, check_of_one_line oneLine.name, check_of_one_line oneLine.value]

theorem one_line_of_append {headers extended : Headers} {name value : String}
    (added : headers.append name value = (.ok (), extended)) :
    HeaderField.IsOneLine ⟨name, value⟩ ∧ extended.fields = headers.fields ++ [⟨name, value⟩] := by
  have fields := fields_of_append headers name value
  rw [added] at fields
  by_cases oneLine : HeaderField.IsOneLine ⟨name, value⟩
  · rw [if_pos oneLine] at fields
    exact ⟨oneLine, fields⟩
  · exfalso
    unfold append at added
    by_cases named : WebSocket.IsOneLine name
    · rw [check_of_one_line named, check_of_break fun valued => oneLine ⟨named, valued⟩] at added
      cases added
    · rw [check_of_break named] at added
      cases added

end Headers

namespace Request

theorem fields_of_append_fields {headers extended : Headers} {fields : List HeaderField}
    (added : appendFields headers fields = .ok extended) :
    extended.fields = headers.fields ++ fields ∧ ∀ field ∈ fields, field.IsOneLine := by
  induction fields generalizing headers with
  | nil =>
      cases added
      exact ⟨(List.append_nil _).symm, List.forall_mem_nil _⟩
  | cons field rest induction =>
      unfold appendFields at added
      split at added
      · cases added
      · rename_i next result
        obtain ⟨oneLine, fields⟩ := Headers.one_line_of_append result
        obtain ⟨further, oneLines⟩ := induction added
        refine ⟨?_, List.forall_mem_cons.mpr ⟨oneLine, oneLines⟩⟩
        rw [further, fields, List.append_assoc]
        rfl

theorem append_fields_append {fields : List HeaderField} (oneLines : ∀ field ∈ fields, field.IsOneLine)
    (headers : Headers) (rest : List HeaderField) :
    appendFields headers (fields ++ rest) = appendFields ⟨headers.fields ++ fields⟩ rest := by
  induction fields generalizing headers with
  | nil => rw [List.nil_append, List.append_nil]
  | cons field fields induction =>
      obtain ⟨oneLine, others⟩ := List.forall_mem_cons.mp oneLines
      rw [List.cons_append, appendFields, Headers.append_of_one_line headers oneLine]
      dsimp only
      rw [induction others, List.append_assoc]
      rfl

theorem append_fields_of_one_line {fields : List HeaderField}
    (oneLines : ∀ field ∈ fields, field.IsOneLine) (headers : Headers) :
    appendFields headers fields = .ok ⟨headers.fields ++ fields⟩ := by
  have added := append_fields_append oneLines headers []
  rwa [List.append_nil, appendFields] at added

section

variable {url : Url} {config : Config} {nonce : Bytes} {request : Request} {name : Host} {host : String}

theorem new_of_named (named : url.host = some name)
    (rendered : host = url.port.elim name.render fun port => s!"{name.render}:{port}") :
    new url config nonce = match appendFields {} (standardFields config host (Base64.encode nonce)) with
      | .error failure => .error failure
      | .ok headers => .ok ⟨target url, host, headers, Base64.encode nonce⟩ := by
  have required : url.requireHost = .ok name := by rw [Url.requireHost, named]
  rw [new, required]
  subst rendered
  cases url.port <;> rfl

theorem new_of_one_line (named : url.host = some name)
    (rendered : host = url.port.elim name.render fun port => s!"{name.render}:{port}")
    (oneLines : ∀ field ∈ standardFields config host (Base64.encode nonce), field.IsOneLine) :
    new url config nonce = .ok ⟨target url, host,
      ⟨standardFields config host (Base64.encode nonce)⟩, Base64.encode nonce⟩ := by
  rw [new_of_named named rendered, append_fields_of_one_line oneLines, List.nil_append]

theorem named_of_new (made : new url config nonce = .ok request) :
    ∃ name, url.host = some name ∧
      request.host = url.port.elim name.render fun port => s!"{name.render}:{port}" := by
  unfold new at made
  split at made
  · cases made
  rename_i name required
  have named : url.host = some name := by
    unfold Url.requireHost at required
    split at required
    · rename_i present
      rw [present, Except.ok.inj required]
    · cases required
  dsimp only at made
  split at made
  · cases made
  cases made
  refine ⟨name, named, ?_⟩
  cases url.port <;> rfl

theorem parts_of_new (made : new url config nonce = .ok request) :
    request.key = Base64.encode nonce ∧ request.path = target url ∧
      request.headers.fields = standardFields config request.host request.key ∧
      ∀ field ∈ request.headers.fields, field.IsOneLine := by
  unfold new at made
  split at made
  · cases made
  · dsimp only at made
    split at made
    · cases made
    · rename_i headers added
      cases made
      obtain ⟨fields, oneLines⟩ := fields_of_append_fields added
      rw [List.nil_append] at fields
      exact ⟨rfl, rfl, fields, fun field member => oneLines field (fields ▸ member)⟩

end

namespace Edit

def cleared? : Edit → Option String
  | insert name _ | remove name => some name
  | setPath _ | setHost _ | append _ _ => none

/-- The field that the change adds, unless there is a line break in it. -/
def added? : Edit → Option HeaderField
  | append name value | insert name value =>
      if HeaderField.IsOneLine ⟨name, value⟩ then some ⟨name, value⟩ else none
  | setPath _ | setHost _ | remove _ => none

def path? : Edit → Option String
  | setPath path => some path
  | setHost _ | append _ _ | insert _ _ | remove _ => none

/-- The fields that the change leaves alone. -/
def spares (change : Edit) (field : HeaderField) : Bool :=
  !change.cleared?.any fun name => sameName field.name name

theorem one_line_of_added {change : Edit} {field : HeaderField} (added : change.added? = some field) :
    field.IsOneLine := by
  cases change with
  | append name value | insert name value =>
      obtain ⟨oneLine, same⟩ := Option.ite_none_right_eq_some.mp added
      obtain rfl := Option.some.inj same
      exact oneLine
  | _ => cases added

end Edit

/-- A change takes away the fields of one name or none, and adds one field or none behind
the others. -/
theorem fields_of_edit (request : Request) (change : Edit) :
    (request.edit change).2.headers.fields =
      request.headers.fields.filter change.spares ++ change.added?.toList := by
  have spared : change.cleared? = none →
      request.headers.fields.filter change.spares = request.headers.fields := by
    intro clearsNothing
    rw [List.filter_eq_self]
    intro field _
    rw [Edit.spares, clearsNothing]
    rfl
  have toList : ∀ field : HeaderField, (if field.IsOneLine then [field] else []) =
      (if field.IsOneLine then some field else none).toList := by
    intro field
    split <;> rfl
  cases change with
  | setPath path | setHost host =>
      rw [spared rfl]
      exact (List.append_nil _).symm
  | append name value =>
      rw [spared rfl, Edit.added?, ← toList]
      exact Headers.fields_of_append request.headers name value
  | insert name value =>
      rw [Edit.added?, ← toList]
      exact Headers.fields_of_append (request.headers.remove name) name value
  | remove name => exact (List.append_nil _).symm

theorem key_of_edit (request : Request) (change : Edit) : (request.edit change).2.key = request.key := by
  cases change <;> rfl

theorem path_of_edit (request : Request) (change : Edit) :
    (request.edit change).2.path = change.path?.getD request.path := by
  cases change <;> rfl

theorem key_of_edit_all (request : Request) (changes : List Edit) :
    (request.editAll changes).2.key = request.key := by
  induction changes generalizing request with
  | nil => rfl
  | cons change rest induction => exact (induction _).trans (key_of_edit request change)

theorem one_line_of_edit_all {request : Request}
    (oneLines : ∀ field ∈ request.headers.fields, field.IsOneLine) (changes : List Edit) :
    ∀ field ∈ (request.editAll changes).2.headers.fields, field.IsOneLine := by
  induction changes generalizing request with
  | nil => exact oneLines
  | cons change rest induction =>
      have edited : ∀ field ∈ (request.edit change).2.headers.fields, field.IsOneLine := by
        intro field member
        rw [fields_of_edit] at member
        rcases List.mem_append.mp member with kept | added
        · exact oneLines field (List.mem_filter.mp kept).1
        · exact Edit.one_line_of_added (Option.mem_toList.mp added)
      exact induction edited

end Request

end WebSocket
