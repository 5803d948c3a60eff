import Mathlib.Data.List.Basic
import Mathlib.Data.List.Induction
import WebSocket.Proofs.Handshake.Fields

/-!
What is left of the changes that are refused. A field that cannot be added behind the others changes
nothing. But one that cannot be put in the place of others has taken these away before anybody looks
at it, so that it works as a removal of its name.
-/

namespace WebSocket

theorem is_line_break_iff (character : Char) :
    isLineBreak character = true ↔ character.val.toNat = 13 ∨ character.val.toNat = 10 := by
  rw [isLineBreak, Bool.or_eq_true, beq_iff_eq, beq_iff_eq, ← Char.toNat_inj, ← Char.toNat_inj]
  rfl

theorem is_line_break_to_lower (character : Char) :
    isLineBreak character.toLower = isLineBreak character := by
  rw [Bool.eq_iff_iff, is_line_break_iff, is_line_break_iff]
  unfold Char.toLower
  split
  · rename_i upper
    have low : 65 ≤ character.val.toNat := upper.1
    have high : character.val.toNat ≤ 90 := upper.2
    have shifted : (character.val + ('a'.val - 'A'.val)).toNat = character.val.toNat + 32 := by
      rw [UInt32.toNat_add]
      change (character.val.toNat + 32) % 2 ^ 32 = _
      omega
    rw [shifted]
    omega
  · rfl

theorem one_line_of_same_name {name other : String} (same : sameName name other = true)
    (oneLine : IsOneLine name) : IsOneLine other := by
  have lower (text : String) : (asciiLower text.toList).any isLineBreak = text.toList.any isLineBreak := by
    rw [asciiLower, List.any_map]
    exact congrArg (List.any text.toList) (funext is_line_break_to_lower)
  rw [IsOneLine, ← lower, ← beq_iff_eq.mp same, lower]
  exact oneLine

namespace Request

namespace Edit

def wanted? : Edit → Option HeaderField
  | append name value | insert name value => some ⟨name, value⟩
  | setPath _ | setHost _ | remove _ => none

/-- There is a line break in the field that the change would like to add. -/
def isRefused (change : Edit) : Bool := change.wanted?.any fun field => !decide field.IsOneLine

/-- What is left of a change: all of it, or of a refused one the removal that goes before, where there
is a name to remove. -/
def lasting? (change : Edit) : Option Edit :=
  if change.isRefused then (change.cleared?.filter fun name => decide (IsOneLine name)).map remove
  else some change

theorem added_of_refused {change : Edit} (refused : change.isRefused = true) : change.added? = none := by
  cases change with
  | append name value | insert name value =>
      have broken : ¬HeaderField.IsOneLine ⟨name, value⟩ := by
        simpa [isRefused, wanted?] using refused
      exact if_neg broken
  | _ => rfl

end Edit

theorem result_of_edit (request : Request) (change : Edit) :
    (request.edit change).1.isOk = !change.isRefused := by
  have result (headers : Headers) (name value : String) :
      (headers.append name value).1.isOk = !(!decide (HeaderField.IsOneLine ⟨name, value⟩)) := by
    rw [Bool.not_not, Headers.append]
    by_cases named : IsOneLine name
    · by_cases valued : IsOneLine value
      · rw [check_of_one_line named, check_of_one_line valued, decide_eq_true ⟨named, valued⟩]
        rfl
      · rw [check_of_one_line named, check_of_break valued,
          decide_eq_false fun oneLine => valued oneLine.value]
        rfl
    · rw [check_of_break named, decide_eq_false fun oneLine => named oneLine.name]
      rfl
  cases change with
  | append name value => exact result request.headers name value
  | insert name value => exact result (request.headers.remove name) name value
  | _ => rfl

theorem edit_of_refused (request : Request) {change : Edit} (refused : change.isRefused = true) :
    (request.edit change).2 =
      { request with headers := ⟨request.headers.fields.filter change.spares⟩ } := by
  have fields := fields_of_edit request change
  rw [Edit.added_of_refused refused, Option.toList_none, List.append_nil] at fields
  cases change with
  | append name value | insert name value =>
      exact congrArg (fun headers => { request with headers }) (congrArg Headers.mk fields)
  | _ => cases refused

theorem edit_of_refused_eq_iff (request : Request) {change : Edit} (refused : change.isRefused = true) :
    (request.edit change).2 = request ↔ ∀ field ∈ request.headers.fields, change.spares field = true := by
  rw [edit_of_refused request refused, ← List.filter_eq_self]
  exact ⟨fun same => congrArg (fun request => request.headers.fields) same,
    fun same => congrArg (fun fields => { request with headers := ⟨fields⟩ }) same⟩

theorem edit_lasting {request : Request} (oneLines : ∀ field ∈ request.headers.fields, field.IsOneLine)
    (change : Edit) : (request.editAll change.lasting?.toList).2 = (request.edit change).2 := by
  rw [Edit.lasting?]
  cases refused : change.isRefused with
  | false => rfl
  | true =>
      rw [edit_of_refused request refused, if_pos rfl]
      cases change with
      | append name value =>
          have all : request.headers.fields.filter (Edit.append name value).spares =
              request.headers.fields := List.filter_eq_self.mpr fun _ _ => rfl
          rw [all]
          rfl
      | insert name value =>
          by_cases named : IsOneLine name
          · rw [Edit.cleared?, Option.filter_some, decide_eq_true named]
            rfl
          · have all : request.headers.fields.filter (Edit.insert name value).spares =
                request.headers.fields := by
              rw [List.filter_eq_self]
              intro field member
              cases same : sameName field.name name with
              | true => exact absurd (one_line_of_same_name same (oneLines field member).name) named
              | false => exact congrArg not same
            rw [Edit.cleared?, Option.filter_some, decide_eq_false named, all]
            rfl
      | _ => cases refused

theorem edit_all_append (request : Request) (changes later : List Edit) :
    (request.editAll (changes ++ later)).2 = ((request.editAll changes).2.editAll later).2 := by
  induction changes generalizing request with
  | nil => rfl
  | cons change rest induction => exact induction _

theorem results_of_edit_all (request : Request) (changes : List Edit) :
    (request.editAll changes).1.map Except.isOk = changes.map fun change => !change.isRefused := by
  induction changes generalizing request with
  | nil => rfl
  | cons change rest induction =>
      exact List.cons_eq_cons.mpr ⟨result_of_edit request change, induction _⟩

theorem edit_all_lasting {request : Request}
    (oneLines : ∀ field ∈ request.headers.fields, field.IsOneLine) (changes : List Edit) :
    (request.editAll (changes.filterMap Edit.lasting?)).2 = (request.editAll changes).2 := by
  induction changes generalizing request with
  | nil => rfl
  | cons change rest induction =>
      have cut : (change :: rest).filterMap Edit.lasting? =
          change.lasting?.toList ++ rest.filterMap Edit.lasting? := by
        rw [List.filterMap_cons]
        cases change.lasting? <;> rfl
      rw [cut, edit_all_append, edit_lasting oneLines]
      exact induction (one_line_of_edit_all oneLines [change])

section

variable {kept : HeaderField → Bool} {request other : Request} {change : Edit}

structure AgreeOn (kept : HeaderField → Bool) (request other : Request) : Prop where
  path : request.path = other.path
  host : request.host = other.host
  key : request.key = other.key
  fields : request.headers.fields.filter kept = other.headers.fields.filter kept

theorem agree_on_self (kept : HeaderField → Bool) (request : Request) : AgreeOn kept request request :=
  ⟨rfl, rfl, rfl, rfl⟩

theorem AgreeOn.trans {last : Request} (first : AgreeOn kept request other)
    (second : AgreeOn kept other last) : AgreeOn kept request last :=
  ⟨first.path.trans second.path, first.host.trans second.host, first.key.trans second.key,
    first.fields.trans second.fields⟩

theorem agree_on_of_edit (agree : AgreeOn kept request other) (change : Edit) :
    AgreeOn kept (request.edit change).2 (other.edit change).2 := by
  have fields : (request.edit change).2.headers.fields.filter kept =
      (other.edit change).2.headers.fields.filter kept := by
    rw [fields_of_edit, fields_of_edit, List.filter_append, List.filter_append,
      List.filter_comm, agree.fields, List.filter_comm]
  obtain ⟨path, host, key, -⟩ := agree
  cases change with
  | setPath path => exact ⟨rfl, host, key, fields⟩
  | setHost host => exact ⟨path, rfl, key, fields⟩
  | _ => exact ⟨path, host, key, fields⟩

theorem agree_on_of_refused (request : Request) (refused : change.isRefused = true)
    (spared : ∀ field, kept field = true → change.spares field = true) :
    AgreeOn kept (request.edit change).2 request := by
  rw [edit_of_refused request refused]
  refine ⟨rfl, rfl, rfl, ?_⟩
  rw [List.filter_filter]
  refine List.filter_congr fun field _ => ?_
  cases keeps : kept field with
  | true => rw [spared field keeps, Bool.true_and]
  | false => rfl

/-- Two runs, one with the refused changes and one without them, end alike in all that no refused
change wanted to replace. -/
theorem agree_on_of_edit_all {changes : List Edit} (agree : AgreeOn kept request other)
    (spared : ∀ change ∈ changes, change.isRefused = true → ∀ field, kept field = true →
      change.spares field = true) :
    AgreeOn kept (request.editAll changes).2
      (other.editAll (changes.filter fun change => !change.isRefused)).2 := by
  induction changes generalizing request other with
  | nil => exact agree
  | cons change rest induction =>
      obtain ⟨first, others⟩ := List.forall_mem_cons.mp spared
      rw [List.filter_cons]
      cases refused : change.isRefused with
      | true => exact induction ((agree_on_of_refused request refused (first refused)).trans agree) others
      | false => exact induction (agree_on_of_edit agree change) others

end

/-- The refused changes have no effect up to any point exactly if none of them ever finds a field of
the name that it wanted to replace. -/
theorem edit_all_accepted_iff (request : Request) (changes : List Edit) :
    (∀ before, before <+: changes →
        (request.editAll (before.filter fun change => !change.isRefused)).2 =
          (request.editAll before).2) ↔
      ∀ before change behind, changes = before ++ change :: behind → change.isRefused = true →
        ∀ field ∈ (request.editAll before).2.headers.fields, change.spares field = true := by
  have last (before : List Edit) {change : Edit} (refused : change.isRefused = true) :
      (before ++ [change]).filter (fun change => !change.isRefused) =
        before.filter fun change => !change.isRefused := by
    rw [List.filter_append, List.filter_singleton, refused]
    exact List.append_nil _
  constructor
  · intro same before change behind split refused
    have here : before ++ [change] <+: changes := ⟨behind, by rw [split, List.append_assoc]; rfl⟩
    have now := same _ here
    rw [last before refused, same before ((List.prefix_append ..).trans here), edit_all_append] at now
    exact (edit_of_refused_eq_iff _ refused).mp now.symm
  · intro spared before
    induction before using List.reverseRecOn with
    | nil => exact fun _ => rfl
    | append_singleton before change induction =>
        rintro ⟨behind, split⟩
        rw [List.append_assoc] at split
        have earlier := induction ⟨_, split⟩
        rw [edit_all_append]
        cases refused : change.isRefused with
        | true =>
            have nothing := spared before change behind split.symm refused
            rw [last before refused, earlier]
            exact ((edit_of_refused_eq_iff _ refused).mpr nothing).symm
        | false =>
            have stays : (before ++ [change]).filter (fun change => !change.isRefused) =
                before.filter (fun change => !change.isRefused) ++ [change] := by
              rw [List.filter_append, List.filter_singleton, refused]
              rfl
            rw [stays, edit_all_append, earlier]

theorem offered_of_agree_on {request other : Request}
    (agree : AgreeOn (fun field => sameName field.name "sec-websocket-protocol") request other) :
    request.offeredProtocols = other.offeredProtocols := by
  rw [offeredProtocols, Headers.getAll, agree.fields]
  rfl

/-- A change is refused because of a line break, and what is left of it then is the removal of its
name. Nothing else is lost with it; and nothing at all, up to any point, exactly if none of the
refused changes ever finds a field of the name that it wanted to replace. -/
theorem refused_changes_only_remove {url : Url} {config : Config} {nonce : Bytes} {made : Request}
    (new : Request.new url config nonce = .ok made) (changes : List Edit) :
    let accepted (changes : List Edit) := changes.filter fun change => !change.isRefused
    (made.editAll changes).1.map Except.isOk = changes.map (fun change => !change.isRefused) ∧
      (made.editAll (changes.filterMap Edit.lasting?)).2 = (made.editAll changes).2 ∧
      ((∀ before, before <+: changes →
          (made.editAll (accepted before)).2 = (made.editAll before).2) ↔
        ∀ before change behind, changes = before ++ change :: behind → change.isRefused = true →
          ∀ field ∈ (made.editAll before).2.headers.fields, change.spares field = true) ∧
      (∀ kept : HeaderField → Bool,
        (∀ change ∈ changes, change.isRefused = true → ∀ field, kept field = true →
          change.spares field = true) →
        AgreeOn kept (made.editAll changes).2 (made.editAll (accepted changes)).2) ∧
      ((∀ change ∈ changes, change.isRefused = true → ∀ name ∈ change.cleared?,
          sameName name "sec-websocket-protocol" = false) →
        (made.editAll changes).2.offeredProtocols = (made.editAll (accepted changes)).2.offeredProtocols) := by
  intro accepted
  obtain ⟨-, -, -, oneLines⟩ := parts_of_new new
  have agrees (kept : HeaderField → Bool) (spared : ∀ change ∈ changes, change.isRefused = true →
      ∀ field, kept field = true → change.spares field = true) :
      AgreeOn kept (made.editAll changes).2 (made.editAll (accepted changes)).2 :=
    agree_on_of_edit_all (agree_on_self kept made) spared
  refine ⟨results_of_edit_all made changes, edit_all_lasting oneLines changes,
    edit_all_accepted_iff made changes, agrees, fun others => ?_⟩
  refine offered_of_agree_on (agrees _ fun change member refused field offers => ?_)
  rw [Edit.spares]
  cases cleared : change.cleared? with
  | none => rfl
  | some name =>
      have foreign := others change member refused name cleared
      rw [Option.any_some, Bool.not_eq_true']
      cases same : sameName field.name name with
      | false => rfl
      | true =>
          rw [sameName, beq_eq_false_iff_ne] at foreign
          exact absurd ((beq_iff_eq.mp same).symm.trans (beq_iff_eq.mp offers)) foreign

/-- What is offered survives the loss of other fields. -/
theorem refused_changes_only_remove_host :
    let url : Url := { scheme := "ws", host := some (.domain "example.com"), path := "/chat" }
    let config : Config := { subprotocols := ["chat", "superchat"] }
    let changes : List Edit := [.insert "HOST" "a\nb", .insert "Sec-WebSocket\r-Protocol" "beta",
      .append "Sec-WebSocket-Protocol" "alpha\r", .append "sec-websocket-protocol" "beta"]
    ∃ made, Request.new url config (Utf8.encode "the sample nonce") = .ok made ∧
      (made.editAll changes).2 = (made.editAll [.remove "HOST", .append "sec-websocket-protocol" "beta"]).2 ∧
      (made.editAll changes).2.offeredProtocols =
        (made.editAll [.append "sec-websocket-protocol" "beta"]).2.offeredProtocols := by
  intro url config changes
  obtain ⟨made, new⟩ : ∃ made, Request.new url config (Utf8.encode "the sample nonce") = .ok made :=
    ⟨_, new_of_one_line rfl rfl (by decide +kernel)⟩
  obtain ⟨-, removes, -, -, offers⟩ := refused_changes_only_remove new changes
  refine ⟨made, new, removes.symm, offers ?_⟩
  decide

/-- A field is lost although the one that should take its place is refused. -/
theorem not_without_effect_when_refused :
    let url : Url := { scheme := "ws", host := some (.domain "h"), path := "/" }
    let change : Edit := .insert "Host" "a\rb"
    ∃ made, Request.new url {} (Utf8.encode "the sample nonce") = .ok made ∧
      (made.editAll [change]).1 =
        [.error (.invalidHeaderValue "Host" "contains CR or LF characters")] ∧
      (made.editAll []).2.headers.contains "Host" = true ∧
      (made.editAll [change]).2.headers.contains "Host" = false ∧
      (made.editAll [change]).2.write ≠ (made.editAll []).2.write := by
  intro url change
  refine ⟨_, new_of_one_line rfl rfl (by decide +kernel), ?_, ?_, ?_, ?_⟩
  · rfl
  · decide +kernel
  · decide +kernel
  · exact fun same => absurd (congrArg Prod.snd same) (by decide +kernel)

end Request

end WebSocket
