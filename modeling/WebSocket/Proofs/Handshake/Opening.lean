import WebSocket.Handshake.Outcome
import WebSocket.Proofs.Handshake.Fields

/-!
When a handshake opens a connection: the response must switch protocols, prove that the
server has seen the key, and name no subprotocol that was not offered. The other parts of
an outcome go along with that.
-/

namespace WebSocket

namespace Text

theorem split_of_absent {separator : Char} {piece : List Char} (absent : separator ∉ piece) :
    split separator piece = [piece] := by
  induction piece with
  | nil => rfl
  | cons character rest induction =>
      obtain ⟨other, later⟩ := List.ne_and_not_mem_of_not_mem_cons absent
      rw [split, if_neg other.symm, induction later]

theorem split_append {separator : Char} {piece : List Char} (absent : separator ∉ piece)
    (rest : List Char) :
    split separator (piece ++ separator :: rest) = piece :: split separator rest := by
  induction piece with
  | nil => rw [List.nil_append, split, if_pos rfl]
  | cons character more induction =>
      obtain ⟨other, later⟩ := List.ne_and_not_mem_of_not_mem_cons absent
      rw [List.cons_append, split, if_neg other.symm, induction later]

theorem trim_split_joined (piece : List Char) (rest : List (List Char))
    (absent : ∀ other ∈ piece :: rest, ',' ∉ other) :
    (split ',' ([',', ' '].intercalate (piece :: rest))).map trim = (piece :: rest).map trim := by
  induction rest generalizing piece with
  | nil =>
      rw [List.intercalate_singleton, split_of_absent (absent piece List.mem_cons_self)]
  | cons next more induction =>
      obtain ⟨first, others⟩ := List.forall_mem_cons.mp absent
      obtain ⟨second, last⟩ := List.forall_mem_cons.mp others
      -- the space behind a comma is taken for the beginning of the next piece
      have spaced : ' ' :: [',', ' '].intercalate (next :: more) =
          [',', ' '].intercalate ((' ' :: next) :: more) := by
        cases more <;> simp
      have noComma : ',' ∉ ' ' :: next := by simpa using second
      have trimmed : trim (' ' :: next) = trim next := rfl
      calc (split ',' ([',', ' '].intercalate (piece :: next :: more))).map trim
          = (split ',' (piece ++ ',' :: ' ' :: [',', ' '].intercalate (next :: more))).map trim := by
            rw [List.intercalate_cons_cons, List.append_assoc]
            rfl
        _ = trim piece :: (split ',' ([',', ' '].intercalate ((' ' :: next) :: more))).map trim := by
            rw [split_append first, spaced, List.map_cons]
        _ = trim piece :: trim next :: more.map trim := by
            rw [induction _ (List.forall_mem_cons.mpr ⟨noComma, last⟩), List.map_cons, trimmed]

end Text

namespace Headers

def FirstIs (headers : Headers) (name value : String) : Prop :=
  ∃ before field behind, headers.fields = before ++ field :: behind ∧
    sameName field.name name = true ∧ field.value = value ∧
    ∀ other ∈ before, sameName other.name name = false

def Lacks (headers : Headers) (name : String) : Prop :=
  ∀ field ∈ headers.fields, sameName field.name name = false

theorem get_eq_some_iff (headers : Headers) (name value : String) :
    headers.get? name = some value ↔ headers.FirstIs name value := by
  rw [get?, Option.map_eq_some_iff]
  constructor
  · rintro ⟨field, found, rfl⟩
    obtain ⟨named, before, behind, split, others⟩ := List.find?_eq_some_iff_append.mp found
    exact ⟨before, field, behind, split, named, rfl, fun other member => by simpa using others other member⟩
  · rintro ⟨before, field, behind, split, named, rfl, others⟩
    refine ⟨field, List.find?_eq_some_iff_append.mpr ⟨named, before, behind, split, ?_⟩, rfl⟩
    intro other member
    rw [others other member]
    rfl

theorem get_eq_none_iff (headers : Headers) (name : String) :
    headers.get? name = none ↔ headers.Lacks name := by
  rw [get?, Option.map_eq_none_iff, List.find?_eq_none]
  simp only [Bool.not_eq_true]
  rfl

end Headers

/-- A subprotocol as it can be offered: not empty, without blanks at its ends, and without
commas. -/
structure IsOfferable (protocol : String) : Prop where
  nonempty : protocol ≠ ""
  trimmed : Text.trim protocol.toList = protocol.toList
  whole : ',' ∉ protocol.toList

namespace Request

theorem offers_of_standard (config : Config) (host key : String) :
    Headers.getAll ⟨standardFields config host key⟩ "sec-websocket-protocol" =
      if config.subprotocols.isEmpty then [] else [", ".intercalate config.subprotocols] := by
  have own : sameName "Sec-WebSocket-Protocol" "sec-websocket-protocol" = true := by decide
  have others : ∀ name ∈ ["Host", "Connection", "Upgrade", "Sec-WebSocket-Key",
      "Sec-WebSocket-Version", "Authorization"],
      sameName name "sec-websocket-protocol" = false := by decide
  simp only [List.forall_mem_cons] at others
  unfold Headers.getAll standardFields
  cases config.subprotocols <;> cases config.authorization <;> simp [own, others]

theorem offered_of_new {url : Url} {config : Config} {nonce : Bytes} {request : Request}
    (made : new url config nonce = .ok request)
    (offerable : ∀ protocol ∈ config.subprotocols, IsOfferable protocol) :
    request.offeredProtocols = config.subprotocols := by
  obtain ⟨-, -, fields, -⟩ := parts_of_new made
  have headers : request.headers = ⟨standardFields config request.host request.key⟩ := by
    rw [← fields]
  rw [offeredProtocols, headers, offers_of_standard]
  cases protocols : config.subprotocols with
  | nil => rfl
  | cons first rest =>
      rw [protocols] at offerable
      have commaFree : ∀ piece ∈ first.toList :: rest.map String.toList, ',' ∉ piece := by
        intro piece member
        obtain ⟨protocol, among, rfl⟩ := List.mem_map.mp (List.map_cons.symm ▸ member)
        exact (offerable protocol among).whole
      have unchanged : ∀ protocol ∈ first :: rest,
          String.ofList (Text.trim protocol.toList) = protocol := by
        intro protocol among
        rw [(offerable protocol among).trimmed, String.ofList_toList]
      have pieces : (Text.split ',' (", ".intercalate (first :: rest)).toList).map
          (fun piece => String.ofList (Text.trim piece)) = first :: rest := by
        calc (Text.split ',' (", ".intercalate (first :: rest)).toList).map
              (fun piece => String.ofList (Text.trim piece))
            = ((Text.split ',' ([',', ' '].intercalate ((first :: rest).map String.toList))).map
                Text.trim).map String.ofList := by
              rw [String.toList_intercalate, List.map_map]
              rfl
          _ = (((first :: rest).map String.toList).map Text.trim).map String.ofList := by
              rw [List.map_cons, Text.trim_split_joined _ _ commaFree]
          _ = first :: rest := by
              rw [List.map_map, List.map_map]
              exact (List.map_congr_left unchanged).trans (List.map_id _)
      rw [List.isEmpty_cons, if_neg Bool.false_ne_true, List.flatMap_singleton, pieces,
        List.filter_eq_self]
      exact fun protocol among => decide_eq_true (offerable protocol among).nonempty

end Request

namespace Outcome

variable (request : Request) (response : Response) (key : Option SigningKey)

theorem evaluate_cases :
    response.status ≠ 101 ∧ evaluate request response key = rejected response key ∨
      response.status = 101 ∧ response.accept ≠ some request.expectedAccept ∧
        evaluate request response key =
          { response, closeReason := some "Sec-WebSocket-Accept mismatch" } ∨
      response.status = 101 ∧ response.accept = some request.expectedAccept ∧
        ((response.protocol = none ∧ evaluate request response key = { response, isOpen := true }) ∨
          ∃ protocol, response.protocol = some protocol ∧
            (protocol ∈ request.offeredProtocols ∧ evaluate request response key =
                { response, isOpen := true, subprotocol := some protocol } ∨
              protocol ∉ request.offeredProtocols ∧ evaluate request response key =
                { response
                  closeReason := some s!"Server selected unoffered protocol {protocol}" })) := by
  unfold evaluate
  by_cases switches : response.status = 101
  · rw [if_neg (not_not_intro switches)]
    by_cases accepts : response.accept = some request.expectedAccept
    · rw [if_neg (not_not_intro accepts)]
      refine .inr (.inr ⟨switches, accepts, ?_⟩)
      cases chosen : response.protocol with
      | none => exact .inl ⟨rfl, rfl⟩
      | some protocol =>
          refine .inr ⟨protocol, rfl, ?_⟩
          by_cases offered : protocol ∈ request.offeredProtocols
          · exact .inl ⟨offered, if_pos (List.contains_iff_mem.mpr offered)⟩
          · exact .inr ⟨offered, if_neg fun contained => offered (List.contains_iff_mem.mp contained)⟩
    · exact .inr (.inl ⟨switches, accepts, if_pos accepts⟩)
  · exact .inl ⟨switches, if_pos switches⟩

theorem key_of_answer {response : Response} {key : Option SigningKey}
    (answered : answerChallenge response key ≠ none) : key ≠ none := by
  rintro rfl
  unfold answerChallenge at answered
  split at answered
  · contradiction
  · exact answered rfl

/-- The response is the answer that the request asks for. -/
structure Accepts : Prop where
  switches : response.status = 101
  proves : response.headers.FirstIs "sec-websocket-accept"
    (Base64.encode (Sha1.digest (Utf8.encode request.key ++ Utf8.encode acceptGuid)))
  selects : response.headers.Lacks "sec-websocket-protocol" ∨
    ∃ protocol ∈ request.offeredProtocols,
      response.headers.FirstIs "sec-websocket-protocol" protocol

theorem open_or_closed :
    (Accepts request response ∧
        (∀ protocol ∈ response.protocol, protocol ∈ request.offeredProtocols) ∧
        evaluate request response key =
          { response, isOpen := true, subprotocol := response.protocol }) ∨
      (¬Accepts request response ∧ ∃ reason answer,
        (answer ≠ none → response.status = 401 ∧ key ≠ none) ∧
        evaluate request response key =
          { response, closeReason := some reason, challengeAuthorization := answer }) := by
  have proved : response.accept = some request.expectedAccept ↔
      response.headers.FirstIs "sec-websocket-accept"
        (Base64.encode (Sha1.digest (Utf8.encode request.key ++ Utf8.encode acceptGuid))) :=
    Headers.get_eq_some_iff ..
  rcases evaluate_cases request response key with
    ⟨refuses, result⟩ | ⟨-, mistaken, result⟩ | ⟨switches, proves, selection⟩
  · refine .inr ⟨fun accepts => refuses accepts.switches, _, _, ?_, result⟩
    intro answered
    by_cases challenged : response.status = 401
    · rw [if_pos challenged] at answered
      exact ⟨challenged, key_of_answer answered⟩
    · exact absurd (if_neg challenged) answered
  · exact .inr ⟨fun accepts => mistaken (proved.mpr accepts.proves), _, none, nofun, result⟩
  · rcases selection with ⟨none, result⟩ | ⟨protocol, chosen, ⟨offered, result⟩ | ⟨unoffered, result⟩⟩
    · rw [none]
      refine .inl ⟨⟨switches, proved.mp proves, .inl ?_⟩, nofun, result⟩
      exact (Headers.get_eq_none_iff ..).mp none
    · rw [chosen]
      refine .inl ⟨⟨switches, proved.mp proves, .inr ?_⟩, ?_, result⟩
      · exact ⟨protocol, offered, (Headers.get_eq_some_iff ..).mp chosen⟩
      · rintro _ ⟨⟩
        exact offered
    · refine .inr ⟨?_, _, none, nofun, result⟩
      rintro ⟨-, -, lacks | ⟨other, offered, first⟩⟩
      · exact nomatch chosen.symm.trans ((Headers.get_eq_none_iff ..).mpr lacks)
      · obtain rfl := Option.some.inj (chosen.symm.trans ((Headers.get_eq_some_iff ..).mpr first))
        exact unoffered offered

/-- A connection opens exactly when the response is the one that the request asks for, and
the other parts of the outcome follow from that. The path, the host and the headers may have
been replaced before; the key is the one that the request was made with. -/
theorem opens_exactly_when_accepted {url : Url} {config : Config} {nonce : Bytes}
    {made request : Request} (new : Request.new url config nonce = .ok made)
    (edited : request.key = made.key) (response : Response) (key : Option SigningKey) :
    let outcome := evaluate request response key
    request.key = Base64.encode nonce ∧
      (outcome.isOpen = true ↔ Accepts request response) ∧
      (outcome.closeReason = none ↔ outcome.isOpen = true) ∧
      (∀ protocol, outcome.subprotocol = some protocol ↔
        outcome.isOpen = true ∧ response.headers.FirstIs "sec-websocket-protocol" protocol) ∧
      (∀ protocol, outcome.subprotocol = some protocol → protocol ∈ request.offeredProtocols) ∧
      ((∀ protocol ∈ config.subprotocols, IsOfferable protocol) →
        made.offeredProtocols = config.subprotocols) ∧
      (outcome.challengeAuthorization ≠ none → response.status = 401 ∧ key ≠ none) ∧
      outcome.response = response := by
  intro outcome
  have keyed : request.key = Base64.encode nonce := edited.trans (Request.parts_of_new new).1
  have unedited := Request.offered_of_new new
  refine ⟨keyed, ?_⟩
  rcases open_or_closed request response key with
    ⟨accepts, offered, result⟩ | ⟨refused, reason, answer, answered, result⟩
  all_goals
    have whole : outcome = _ := result
    rw [whole]
  · refine ⟨iff_of_true rfl accepts, iff_of_true rfl rfl, ?_, offered, unedited, ?_, rfl⟩
    · intro protocol
      rw [← Headers.get_eq_some_iff]
      exact ⟨fun named => ⟨rfl, named⟩, fun ⟨_, named⟩ => named⟩
    · exact fun answers => absurd rfl answers
  · refine ⟨iff_of_false nofun refused, iff_of_false nofun nofun, ?_, nofun, unedited, answered, rfl⟩
    exact fun protocol => iff_of_false nofun fun ⟨opens, _⟩ => nomatch opens

/-- Names are found in any case and the first field of a name counts; a subprotocol that a
change has added is as good as a configured one. -/
theorem opens_for_added_offer :
    let url : Url := { scheme := "ws", host := some (.domain "example.com"), path := "/chat" }
    let config : Config := { subprotocols := ["chat", "superchat"] }
    let response : Response := { status := 101, reason := "Switching Protocols", headers := ⟨[
      ⟨"SEC-WEBSOCKET-ACCEPT", "s3pPLMBiTxaQ9kYGzzhZRbK+xOo="⟩, ⟨"Upgrade", "websocket"⟩,
      ⟨"Sec-WebSocket-Accept", "another"⟩, ⟨"sec-websocket-PROTOCOL", "beta"⟩]⟩ }
    ∃ made, Request.new url config (Utf8.encode "the sample nonce") = .ok made ∧
      let request := (made.editAll [.append "sec-websocket-protocol" " alpha,, beta"]).2
      let outcome := evaluate request response none
      made.offeredProtocols = ["chat", "superchat"] ∧
      outcome.isOpen = true ∧ outcome.closeReason = none ∧ outcome.subprotocol = some "beta" := by
  intro url config response
  have new : Request.new url config (Utf8.encode "the sample nonce") = .ok _ :=
    Request.new_of_one_line rfl rfl (by decide +kernel)
  have offerable : ∀ protocol ∈ config.subprotocols, IsOfferable protocol := by
    simp only [config, List.forall_mem_cons]
    exact ⟨⟨by decide, by decide, by decide⟩, ⟨by decide, by decide, by decide⟩, nofun⟩
  refine ⟨_, new, ?_⟩
  intro request outcome
  have edited : request.key = _ := Request.key_of_edit_all _ _
  obtain ⟨-, opens, reason, chosen, -, unedited, -⟩ :=
    opens_exactly_when_accepted new edited response none
  have selected : response.headers.FirstIs "sec-websocket-protocol" "beta" :=
    (Headers.get_eq_some_iff ..).mp (by decide +kernel)
  have accepted : Accepts request response :=
    { switches := rfl
      proves := (Headers.get_eq_some_iff ..).mp (by decide +kernel)
      selects := .inr ⟨"beta", by decide +kernel, selected⟩ }
  have isOpen := opens.mpr accepted
  exact ⟨unedited offerable, isOpen, reason.mpr isOpen, (chosen "beta").mpr ⟨isOpen, selected⟩⟩

end Outcome

end WebSocket
