import WebSocket.Proofs.Auth.Answering
import WebSocket.Proofs.Url.Target

/-!
Whether the answer to a challenge can be sent. The texts in it are the server's, read of a head that
is cut into lines, so there is no line feed in them; but a carriage return that ends no line stays
where it is, and an answer with one in it is refused by the next request.
-/

namespace WebSocket

namespace Base64

theorem unbroken_digit (value : Nat) : isLineBreak (digit value) = false := by
  have small : ∀ value : Fin 62, isLineBreak (digit value.val) = false := by decide
  by_cases few : value < 62
  · exact small ⟨value, few⟩
  · rw [digit, if_neg (by omega), if_neg (by omega), if_neg few]
    split <;> rfl

theorem one_line_encode (bytes : Bytes) : IsOneLine (encode bytes) := by
  refine Text.one_line_of_unbroken ?_
  fun_induction encodeChars bytes with
  | case1 => exact Text.unbroken_nil
  | case2 => simp [Text.IsUnbroken, unbroken_digit]; decide
  | case3 => simp [Text.IsUnbroken, unbroken_digit]; decide
  | case4 => simp_all [Text.IsUnbroken, unbroken_digit]

end Base64

namespace Head

/-- Every carriage return is followed by a line feed. -/
def IsLined (head : Bytes) : Prop :=
  ∀ index < head.length, head[index]? = some 13 → head[index + 1]? = some 10

instance (head : Bytes) : Decidable (IsLined head) := inferInstanceAs (Decidable (∀ index < _, _ → _))

theorem no_break_of_lined {text : String} (lined : IsLined (Utf8.encode text)) {character : Char}
    (stands : Text.StandsWithin character text.toList) : isLineBreak character = false := by
  obtain ⟨before, behind, split, noFeed, noEnd⟩ := stands
  refine Text.no_break_of_ne ?_ noFeed
  rintro rfl
  refine noEnd rfl ?_
  let front := before.flatMap String.utf8EncodeChar
  have bytes : Utf8.encode text = front ++ 13 :: behind.flatMap String.utf8EncodeChar := by
    rw [Utf8.encode_eq_flat_map, split, List.flatMap_append, List.flatMap_cons]
    rfl
  have next : (13 :: behind.flatMap String.utf8EncodeChar)[1]? = some 10 := by
    have returns := lined front.length (by rw [bytes]; simp) (by rw [bytes]; simp)
    rwa [bytes, List.getElem?_append_right (Nat.le_add_right ..), Nat.add_sub_cancel_left] at returns
  rw [List.getElem?_cons_succ, ← List.head?_eq_getElem?] at next
  cases behind with
  | nil => cases next
  | cons second rest =>
      have filled : String.utf8EncodeChar second ≠ [] :=
        List.length_pos_iff.mp (String.length_utf8EncodeChar second ▸ second.utf8Size_pos)
      rw [List.flatMap_cons, List.head?_append, List.head?_eq_some_head filled, Option.some_or] at next
      have inside : 10 ∈ String.utf8EncodeChar second := Option.some.inj next ▸ List.head_mem filled
      have feeds : second.toNat = 10 := (Utf8.mem_encode_char (by decide) second).mp inside
      exact congrArg some (Char.toNat_inj.mp feeds)

end Head

namespace Challenge

variable {challenge : Challenge} {key : SigningKey} {mark : Char}

theorem mem_answer_iff (breaks : isLineBreak mark = true) :
    mark ∈ (challenge.answer key).toList ↔
      mark ∈ key.keyId.toList ∨ mark ∈ challenge.nonce.toList ∨ mark ∈ challenge.opaqueText.toList := by
  have absent {text : String} (oneLine : IsOneLine text) : mark ∉ text.toList :=
    Text.not_mem_of_one_line oneLine breaks
  have first : mark ∉ "Signature keyId=\"".toList := absent rfl
  have second : mark ∉ "\",nonce=\"".toList := absent rfl
  have third : mark ∉ "\",opaque=\"".toList := absent rfl
  have fourth : mark ∉ "\",signature=\"".toList := absent rfl
  have signature : mark ∉ (challenge.signature key).toList := absent (Base64.one_line_encode _)
  have last : mark ∉ "\"".toList := absent rfl
  unfold answer
  simp only [String.toList_append, List.mem_append, signature, first, second, third, fourth, last,
    false_or, or_false]
  exact or_assoc

theorem not_mem_answer {text : String} (asked : parse text = .ok challenge)
    (named : IsOneLine key.keyId) (breaks : isLineBreak mark = true) (absent : mark ∉ text.toList) :
    mark ∉ (challenge.answer key).toList := by
  have texts : challenge.Lacks mark := lacks_of_parse asked (.inr absent)
  have keyId := Text.not_mem_of_one_line named breaks
  rw [mem_answer_iff breaks]
  rintro (inKey | inNonce | inText)
  · exact keyId inKey
  · exact texts.nonce inNonce
  · exact texts.opaqueText inText

end Challenge

namespace Response

theorem stands_within_of_parse {head : Bytes} {response : Response} (parsed : parse head = .ok response) :
    ∃ text, head = Utf8.encode text ∧ ∀ field ∈ response.headers.fields,
      ∀ character ∈ field.value.toList, Text.StandsWithin character text.toList := by
  unfold parse at parsed
  split at parsed
  · cases parsed
  rename_i text decoded
  refine ⟨text, Utf8.decode_eq_some_iff.mp decoded, ?_⟩
  split at parsed
  · cases parsed
  rename_i statusLine rest cut
  unfold parseLines at parsed
  dsimp only at parsed
  split at parsed
  · cases parsed
  split at parsed
  · cases parsed
  cases parsed
  intro field member character inside
  obtain ⟨line, among, read⟩ := List.mem_filterMap.mp member
  have found : line ∈ Text.lines text.toList :=
    cut ▸ List.mem_cons_of_mem statusLine ((List.takeWhile_sublist _).subset among)
  refine Text.stands_within_of_mem_lines found ?_
  obtain ⟨⟨name, value⟩, apart, same⟩ := Option.map_eq_some_iff.mp read
  obtain ⟨colon, whole⟩ := Text.eq_of_split_once apart
  subst same
  rw [String.toList_ofList] at inside
  rw [whole]
  exact List.mem_append_right name (List.mem_cons_of_mem colon (Text.mem_of_mem_strip inside))

end Response

namespace Request

variable {url : Url} {config : Config} {nonce : Bytes} {request : Request} {value : String}

theorem standard_fields_with_authorization (config : Config) (host key value : String) :
    standardFields (config.withAuthorization value) host key =
      standardFields { config with authorization := none } host key ++ [⟨"Authorization", value⟩] := by
  simp [standardFields, Config.withAuthorization]

theorem one_line_of_other_key (made : new url config nonce = .ok request) (fresh : Bytes) :
    ∀ field ∈ standardFields { config with authorization := none } request.host (Base64.encode fresh),
      field.IsOneLine := by
  obtain ⟨-, -, fields, oneLines⟩ := parts_of_new made
  rw [fields] at oneLines
  intro field member
  have known : field = ⟨"Sec-WebSocket-Key", Base64.encode fresh⟩ ∨
      field ∈ standardFields config request.host request.key := by
    simp only [standardFields, List.mem_append, List.mem_cons, Option.map_none, Option.toList_none,
      List.not_mem_nil, or_false] at member ⊢
    rcases member with (same | same | same | same | same) | protocols
    · exact .inr (.inl (.inl (.inl same)))
    · exact .inr (.inl (.inl (.inr (.inl same))))
    · exact .inr (.inl (.inl (.inr (.inr (.inl same)))))
    · exact .inl same
    · exact .inr (.inl (.inl (.inr (.inr (.inr (.inr same))))))
    · exact .inr (.inl (.inr protocols))
  rcases known with rfl | known
  · have named : IsOneLine "Sec-WebSocket-Key" := rfl
    exact ⟨named, Base64.one_line_encode fresh⟩
  · exact oneLines field known

theorem new_with_authorization (made : new url config nonce = .ok request) (value : String) (fresh : Bytes) :
    new url (config.withAuthorization value) fresh =
      match checkHeaderValue "Authorization" value with
      | .error failure => .error failure
      | .ok () => .ok ⟨target url, request.host,
          ⟨standardFields (config.withAuthorization value) request.host (Base64.encode fresh)⟩,
          Base64.encode fresh⟩ := by
  obtain ⟨name, named, rendered⟩ := named_of_new made
  rw [new_of_named named rendered, standard_fields_with_authorization,
    append_fields_append (one_line_of_other_key made fresh), appendFields, Headers.append]
  have header : checkHeaderValue "Authorization" "Authorization" = .ok () := check_of_one_line rfl
  rw [header]
  cases checkHeaderValue "Authorization" value <;> rfl

theorem sent_with_authorization {text : String} (read : Url.parse text = .ok url)
    (made : new url config nonce = .ok request) (oneLine : IsOneLine value) (fresh : Bytes) :
    ∃ second, new url (config.withAuthorization value) fresh = .ok second ∧ second.write.1 = .ok () := by
  have plain : IsOneLine "Authorization" := rfl
  have authorization : HeaderField.IsOneLine ⟨"Authorization", value⟩ := ⟨plain, oneLine⟩
  have target := Url.one_line_target (Url.one_line_target_of_parse read)
  rw [new_with_authorization made, check_of_one_line oneLine]
  refine ⟨_, rfl, (write_of_one_line ?_ target).1⟩
  rw [standard_fields_with_authorization]
  exact List.forall_mem_append.mpr
    ⟨one_line_of_other_key made fresh, List.forall_mem_singleton.mpr authorization⟩

end Request

namespace Outcome

/-- An answer to a challenge can be sent with the next request unless there is a carriage return in
it; there is never a line feed. The carriage return stands in the nonce or in the text behind it, and
only where the head of the response holds one that ends no line. -/
theorem prepared_answer_is_sendable_iff {text value : String} {url : Url} {config : Config}
    {nonce head : Bytes} {made request : Request} {response : Response} {key : SigningKey}
    (read : Url.parse text = .ok url) (new : Request.new url config nonce = .ok made)
    (parsed : Response.parse head = .ok response) (named : IsOneLine key.keyId)
    (prepared : (evaluate request response (some key)).challengeAuthorization = some value)
    (fresh : Bytes) :
    let again := Request.new url (config.withAuthorization value) fresh
    (checkHeaderValue "Authorization" value = .ok () ↔ '\r' ∉ value.toList) ∧
      ('\r' ∉ value.toList → ∃ second, again = .ok second ∧ second.write.1 = .ok ()) ∧
      ('\r' ∈ value.toList →
        again = .error (.invalidHeaderValue "Authorization" "contains CR or LF characters")) ∧
      (∃ field ∈ response.headers.fields, ∃ challenge, Challenge.parse field.value = .ok challenge ∧
        value = challenge.answer key ∧
          ('\r' ∈ value.toList ↔ '\r' ∈ challenge.nonce.toList ∨ '\r' ∈ challenge.opaqueText.toList)) ∧
      (Head.IsLined head → '\r' ∉ value.toList) := by
  intro again
  obtain ⟨before, field, behind, split, -, -, challenge, asked, -, answered⟩ :=
    (answer_eq_some_iff response key value).mp (answer_of_prepared prepared)
  have member : field ∈ response.headers.fields := split ▸ List.mem_append_right before List.mem_cons_self
  obtain ⟨whole, bytes, stands⟩ := Response.stands_within_of_parse parsed
  have lacks {mark : Char} (breaks : isLineBreak mark = true) (absent : mark ∉ field.value.toList) :
      mark ∉ value.toList :=
    answered ▸ Challenge.not_mem_answer asked named breaks absent
  have noFeed : '\n' ∉ value.toList := lacks rfl fun found => by
    obtain ⟨-, -, -, other, -⟩ := stands field member '\n' found
    exact other rfl
  have oneLine : IsOneLine value ↔ '\r' ∉ value.toList := Text.one_line_iff_of_no_feed noFeed
  refine ⟨⟨?_, fun noReturn => check_of_one_line (oneLine.mpr noReturn)⟩, ?_, ?_, ?_, ?_⟩
  · intro passes returns
    rw [check_of_break fun fits => oneLine.mp fits returns] at passes
    cases passes
  · exact fun noReturn => Request.sent_with_authorization read new (oneLine.mpr noReturn) fresh
  · intro returns
    have once : again = _ := Request.new_with_authorization new value fresh
    rw [once, check_of_break fun fits => oneLine.mp fits returns]
  · refine ⟨field, member, challenge, asked, answered, ?_⟩
    have keyId : '\r' ∉ key.keyId.toList := Text.not_mem_of_one_line named rfl
    rw [answered, Challenge.mem_answer_iff rfl]
    exact or_iff_right keyId
  · intro lined
    rw [bytes] at lined
    refine lacks rfl fun found => ?_
    exact nomatch Head.no_break_of_lined lined (stands field member '\r' found)

/-- All lines of this head end properly, one of them with a line feed only. -/
theorem prepared_answer_is_sendable_of_lined_head :
    let head := Utf8.encode ("HTTP/1.1 401 Unauthorized\nX-Note: 1\r\nWWW-AUTHENTICATE: " ++
      "Signature hash=sha512,algorithm=hmac-sha1,nonce=\"n-1\",opaque=\"o=1\"\r\n\r\n")
    let key : SigningKey := ⟨"k1", [1, 2, 3]⟩
    let value := Challenge.answer ⟨none, .sha512, .sha1, "n-1", "o=1"⟩ key
    let config : Config := { subprotocols := ["chat"], authorization := some "Basic eDp5" }
    let sample := Utf8.encode "the sample nonce"
    ∃ url made response, Url.parse "ws://[2001:db8::1]:9000/chat?a=\t1" = .ok url ∧
      Request.new url config sample = .ok made ∧ Response.parse head = .ok response ∧
      IsOneLine key.keyId ∧
      (evaluate made response (some key)).challengeAuthorization = some value ∧ Head.IsLined head ∧
      ∃ second, Request.new url (config.withAuthorization value) sample = .ok second ∧
        second.write.1 = .ok () := by
  intro head key value config sample
  let url : Url :=
    { scheme := "ws", hasAuthority := true, host := some (.ipv6 ⟨[0x2001, 0xdb8, 0, 0, 0, 0, 0, 1]⟩)
      port := some 9000, path := "/chat", query := some "a=1" }
  let asked : HeaderField :=
    ⟨"WWW-AUTHENTICATE", "Signature hash=sha512,algorithm=hmac-sha1,nonce=\"n-1\",opaque=\"o=1\""⟩
  let response : Response :=
    { status := 401, reason := "Unauthorized", headers := ⟨[⟨"X-Note", "1"⟩, asked]⟩ }
  have read : Url.parse "ws://[2001:db8::1]:9000/chat?a=\t1" = .ok url :=
    eq_ok_of_to_option (by decide +kernel)
  obtain ⟨made, new⟩ : ∃ made, Request.new url config sample = .ok made :=
    ⟨_, Request.new_of_one_line rfl rfl (by decide +kernel)⟩
  have parsed : Response.parse head = .ok response := eq_ok_of_to_option (by decide +kernel)
  have challenged : Challenge.parse asked.value = .ok ⟨none, .sha512, .sha1, "n-1", "o=1"⟩ :=
    eq_ok_of_to_option (by decide +kernel)
  have named : IsOneLine key.keyId := by decide +kernel
  have others : ∀ other ∈ [(⟨"X-Note", "1"⟩ : HeaderField)], ¬other.IsChallenge := by decide
  have answers : asked.IsAnsweredBy key value := ⟨by decide, _, challenged, .inl rfl, rfl⟩
  have given : answerChallenge response (some key) = some value :=
    (answer_eq_some_iff response key value).mpr ⟨[⟨"X-Note", "1"⟩], asked, [], rfl, others, answers⟩
  have prepared : (evaluate made response (some key)).challengeAuthorization = some value :=
    (evaluate_of_unauthorized rfl made (some key)).trans given
  have lined : Head.IsLined head := by decide +kernel
  obtain ⟨-, sends, -, -, proper⟩ :=
    prepared_answer_is_sendable_iff read new parsed named prepared sample
  exact ⟨url, made, response, read, new, parsed, named, prepared, lined, sends (proper lined)⟩

/-- Within its line the nonce holds a carriage return, which comes back in the answer. -/
theorem not_sendable_after_lone_return :
    let head := Utf8.encode ("HTTP/1.1 401 Unauthorized\r\nWWW-Authenticate: " ++
      "Signature keyId=\"k\",hash=\"sha256\",algorithm=\"hmac-sha256\"," ++
      "nonce=\"a\rb\",opaque=\"o\"\r\n\r\n")
    let key : SigningKey := ⟨"k", Utf8.encode "secret"⟩
    let value := Challenge.answer ⟨some "k", .sha256, .sha256, "a\rb", "o"⟩ key
    let sample := Utf8.encode "the sample nonce"
    ∃ url made response, Url.parse "ws://[::1]/" = .ok url ∧ Request.new url {} sample = .ok made ∧
      Response.parse head = .ok response ∧ IsOneLine key.keyId ∧
      (evaluate made response (some key)).challengeAuthorization = some value ∧
      checkHeaderValue "Authorization" value ≠ .ok () ∧
      Request.new url (Config.withAuthorization {} value) sample =
        .error (.invalidHeaderValue "Authorization" "contains CR or LF characters") := by
  intro head key value sample
  let url : Url :=
    { scheme := "ws", hasAuthority := true, host := some (.ipv6 ⟨[0, 0, 0, 0, 0, 0, 0, 1]⟩), path := "/" }
  let asked : HeaderField := ⟨"WWW-Authenticate", "Signature keyId=\"k\",hash=\"sha256\"," ++
    "algorithm=\"hmac-sha256\",nonce=\"a\rb\",opaque=\"o\""⟩
  let response : Response := { status := 401, reason := "Unauthorized", headers := ⟨[asked]⟩ }
  have read : Url.parse "ws://[::1]/" = .ok url := eq_ok_of_to_option (by decide +kernel)
  obtain ⟨made, new⟩ : ∃ made, Request.new url {} sample = .ok made :=
    ⟨_, Request.new_of_one_line rfl rfl (by decide +kernel)⟩
  have parsed : Response.parse head = .ok response := eq_ok_of_to_option (by decide +kernel)
  have challenged : Challenge.parse asked.value = .ok ⟨some "k", .sha256, .sha256, "a\rb", "o"⟩ :=
    eq_ok_of_to_option (by decide +kernel)
  have answers : asked.IsAnsweredBy key value := ⟨by decide, _, challenged, .inr (.inr rfl), rfl⟩
  have given : answerChallenge response (some key) = some value :=
    (answer_eq_some_iff response key value).mpr ⟨[], asked, [], rfl, nofun, answers⟩
  have broken : ¬IsOneLine value := by
    intro oneLine
    have returns : '\r' ∈ value.toList := (Challenge.mem_answer_iff rfl).mpr (.inr (.inl (by decide)))
    exact Text.not_mem_of_one_line oneLine rfl returns
  have refused : checkHeaderValue "Authorization" value = _ := check_of_break broken
  refine ⟨url, made, response, read, new, parsed, by decide +kernel, ?_, ?_, ?_⟩
  · exact (evaluate_of_unauthorized rfl made (some key)).trans given
  · rw [refused]
    exact nofun
  · rw [Request.new_with_authorization new, refused]

end Outcome

end WebSocket
