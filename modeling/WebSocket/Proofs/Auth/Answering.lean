import WebSocket.Proofs.Auth.Parameters
import WebSocket.Proofs.Handshake.Opening
import WebSocket.Proofs.Text.Encoding

/-!
Which response of status 401 is answered, and how. A response may hold several challenges, each in
a field of its own. Only the first of them is looked at: an answer that a later one asks for is not
given, even where the first one asks for a scheme or a key that nobody has.
-/

namespace WebSocket

namespace Challenge

def Accepts (challenge : Challenge) (key : SigningKey) : Prop :=
  challenge.keyId = none ∨ challenge.keyId = some "" ∨ challenge.keyId = some key.keyId

def signature (challenge : Challenge) (key : SigningKey) : String :=
  Base64.encode (challenge.algorithm.hmac key.secret
    (challenge.hash.digest (Utf8.encode (challenge.nonce ++ challenge.opaqueText))))

/-- The answer to the challenge, as it stands in a header. -/
def answer (challenge : Challenge) (key : SigningKey) : String :=
  "Signature keyId=\"" ++ key.keyId ++ "\",nonce=\"" ++ challenge.nonce ++ "\",opaque=\"" ++
    challenge.opaqueText ++ "\",signature=\"" ++ challenge.signature key ++ "\""

variable {challenge : Challenge} {key : SigningKey} {value : String}

theorem sign_of_accepts (accepts : challenge.Accepts key) :
    challenge.sign key = .ok (challenge.signature key) := by
  have signs : ¬(challenge.keyId.getD "" ≠ "" ∧ challenge.keyId.getD "" ≠ key.keyId) := by
    rintro ⟨named, other⟩
    rcases accepts with nobody | nobody | same
    · exact named (by rw [nobody, Option.getD_none])
    · exact named (by rw [nobody, Option.getD_some])
    · exact other (by rw [same, Option.getD_some])
  rw [sign]
  dsimp only
  rw [if_neg signs, signature, Utf8.encode_append]

theorem refused_of_other_key (other : ¬challenge.Accepts key) :
    ∃ failure, challenge.authorization key = .error failure := by
  have refuses : challenge.keyId.getD "" ≠ "" ∧ challenge.keyId.getD "" ≠ key.keyId := by
    cases named : challenge.keyId with
    | none => exact absurd (.inl named) other
    | some name =>
        refine ⟨?_, ?_⟩
        · rintro rfl
          exact other (.inr (.inl named))
        · rintro rfl
          exact other (.inr (.inr named))
  rw [authorization, sign]
  dsimp only
  rw [if_pos refuses]
  exact ⟨_, rfl⟩

theorem authorization_eq_ok_iff :
    challenge.authorization key = .ok value ↔ challenge.Accepts key ∧ value = challenge.answer key := by
  by_cases accepts : challenge.Accepts key
  · have spelled : challenge.authorization key = .ok (challenge.answer key) := by
      have joined : "\",opaque=\"" = "\"," ++ "opaque=\"" := by decide +kernel
      rw [authorization, sign_of_accepts accepts]
      unfold answer
      generalize challenge.signature key = signature
      change Except.ok _ = Except.ok _
      rw [joined]
      simp only [String.append_assoc, toString]
    rw [spelled, Except.ok.injEq]
    exact ⟨fun same => ⟨accepts, same.symm⟩, fun ⟨_, same⟩ => same.symm⟩
  · obtain ⟨failure, refused⟩ := refused_of_other_key accepts
    rw [refused]
    exact iff_of_false nofun fun ⟨accepted, _⟩ => accepts accepted

end Challenge

namespace HeaderField

/-- The field holds a challenge, of whatever scheme. -/
def IsChallenge (field : HeaderField) : Prop := sameName field.name "www-authenticate" = true

instance (field : HeaderField) : Decidable field.IsChallenge := inferInstanceAs (Decidable (_ = true))

/-- The field holds a challenge that the key answers with this value. -/
def IsAnsweredBy (field : HeaderField) (key : SigningKey) (value : String) : Prop :=
  field.IsChallenge ∧ ∃ challenge, Challenge.parse field.value = .ok challenge ∧
    challenge.Accepts key ∧ value = challenge.answer key

end HeaderField

namespace Outcome

variable {response : Response} {key : SigningKey} {value : String} {before behind : List HeaderField}
  {field : HeaderField}

theorem exists_first_challenge {fields : List HeaderField} (challenged : ∃ field ∈ fields, field.IsChallenge) :
    ∃ before field behind, fields = before ++ field :: behind ∧ field.IsChallenge ∧
      ∀ other ∈ before, ¬other.IsChallenge := by
  obtain ⟨field, member, challenges⟩ := challenged
  have found : (fields.find? fun field => decide field.IsChallenge).isSome :=
    List.find?_isSome.mpr ⟨field, member, decide_eq_true challenges⟩
  obtain ⟨first, found⟩ := Option.isSome_iff_exists.mp found
  obtain ⟨named, before, behind, split, others⟩ := List.find?_eq_some_iff_append.mp found
  exact ⟨before, first, behind, split, of_decide_eq_true named,
    fun other member => by simpa using others other member⟩

theorem challenged_of_answer (given : answerChallenge response (some key) = some value) :
    ∃ field ∈ response.headers.fields, field.IsChallenge := by
  have present : response.headers.get? "www-authenticate" ≠ none := by
    intro absent
    unfold answerChallenge at given
    rw [absent] at given
    cases given
  have found : ¬response.headers.Lacks "www-authenticate" :=
    fun lacks => present ((Headers.get_eq_none_iff ..).mpr lacks)
  simpa [Headers.Lacks, HeaderField.IsChallenge] using found

theorem answer_of_first (split : response.headers.fields = before ++ field :: behind)
    (others : ∀ other ∈ before, ¬other.IsChallenge) (challenges : field.IsChallenge) (value : String) :
    answerChallenge response (some key) = some value ↔ field.IsAnsweredBy key value := by
  have first : response.headers.get? "www-authenticate" = some field.value := by
    refine (Headers.get_eq_some_iff ..).mpr ⟨before, field, behind, split, challenges, rfl, ?_⟩
    exact fun other member => Bool.not_eq_true _ ▸ others other member
  unfold answerChallenge
  rw [first]
  dsimp only
  cases parsed : Challenge.parse field.value with
  | error failure =>
      refine iff_of_false nofun ?_
      rintro ⟨-, challenge, read, -⟩
      exact nomatch parsed.symm.trans read
  | ok challenge =>
      constructor
      · intro answered
        exact ⟨challenges, challenge, parsed,
          Challenge.authorization_eq_ok_iff.mp (eq_ok_of_to_option answered)⟩
      · rintro ⟨-, other, read, answers⟩
        obtain rfl := Except.ok.inj (parsed.symm.trans read)
        exact congrArg Except.toOption (Challenge.authorization_eq_ok_iff.mpr answers)

theorem answer_eq_some_iff (response : Response) (key : SigningKey) (value : String) :
    answerChallenge response (some key) = some value ↔
      ∃ before field behind, response.headers.fields = before ++ field :: behind ∧
        (∀ other ∈ before, ¬other.IsChallenge) ∧ field.IsAnsweredBy key value := by
  constructor
  · intro given
    obtain ⟨before, field, behind, split, challenges, others⟩ :=
      exists_first_challenge (challenged_of_answer given)
    exact ⟨before, field, behind, split, others, (answer_of_first split others challenges value).mp given⟩
  · rintro ⟨before, field, behind, split, others, answers⟩
    exact (answer_of_first split others answers.1 value).mpr answers

theorem evaluate_of_unauthorized (unauthorized : response.status = 401) (request : Request)
    (key : Option SigningKey) :
    (evaluate request response key).challengeAuthorization = answerChallenge response key := by
  have refuses : response.status ≠ 101 := by
    rw [unauthorized]
    decide
  rw [evaluate, if_pos refuses, rejected]
  exact if_pos unauthorized

theorem answer_of_prepared {request : Request} {key : Option SigningKey}
    (prepared : (evaluate request response key).challengeAuthorization = some value) :
    answerChallenge response key = some value := by
  rcases evaluate_cases request response key with
    ⟨-, result⟩ | ⟨-, -, result⟩ | ⟨-, -, ⟨-, result⟩ | ⟨protocol, -, ⟨-, result⟩ | ⟨-, result⟩⟩⟩
  · rw [result] at prepared
    exact (Option.ite_none_right_eq_some.mp prepared).2
  all_goals
    rw [result] at prepared
    cases prepared

/-- The answer to a response of status 401 is the one to its first challenge. So the first challenge
that the key can answer is answered exactly if it is the first of all challenges, and otherwise none
is; where the key can answer none, there is no answer either. -/
theorem answers_first_challenge_only (unauthorized : response.status = 401) (request : Request)
    (key : SigningKey) :
    let answered := (evaluate request response (some key)).challengeAuthorization
    (∀ value, answered = some value ↔
      ∃ before field behind, response.headers.fields = before ++ field :: behind ∧
        (∀ other ∈ before, ¬other.IsChallenge) ∧ field.IsAnsweredBy key value) ∧
    (∀ before field behind value, response.headers.fields = before ++ field :: behind →
      (∀ other ∈ before, ∀ value, ¬other.IsAnsweredBy key value) → field.IsAnsweredBy key value →
        (answered = some value ↔ ∀ other ∈ before, ¬other.IsChallenge) ∧
        (answered = none ↔ ∃ other ∈ before, other.IsChallenge)) ∧
    ((∀ field ∈ response.headers.fields, ∀ value, ¬field.IsAnsweredBy key value) → answered = none) := by
  intro answered
  have whole : answered = answerChallenge response (some key) :=
    evaluate_of_unauthorized unauthorized request (some key)
  have exact := answer_eq_some_iff response key
  rw [← whole] at exact
  refine ⟨exact, ?_, ?_⟩
  · intro before field behind value split unanswered answers
    by_cases challenged : ∃ other ∈ before, other.IsChallenge
    · obtain ⟨front, first, rest, cut, challenges, others⟩ := exists_first_challenge challenged
      rw [cut, List.append_assoc, List.cons_append] at split
      have silent : answered = none := by
        rw [whole, Option.eq_none_iff_forall_ne_some]
        intro value given
        have member : first ∈ before := cut ▸ List.mem_append_right front List.mem_cons_self
        exact unanswered first member value ((answer_of_first split others challenges value).mp given)
      rw [silent]
      refine ⟨iff_of_false nofun fun none => ?_, iff_of_true rfl challenged⟩
      obtain ⟨other, member, challenges⟩ := challenged
      exact none other member challenges
    · have others : ∀ other ∈ before, ¬other.IsChallenge :=
        fun other member challenges => challenged ⟨other, member, challenges⟩
      have given : answered = some value := (exact value).mpr ⟨before, field, behind, split, others, answers⟩
      rw [given]
      exact ⟨iff_of_true rfl others, iff_of_false nofun challenged⟩
  · intro unanswered
    rw [Option.eq_none_iff_forall_ne_some]
    intro value given
    obtain ⟨before, field, behind, split, -, answers⟩ := (exact value).mp given
    have member : field ∈ response.headers.fields := split ▸ List.mem_append_right before List.mem_cons_self
    exact unanswered field member value answers

/-- Names of fields are written in any case, and what stands behind the first challenge or is named
otherwise does not matter. -/
theorem answers_first_challenge_before_another :
    let challenge : Challenge := ⟨none, .sha1, .sha512, "n-1", ""⟩
    let key : SigningKey := ⟨"k1", [1, 2, 3]⟩
    let request : Request := { path := "/", host := "example.com", headers := {}, key := "" }
    let response : Response := { status := 401, reason := "Unauthorized", headers := ⟨[
      ⟨"Content-Length", "0"⟩,
      ⟨"www-AUTHENTICATE", "signature hash=SHA-1,algorithm=hmac-sha512, nonce=\"n-1\""⟩,
      ⟨"WWW-Authenticate", "Basic realm=\"r\""⟩]⟩ }
    response.status = 401 ∧
      (evaluate request response (some key)).challengeAuthorization = some (challenge.answer key) := by
  intro challenge key request response
  obtain ⟨exact, -⟩ := @answers_first_challenge_only response rfl request key
  have parsed : Challenge.parse "signature hash=SHA-1,algorithm=hmac-sha512, nonce=\"n-1\"" =
      .ok challenge := eq_ok_of_to_option (by decide +kernel)
  have others : ∀ other ∈ [(⟨"Content-Length", "0"⟩ : HeaderField)], ¬other.IsChallenge := by decide
  refine ⟨rfl, (exact _).mpr ⟨[⟨"Content-Length", "0"⟩], _, _, rfl, others, ?_⟩⟩
  exact ⟨by decide, challenge, parsed, .inl rfl, rfl⟩

/-- The challenge for a signature comes behind one of another scheme, and nobody answers it. -/
theorem not_answers_second_challenge :
    let head := Utf8.encode ("HTTP/1.1 401 Unauthorized\r\nWWW-Authenticate: Basic realm=\"r\"\r\n" ++
      "WWW-Authenticate: Signature keyId=\"k\",hash=\"sha256\",algorithm=\"hmac-sha256\"," ++
      "nonce=\"n\",opaque=\"o\"\r\n\r\n")
    let challenge : Challenge := ⟨some "k", .sha256, .sha256, "n", "o"⟩
    let key : SigningKey := ⟨"k", Utf8.encode "secret"⟩
    let request : Request := { path := "/", host := "h", headers := {}, key := "" }
    ∃ response, Response.parse head = .ok response ∧ response.status = 401 ∧
      (∃ field ∈ response.headers.fields, field.IsAnsweredBy key (challenge.answer key)) ∧
      (evaluate request response (some key)).challengeAuthorization = none := by
  intro head challenge key request
  let asked : HeaderField := ⟨"WWW-Authenticate", "Signature keyId=\"k\",hash=\"sha256\"," ++
    "algorithm=\"hmac-sha256\",nonce=\"n\",opaque=\"o\""⟩
  let response : Response :=
    { status := 401, reason := "Unauthorized"
      headers := ⟨[⟨"WWW-Authenticate", "Basic realm=\"r\""⟩, asked]⟩ }
  have read : Response.parse head = .ok response :=
    eq_ok_of_to_option (by decide +kernel)
  have parsed : Challenge.parse asked.value = .ok challenge :=
    eq_ok_of_to_option (by decide +kernel)
  have first : response.headers.get? "www-authenticate" = some "Basic realm=\"r\"" := by
    decide +kernel
  refine ⟨response, read, rfl, ⟨asked, ?_, ?_, challenge, parsed, .inr (.inr rfl), rfl⟩, ?_⟩
  · exact List.mem_cons_of_mem _ List.mem_cons_self
  · decide
  · have refused : (Challenge.parse "Basic realm=\"r\"").toOption = none := by decide +kernel
    rw [evaluate_of_unauthorized rfl]
    unfold answerChallenge
    rw [first]
    dsimp only
    cases basic : Challenge.parse "Basic realm=\"r\"" with
    | error failure => rfl
    | ok other =>
        rw [basic] at refused
        cases refused

end Outcome

end WebSocket
