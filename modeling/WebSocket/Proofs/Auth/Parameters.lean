import WebSocket.Auth.Challenge
import WebSocket.Proofs.Text.Pieces

/-!
What is read of a challenge whose five parameters stand in quotes. The header is cut at its commas
before anybody looks for quotes, so a parameter is read as it is meant exactly if there is no comma
in it; the order of the parameters and the spaces around them do not matter.
-/

namespace WebSocket

namespace HashAlgorithm

variable {name : String} {algorithm : HashAlgorithm} {mark : Char}

def nameCharacters : List Char := "-hmacs12560".toList

theorem not_mem_of_hash_name (named : ofHashName name = .ok algorithm) (lower : mark.toLower = mark)
    (foreign : mark ∉ nameCharacters) : mark ∉ name.toList := by
  intro inside
  have among : mark ∈ (asciiLower name.toList).filter (· != '-') := by
    refine List.mem_filter.mpr ⟨List.mem_map.mpr ⟨mark, inside, lower⟩, bne_iff_ne.mpr ?_⟩
    rintro rfl
    exact foreign (by decide)
  have plain {known : String} (part : known.toList.all nameCharacters.contains = true) :
      String.ofList ((asciiLower name.toList).filter (· != '-')) ≠ known := by
    rintro rfl
    rw [String.toList_ofList] at part
    exact foreign (List.contains_iff_mem.mp (List.all_eq_true.mp part mark among))
  rw [ofHashName, if_neg (plain (by decide)), if_neg (plain (by decide)),
    if_neg (plain (by decide))] at named
  cases named

theorem not_mem_of_hmac_name (named : ofHmacName name = .ok algorithm) (lower : mark.toLower = mark)
    (foreign : mark ∉ nameCharacters) : mark ∉ name.toList := by
  intro inside
  have among : mark ∈ asciiLower name.toList := List.mem_map.mpr ⟨mark, inside, lower⟩
  rw [ofHmacName] at named
  split at named
  · rename_i begins
    obtain ⟨rest, same⟩ := List.isPrefixOf_iff_prefix.mp begins
    rw [← same] at among
    rw [← same, List.drop_left] at named
    rcases List.mem_append.mp among with marker | behind
    · have part : "hmac-".toList.all nameCharacters.contains = true := by decide
      exact foreign (List.contains_iff_mem.mp (List.all_eq_true.mp part mark marker))
    · refine not_mem_of_hash_name named lower foreign ?_
      rwa [String.toList_ofList]
  · cases named

end HashAlgorithm

namespace Challenge

/-- The parameters that a challenge may have. -/
inductive Parameter where
  | keyId
  | hash
  | algorithm
  | nonce
  | opaqueText
  deriving DecidableEq, Repr

namespace Parameter

def all : List Parameter := [keyId, hash, algorithm, nonce, opaqueText]

def name : Parameter → String
  | keyId => "keyId"
  | hash => "hash"
  | algorithm => "algorithm"
  | nonce => "nonce"
  | opaqueText => "opaque"

end Parameter

structure Spacing where
  beforeName : Nat := 0
  afterName : Nat := 0
  beforeValue : Nat := 0
  afterValue : Nat := 0
  deriving DecidableEq, Repr

/-- What a server means to ask for, with the digests by their names. -/
structure Demand where
  keyId : String
  hash : String
  algorithm : String
  nonce : String
  opaqueText : String
  deriving DecidableEq, Repr

def Demand.value (demand : Demand) : Parameter → String
  | .keyId => demand.keyId
  | .hash => demand.hash
  | .algorithm => demand.algorithm
  | .nonce => demand.nonce
  | .opaqueText => demand.opaqueText

def spaces (count : Nat) : List Char := List.replicate count ' '

/-- One parameter as it is written, up to the quote that ends its value. -/
def opening (name value : String) (spacing : Spacing) : List Char :=
  spaces spacing.beforeName ++ name.toList ++ spaces spacing.afterName ++
    '=' :: (spaces spacing.beforeValue ++ '"' :: value.toList)

def written (name value : String) (spacing : Spacing) : List Char :=
  opening name value spacing ++ '"' :: spaces spacing.afterValue

/-- The texts that are up to the server. -/
def Demand.texts (demand : Demand) : List String := [demand.keyId, demand.nonce, demand.opaqueText]

def Demand.pieces (demand : Demand) (order : List (Parameter × Spacing)) : List (List Char) :=
  order.map fun (parameter, spacing) => written parameter.name (demand.value parameter) spacing

/-- The header that spells a demand out, with the parameters in some order. -/
def Demand.header (demand : Demand) (order : List (Parameter × Spacing)) : String :=
  String.ofList ("Signature".toList ++ ' ' :: [','].intercalate (demand.pieces order))

theorem space_of_mem {count : Nat} {character : Char} (found : character ∈ spaces count) :
    character = ' ' := List.eq_of_mem_replicate found

theorem spaces_blank (count : Nat) : ∀ character ∈ spaces count, Text.isBlank character = true := by
  intro character found
  rw [space_of_mem found]
  rfl

theorem trim_spaces (before after : Nat) (text : List Char) :
    Text.trim (spaces before ++ text ++ spaces after) = Text.trim text := by
  rw [Text.trim, Text.strip_append_right _ (spaces_blank after), Text.strip_append_left (spaces_blank before),
    Text.trim]

theorem trim_quoted (text : List Char) : Text.trim ('"' :: (text ++ ['"'])) = '"' :: (text ++ ['"']) := by
  apply Text.strip_of_ends
  · rintro character found
    cases found
    rfl
  · intro character found
    rw [← List.cons_append, List.getLast?_concat] at found
    cases found
    rfl

theorem strip_quoted {text : List Char} (unquoted : '"' ∉ text) :
    Text.strip (· == '"') ('"' :: (text ++ ['"'])) = text := by
  have mark : ∀ character ∈ ['"'], (character == '"') = true := List.forall_mem_singleton.mpr rfl
  rw [← List.singleton_append, Text.strip_append_left mark, Text.strip_append_right text mark]
  exact Text.strip_of_wanted (Text.beq_false_of_not_mem unquoted)

namespace Parameter

theorem name_characters (parameter : Parameter) :
    ∀ character ∈ parameter.name.toList, character ≠ '=' ∧ character ≠ ',' ∧
      Text.isBlank character = false := by
  have letters : parameter.name.toList.all (fun character =>
      character != '=' && character != ',' && !Text.isBlank character) = true := by
    cases parameter <;> decide
  intro character found
  simpa [and_assoc] using List.all_eq_true.mp letters character found

theorem trim_name (parameter : Parameter) (before after : Nat) :
    Text.trim (spaces before ++ parameter.name.toList ++ spaces after) = parameter.name.toList := by
  rw [trim_spaces]
  exact Text.strip_of_wanted fun character found => (parameter.name_characters character found).2.2

end Parameter

section

variable {demand : Demand} {hash algorithm : HashAlgorithm}

def Parameters.put (demand : Demand) (hash algorithm : HashAlgorithm) (parameters : Parameters) :
    Parameter → Parameters
  | .keyId => { parameters with keyId := some demand.keyId }
  | .hash => { parameters with hash := some hash }
  | .algorithm => { parameters with algorithm := some algorithm }
  | .nonce => { parameters with nonce := some demand.nonce }
  | .opaqueText => { parameters with opaqueText := some demand.opaqueText }

theorem read_written (hashed : HashAlgorithm.ofHashName demand.hash = .ok hash)
    (keyed : HashAlgorithm.ofHmacName demand.algorithm = .ok algorithm) {parameter : Parameter}
    (unquoted : '"' ∉ (demand.value parameter).toList) (spacing : Spacing) (parameters : Parameters) :
    parameters.read (written parameter.name (demand.value parameter) spacing) =
      .ok (parameters.put demand hash algorithm parameter) := by
  have noEquals : '=' ∉ spaces spacing.beforeName ++ parameter.name.toList ++
      spaces spacing.afterName := by
    have blank (count : Nat) : '=' ∉ spaces count := fun found => nomatch space_of_mem found
    have named : '=' ∉ parameter.name.toList := fun found => (parameter.name_characters '=' found).1 rfl
    simp [blank, named]
  have cut : Text.splitOnce (· == '=') (written parameter.name (demand.value parameter) spacing) =
      some (spaces spacing.beforeName ++ parameter.name.toList ++ spaces spacing.afterName,
        spaces spacing.beforeValue ++ '"' :: ((demand.value parameter).toList ++ ['"']) ++
          spaces spacing.afterValue) := by
    have parts : written parameter.name (demand.value parameter) spacing =
        spaces spacing.beforeName ++ parameter.name.toList ++ spaces spacing.afterName ++
          '=' :: (spaces spacing.beforeValue ++ '"' :: ((demand.value parameter).toList ++ ['"']) ++
            spaces spacing.afterValue) := by
      simp [written, opening]
    rw [parts]
    exact Text.split_once_append (Text.beq_false_of_not_mem noEquals) rfl _
  rw [Parameters.read, cut]
  dsimp only
  rw [parameter.trim_name, trim_spaces, trim_quoted, strip_quoted unquoted, String.ofList_toList]
  cases parameter with
  | hash =>
      change (HashAlgorithm.ofHashName demand.hash >>= fun found =>
        .ok { parameters with hash := some found } : Except Error Parameters) = _
      rw [hashed]
      rfl
  | algorithm =>
      change (HashAlgorithm.ofHmacName demand.algorithm >>= fun found =>
        .ok { parameters with algorithm := some found } : Except Error Parameters) = _
      rw [keyed]
      rfl
  | _ => rfl

theorem read_all (hashed : HashAlgorithm.ofHashName demand.hash = .ok hash)
    (keyed : HashAlgorithm.ofHmacName demand.algorithm = .ok algorithm)
    (unquoted : ∀ parameter, '"' ∉ (demand.value parameter).toList)
    (order : List (Parameter × Spacing)) (parameters : Parameters) :
    (demand.pieces order).foldlM Parameters.read parameters =
      .ok ((order.map Prod.fst).foldl (Parameters.put demand hash algorithm) parameters) := by
  induction order generalizing parameters with
  | nil => rfl
  | cons next rest induction =>
      obtain ⟨parameter, spacing⟩ := next
      rw [Demand.pieces, List.map_cons, List.foldlM_cons, read_written hashed keyed (unquoted parameter)]
      exact induction _

theorem put_all {parameters : List Parameter} (complete : parameters.Perm Parameter.all) :
    parameters.foldl (Parameters.put demand hash algorithm) {} =
      ⟨some demand.keyId, some hash, some algorithm, some demand.nonce, some demand.opaqueText⟩ := by
  have swaps (first second : Parameter) (start : Parameters) :
      (start.put demand hash algorithm first).put demand hash algorithm second =
        (start.put demand hash algorithm second).put demand hash algorithm first := by
    cases first <;> cases second <;> rfl
  rw [complete.foldl_eq' fun first _ second _ start => swaps first second start]
  rfl

theorem header_to_list (demand : Demand) (order : List (Parameter × Spacing)) :
    (demand.header order).toList =
      "Signature".toList ++ ' ' :: [','].intercalate (demand.pieces order) :=
  String.toList_ofList

theorem header_ends (demand : Demand) (front : List (Parameter × Spacing)) (parameter : Parameter)
    (spacing : Spacing) :
    ∃ begun, begun.head? = some 'S' ∧ ∀ count,
      (demand.header (front ++ [(parameter, { spacing with afterValue := count })])).toList =
        begun ++ ['"'] ++ spaces count := by
  refine ⟨"Signature".toList ++ ' ' :: [','].intercalate (demand.pieces front ++
    [opening parameter.name (demand.value parameter) spacing]), ?_, fun count => ?_⟩
  · rw [List.head?_append, (by decide : "Signature".toList.head? = some 'S')]
    rfl
  · have last : demand.pieces (front ++ [(parameter, { spacing with afterValue := count })]) =
        demand.pieces front ++ [opening parameter.name (demand.value parameter) spacing ++
          (['"'] ++ spaces count)] := List.map_append
    rw [header_to_list, last, Text.intercalate_append]
    simp only [List.append_assoc, List.cons_append]

theorem trim_header (demand : Demand) {order : List (Parameter × Spacing)} (filled : order ≠ []) :
    ∃ closed, closed.map Prod.fst = order.map Prod.fst ∧
      Text.trim (demand.header order).toList = (demand.header closed).toList := by
  obtain ⟨front, ⟨parameter, spacing⟩, rfl⟩ := (List.eq_nil_or_concat order).resolve_left filled
  obtain ⟨begun, first, ends⟩ := header_ends demand front parameter spacing
  refine ⟨front ++ [(parameter, { spacing with afterValue := 0 })], by simp, ?_⟩
  rw [List.concat_eq_append, ends spacing.afterValue, ends 0, Text.trim,
    Text.strip_append_right _ (spaces_blank _), spaces, List.replicate_zero, List.append_nil]
  apply Text.strip_of_ends
  · intro character found
    rw [List.head?_append, first] at found
    cases found
    rfl
  · intro character found
    rw [List.getLast?_concat] at found
    cases found
    rfl

theorem parse_of_pieces {header : String} {pieces : List (List Char)} (filled : pieces ≠ [])
    (whole : ∀ piece ∈ pieces, ',' ∉ piece)
    (trimmed : Text.trim header.toList = "Signature".toList ++ ' ' :: [','].intercalate pieces) :
    parse header = (do
      let parameters ← pieces.foldlM Parameters.read {}
      let hash ← required "hash" parameters.hash
      let algorithm ← required "algorithm" parameters.algorithm
      let nonce ← required "nonce" parameters.nonce
      .ok ⟨parameters.keyId, hash, algorithm, nonce, parameters.opaqueText.getD ""⟩) := by
  have cut : Text.splitOnce Text.isBlank (Text.trim header.toList) =
      some ("Signature".toList, [','].intercalate pieces) := by
    have oneWord : "Signature".toList.all (fun character => !Text.isBlank character) = true := by decide
    rw [trimmed]
    exact Text.split_once_append (by simpa using oneWord) rfl _
  rw [parse, cut, Option.getD_some]
  dsimp only
  rw [String.ofList_toList, (by decide : sameName "Signature" "signature" = true),
    Text.split_intercalate filled whole]
  rfl

theorem comma_free_written {parameter : Parameter} (free : ',' ∉ (demand.value parameter).toList)
    (spacing : Spacing) : ',' ∉ written parameter.name (demand.value parameter) spacing := by
  have blank (count : Nat) : ',' ∉ spaces count := fun found => nomatch space_of_mem found
  have named : ',' ∉ parameter.name.toList := fun found =>
    (parameter.name_characters ',' found).2.1 rfl
  simp [written, opening, blank, named, free]

theorem parse_header {order : List (Parameter × Spacing)}
    (hashed : HashAlgorithm.ofHashName demand.hash = .ok hash)
    (keyed : HashAlgorithm.ofHmacName demand.algorithm = .ok algorithm)
    (unquoted : ∀ parameter, '"' ∉ (demand.value parameter).toList)
    (free : ∀ parameter, ',' ∉ (demand.value parameter).toList)
    (complete : (order.map Prod.fst).Perm Parameter.all) :
    parse (demand.header order) =
      .ok ⟨some demand.keyId, hash, algorithm, demand.nonce, demand.opaqueText⟩ := by
  have present {order : List (Parameter × Spacing)} (complete : (order.map Prod.fst).Perm Parameter.all) :
      order ≠ [] := by
    rintro rfl
    exact absurd complete.length_eq (by decide)
  obtain ⟨closed, same, trimmed⟩ := trim_header demand (present complete)
  rw [← same] at complete
  have filled : demand.pieces closed ≠ [] := fun empty => present complete (List.map_eq_nil_iff.mp empty)
  have whole : ∀ piece ∈ demand.pieces closed, ',' ∉ piece := by
    intro piece found
    obtain ⟨⟨parameter, spacing⟩, -, rfl⟩ := List.mem_map.mp found
    exact comma_free_written (free parameter) spacing
  rw [parse_of_pieces filled whole (trimmed.trans (header_to_list demand closed)),
    read_all hashed keyed unquoted, put_all complete]
  rfl

end

structure Parameters.Lacks (parameters : Parameters) (mark : Char) : Prop where
  keyId : ∀ value, parameters.keyId = some value → mark ∉ value.toList
  nonce : ∀ value, parameters.nonce = some value → mark ∉ value.toList
  opaqueText : ∀ value, parameters.opaqueText = some value → mark ∉ value.toList

theorem lacks_empty (mark : Char) : ({} : Parameters).Lacks mark := by
  constructor <;> intro value same <;> cases same

section

variable {mark : Char}

theorem lacks_of_read {parameters next : Parameters} {piece : List Char}
    (free : parameters.Lacks mark) (whole : mark ∉ piece) (read : parameters.read piece = .ok next) :
    next.Lacks mark := by
  rw [Parameters.read] at read
  split at read
  · cases read
    exact free
  · rename_i rawName rawValue cut
    obtain ⟨equals, rfl⟩ := Text.eq_of_split_once cut
    have value : mark ∉ (String.ofList (Text.strip (· == '"') (Text.trim rawValue))).toList := by
      rw [String.toList_ofList]
      intro found
      refine whole (List.mem_append_right rawName (List.mem_cons_of_mem equals ?_))
      exact Text.mem_of_mem_strip (Text.mem_of_mem_strip found)
    dsimp only at read
    generalize String.ofList (Text.strip (· == '"') (Text.trim rawValue)) = text at read value
    split at read
    · cases read
      exact { free with keyId := fun _ same => Option.some.inj same ▸ value }
    split at read
    · obtain ⟨hash, -, same⟩ := ok_of_bind read
      cases same
      exact ⟨free.keyId, free.nonce, free.opaqueText⟩
    split at read
    · obtain ⟨algorithm, -, same⟩ := ok_of_bind read
      cases same
      exact ⟨free.keyId, free.nonce, free.opaqueText⟩
    split at read
    · cases read
      exact { free with nonce := fun _ same => Option.some.inj same ▸ value }
    split at read
    · cases read
      exact { free with opaqueText := fun _ same => Option.some.inj same ▸ value }
    · cases read
      exact free

theorem lacks_of_pieces {pieces : List (List Char)} {parameters last : Parameters}
    (free : parameters.Lacks mark) (whole : ∀ piece ∈ pieces, mark ∉ piece)
    (read : pieces.foldlM Parameters.read parameters = .ok last) : last.Lacks mark := by
  induction pieces generalizing parameters with
  | nil =>
      cases read
      exact free
  | cons piece rest induction =>
      rw [List.foldlM_cons] at read
      obtain ⟨next, first, others⟩ := ok_of_bind read
      obtain ⟨whole, wholes⟩ := List.forall_mem_cons.mp whole
      exact induction (lacks_of_read free whole first) wholes others

structure Lacks (challenge : Challenge) (mark : Char) : Prop where
  keyId : ∀ keyId, challenge.keyId = some keyId → mark ∉ keyId.toList
  nonce : mark ∉ challenge.nonce.toList
  opaqueText : mark ∉ challenge.opaqueText.toList

/-- A mark that is in no piece of a header is in no text that is read of it. Commas are in none, and
any other mark has to be in the header itself. -/
theorem lacks_of_parse {header : String} {challenge : Challenge}
    (parsed : parse header = .ok challenge) (absent : mark = ',' ∨ mark ∉ header.toList) :
    challenge.Lacks mark := by
  rw [parse] at parsed
  dsimp only at parsed
  split at parsed
  · cases parsed
  obtain ⟨parameters, read, parsed⟩ := ok_of_bind parsed
  obtain ⟨hash, -, parsed⟩ := ok_of_bind parsed
  obtain ⟨algorithm, -, parsed⟩ := ok_of_bind parsed
  obtain ⟨nonce, present, parsed⟩ := ok_of_bind parsed
  cases parsed
  have whole : ∀ piece ∈ Text.split ',' ((Text.splitOnce Text.isBlank (Text.trim header.toList)).getD
      (Text.trim header.toList, [])).2, mark ∉ piece := by
    intro piece found
    rcases absent with rfl | absent
    · exact Text.not_mem_of_mem_split found
    · intro inside
      have trimmed : mark ∈ Text.trim header.toList :=
        Text.mem_of_mem_behind (Text.mem_of_mem_split found inside)
      exact absent (Text.mem_of_mem_strip trimmed)
  have free : parameters.Lacks mark := lacks_of_pieces (lacks_empty mark) whole read
  refine ⟨free.keyId, ?_, ?_⟩
  · cases found : parameters.nonce with
    | none =>
        rw [found] at present
        cases present
    | some value =>
        rw [found] at present
        cases present
        exact free.nonce _ found
  · cases found : parameters.opaqueText with
    | none => exact List.not_mem_nil
    | some value => exact free.opaqueText _ found

theorem comma_free_of_parse {header : String} {challenge : Challenge}
    (parsed : parse header = .ok challenge) :
    (∀ keyId, challenge.keyId = some keyId → ',' ∉ keyId.toList) ∧ ',' ∉ challenge.nonce.toList ∧
      ',' ∉ challenge.opaqueText.toList := by
  have free : challenge.Lacks ',' := lacks_of_parse parsed (.inl rfl)
  exact ⟨free.keyId, free.nonce, free.opaqueText⟩

end

section

variable {demand : Demand} {order : List (Parameter × Spacing)} {hash algorithm : HashAlgorithm}

theorem not_mem_value {mark : Char} (hashed : HashAlgorithm.ofHashName demand.hash = .ok hash)
    (keyed : HashAlgorithm.ofHmacName demand.algorithm = .ok algorithm) (lower : mark.toLower = mark)
    (foreign : mark ∉ HashAlgorithm.nameCharacters) (texts : ∀ text ∈ demand.texts, mark ∉ text.toList)
    (parameter : Parameter) : mark ∉ (demand.value parameter).toList := by
  cases parameter with
  | hash => exact HashAlgorithm.not_mem_of_hash_name hashed lower foreign
  | algorithm => exact HashAlgorithm.not_mem_of_hmac_name keyed lower foreign
  | keyId => exact texts demand.keyId (by simp [Demand.texts])
  | nonce => exact texts demand.nonce (by simp [Demand.texts])
  | opaqueText => exact texts demand.opaqueText (by simp [Demand.texts])

/-- A demand is read as it is meant exactly if the server has put no comma into its texts. What is
signed then is the digest of the nonce and the text behind it, with every key that the server
accepts. -/
theorem parse_header_iff (hashed : HashAlgorithm.ofHashName demand.hash = .ok hash)
    (keyed : HashAlgorithm.ofHmacName demand.algorithm = .ok algorithm)
    (unquoted : ∀ text ∈ demand.texts, '"' ∉ text.toList)
    (complete : (order.map Prod.fst).Perm Parameter.all) :
    (parse (demand.header order) =
        .ok ⟨some demand.keyId, hash, algorithm, demand.nonce, demand.opaqueText⟩ ↔
      ∀ text ∈ demand.texts, ',' ∉ text.toList) ∧
    ((∀ text ∈ demand.texts, ',' ∉ text.toList) → ∀ key : SigningKey,
      demand.keyId = "" ∨ demand.keyId = key.keyId →
        (parse (demand.header order) >>= fun challenge => challenge.sign key) =
          .ok (Base64.encode (algorithm.hmac key.secret
            (hash.digest (Utf8.encode demand.nonce ++ Utf8.encode demand.opaqueText))))) := by
  have reads (free : ∀ text ∈ demand.texts, ',' ∉ text.toList) :
      parse (demand.header order) =
        .ok ⟨some demand.keyId, hash, algorithm, demand.nonce, demand.opaqueText⟩ :=
    parse_header hashed keyed (not_mem_value hashed keyed (by decide) (by decide) unquoted)
      (not_mem_value hashed keyed (by decide) (by decide) free) complete
  refine ⟨⟨fun meant => ?_, reads⟩, fun free key accepted => ?_⟩
  · obtain ⟨keyId, nonce, opaqueText⟩ := comma_free_of_parse meant
    intro text found
    simp only [Demand.texts, List.mem_cons, List.not_mem_nil, or_false] at found
    rcases found with rfl | rfl | rfl
    · exact keyId _ rfl
    · exact nonce
    · exact opaqueText
  · have signs : ¬ (demand.keyId ≠ "" ∧ demand.keyId ≠ key.keyId) := by
      rintro ⟨named, other⟩
      exact accepted.elim named other
    rw [reads free]
    exact if_neg signs

/-- The parameters come in another order here, with spaces in many places, and there are spaces and
equals signs in the texts. -/
theorem parse_header_iff_of_spaces_and_equals :
    let demand : Demand := ⟨"key = 1", "SHA-256", "HMAC-sha512", " n=once ", ""⟩
    let order : List (Parameter × Spacing) :=
      [(.nonce, ⟨0, 1, 2, 0⟩), (.opaqueText, ⟨1, 0, 0, 1⟩), (.algorithm, ⟨3, 0, 1, 0⟩),
        (.keyId, ⟨0, 0, 0, 0⟩), (.hash, ⟨1, 1, 1, 4⟩)]
    parse (demand.header order) = .ok ⟨some "key = 1", .sha256, .sha512, " n=once ", ""⟩ ∧
      (parse (demand.header order) >>= fun challenge => challenge.sign ⟨"key = 1", [1, 2, 3]⟩) =
        .ok (Base64.encode (HashAlgorithm.sha512.hmac [1, 2, 3]
          (HashAlgorithm.sha256.digest (Utf8.encode " n=once " ++ Utf8.encode "")))) := by
  intro demand order
  obtain ⟨meant, signs⟩ := @parse_header_iff demand order .sha256 .sha512
    (eq_ok_of_to_option (by decide +kernel)) (eq_ok_of_to_option (by decide +kernel))
    (by decide +kernel) (by decide)
  have free : ∀ text ∈ demand.texts, ',' ∉ text.toList := by decide +kernel
  exact ⟨meant.mpr free, signs free ⟨"key = 1", [1, 2, 3]⟩ (.inr rfl)⟩

/-- Of the nonce `a,b` only `a` is read, and so only `a` is signed. -/
theorem not_reads_commas :
    let demand : Demand := ⟨"k", "sha256", "hmac-sha256", "a,b", "o"⟩
    let order : List (Parameter × Spacing) := Parameter.all.map (·, {})
    demand.header order =
        "Signature keyId=\"k\",hash=\"sha256\",algorithm=\"hmac-sha256\",nonce=\"a,b\",opaque=\"o\"" ∧
      parse (demand.header order) = .ok ⟨some "k", .sha256, .sha256, "a", "o"⟩ ∧
      parse (demand.header order) ≠ .ok ⟨some "k", .sha256, .sha256, demand.nonce, "o"⟩ := by
  intro demand order
  have spelled : demand.header order =
      "Signature keyId=\"k\",hash=\"sha256\",algorithm=\"hmac-sha256\",nonce=\"a,b\",opaque=\"o\"" := by
    decide +kernel
  have read : parse (demand.header order) = .ok ⟨some "k", .sha256, .sha256, "a", "o"⟩ :=
    eq_ok_of_to_option (by decide +kernel)
  refine ⟨spelled, read, fun same => ?_⟩
  have short : "a" = "a,b" := congrArg Challenge.nonce (Except.ok.inj (read.symm.trans same))
  exact absurd short (by decide)

end

end Challenge

end WebSocket
