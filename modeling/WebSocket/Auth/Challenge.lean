import WebSocket.Auth.Algorithm
import WebSocket.Base64
import WebSocket.Text.Blank
import WebSocket.Text.Split
import WebSocket.Text.Utf8

/-!
Signature challenges. A server that wants a signed request names a key, two
digests, a nonce and a text of its own choice; the answer is a keyed digest over
the digest of the last two.
-/

namespace WebSocket

structure SigningKey where
  keyId : String
  secret : Bytes
  deriving DecidableEq, Repr

structure Challenge where
  keyId : Option String
  hash : HashAlgorithm
  algorithm : HashAlgorithm
  nonce : String
  opaqueText : String
  deriving DecidableEq, Repr

namespace Challenge

/-- The parameters seen so far; a later one of the same name replaces an earlier one. -/
structure Parameters where
  keyId : Option String := none
  hash : Option HashAlgorithm := none
  algorithm : Option HashAlgorithm := none
  nonce : Option String := none
  opaqueText : Option String := none

/-- Reads one `name=value` piece. Pieces without `=` and unknown names are skipped. -/
def Parameters.read (parameters : Parameters) (piece : List Char) : Except Error Parameters :=
  match Text.splitOnce (· == '=') piece with
  | none => .ok parameters
  | some (rawName, rawValue) =>
      let value := String.ofList (Text.strip (· == '"') (Text.trim rawValue))
      let name := String.ofList (asciiLower (Text.trim rawName))
      if name = "keyid" then .ok { parameters with keyId := some value }
      else if name = "hash" then do
        let hash ← HashAlgorithm.ofHashName value
        .ok { parameters with hash := some hash }
      else if name = "algorithm" then do
        let algorithm ← HashAlgorithm.ofHmacName value
        .ok { parameters with algorithm := some algorithm }
      else if name = "nonce" then .ok { parameters with nonce := some value }
      else if name = "opaque" then .ok { parameters with opaqueText := some value }
      else .ok parameters

def required {Value : Type} (name : String) : Option Value → Except Error Value
  | some value => .ok value
  | none => .error (.authentication s!"Challenge missing {name}")

def parse (header : String) : Except Error Challenge := do
  let trimmed := Text.trim header.toList
  let (scheme, rest) := (Text.splitOnce Text.isBlank trimmed).getD (trimmed, [])
  if !sameName (String.ofList scheme) "signature" then
    .error (.authentication s!"Unsupported challenge scheme: {String.ofList scheme}")
  else
    let parameters ← (Text.split ',' rest).foldlM Parameters.read {}
    let hash ← required "hash" parameters.hash
    let algorithm ← required "algorithm" parameters.algorithm
    let nonce ← required "nonce" parameters.nonce
    .ok ⟨parameters.keyId, hash, algorithm, nonce, parameters.opaqueText.getD ""⟩

/-- The signature with a key, which has to be the one that the challenge names,
if it names one. -/
def sign (challenge : Challenge) (key : SigningKey) : Except Error String :=
  let expected := challenge.keyId.getD ""
  if expected ≠ "" ∧ expected ≠ key.keyId then
    .error (.authentication
      s!"Challenge requests key {expected}, configured key is {key.keyId}")
  else
    let material := Utf8.encode challenge.nonce ++ Utf8.encode challenge.opaqueText
    .ok (Base64.encode (challenge.algorithm.hmac key.secret (challenge.hash.digest material)))

def authorization (challenge : Challenge) (key : SigningKey) : Except Error String := do
  let signature ← challenge.sign key
  .ok (s!"Signature keyId=\"{key.keyId}\",nonce=\"{challenge.nonce}\"," ++
    s!"opaque=\"{challenge.opaqueText}\",signature=\"{signature}\"")

end Challenge

end WebSocket
