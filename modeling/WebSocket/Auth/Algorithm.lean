import WebSocket.Digest.Hmac
import WebSocket.Handshake.Headers

/-!
The names under which a server asks for a digest or a keyed digest.
-/

namespace WebSocket.HashAlgorithm

/-- Case and hyphens do not count in the name of a digest. -/
def ofHashName (name : String) : Except Error HashAlgorithm :=
  let plain := String.ofList ((asciiLower name.toList).filter fun character => character != '-')
  if plain = "sha1" then .ok sha1
  else if plain = "sha256" then .ok sha256
  else if plain = "sha512" then .ok sha512
  else .error (.authentication s!"Unsupported hash: {plain}")

/-- A keyed digest is named by `hmac-` and the name of its digest. -/
def ofHmacName (name : String) : Except Error HashAlgorithm :=
  let marker := "hmac-".toList
  let lower := asciiLower name.toList
  if marker.isPrefixOf lower then ofHashName (String.ofList (lower.drop marker.length))
  else .error (.authentication s!"Unsupported algorithm: {name}")

end WebSocket.HashAlgorithm
