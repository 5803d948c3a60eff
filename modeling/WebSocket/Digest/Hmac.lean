import WebSocket.Digest.Sha1
import WebSocket.Digest.Sha2

/-!
The digests that a signature can use, and keyed digests made of them.
-/

namespace WebSocket

inductive HashAlgorithm where
  | sha1
  | sha256
  | sha512
  deriving DecidableEq, Repr

namespace HashAlgorithm

def name : HashAlgorithm → String
  | sha1 => "Sha1"
  | sha256 => "Sha256"
  | sha512 => "Sha512"

def digest : HashAlgorithm → Bytes → Bytes
  | sha1 => Sha1.digest
  | sha256 => Sha2.digest Sha2.sha256
  | sha512 => Sha2.digest Sha2.sha512

def blockSize : HashAlgorithm → Nat
  | sha1 => 64
  | sha256 => 64
  | sha512 => 128

/-- A key longer than a block is replaced by its digest and a shorter one is
filled up with zeros. -/
def blockKey (hash : HashAlgorithm) (key : Bytes) : Bytes :=
  let short := if key.length > hash.blockSize then hash.digest key else key
  short ++ List.replicate (hash.blockSize - short.length) 0

def hmac (hash : HashAlgorithm) (key message : Bytes) : Bytes :=
  let block := hash.blockKey key
  let inner := hash.digest (block.map (fun byte => byte ^^^ 0x36) ++ message)
  hash.digest (block.map (fun byte => byte ^^^ 0x5C) ++ inner)

end HashAlgorithm

end WebSocket
