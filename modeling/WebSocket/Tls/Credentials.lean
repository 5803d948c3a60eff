import WebSocket.Error
import WebSocket.Tls.Pem

/-!
Certificates and keys from PEM files, and what can go wrong with TLS.
-/

namespace WebSocket

inductive TlsError where
  | io (reason : String)
  | configuration (reason : String)
  | handshake (reason : String)
  | noCertificatesFound
  | noPrivateKeyFound
  | invalidDnsName (name : String)
  deriving DecidableEq, Repr

namespace TlsError

def name : TlsError → String
  | io _ => "Io"
  | configuration _ => "Configuration"
  | handshake _ => "Handshake"
  | noCertificatesFound => "NoCertificatesFound"
  | noPrivateKeyFound => "NoPrivateKeyFound"
  | invalidDnsName _ => "InvalidDnsName"

def message : TlsError → String
  | io reason => s!"TLS I/O error: {reason}"
  | configuration reason => s!"TLS configuration error: {reason}"
  | handshake reason => s!"TLS handshake failed: {reason}"
  | noCertificatesFound => "no certificates found in file"
  | noPrivateKeyFound => "no private key found in file"
  | invalidDnsName name => s!"invalid DNS name: {name}"

def toError (failure : TlsError) : Error := .tls failure.message

end TlsError

structure ClientCertificate where
  chain : List Bytes
  key : PrivateKey
  deriving DecidableEq, Repr

def ClientCertificate.describe (certificate : ClientCertificate) : String :=
  let length := certificate.chain.length
  s!"Static \x7b chain_len: {length}, key: \"<redacted>\" \x7d"

/-- A file as it was found: its bytes, or why it could not be opened. -/
abbrev FileContent := Except String Bytes

namespace Credentials

def missingFile : String := "No such file or directory (os error 2)"

def certificates (file : FileContent) : Except TlsError (List Bytes) :=
  match file with
  | .error reason => .error (.io reason)
  | .ok bytes =>
      let contents := Pem.read bytes
      let found := contents.sections.filter fun part => part.label = Pem.ascii "CERTIFICATE"
      match contents.failure with
      | some failure => .error (.io failure.message)
      | none => if found.isEmpty then .error .noCertificatesFound else .ok (found.map (·.content))

def privateKey (file : FileContent) : Except TlsError PrivateKey :=
  match file with
  | .error reason => .error (.io reason)
  | .ok bytes =>
      let contents := Pem.read bytes
      match contents.sections.findSome? Pem.Section.privateKey?, contents.failure with
      | some key, _ => .ok key
      | none, some failure => .error (.io failure.message)
      | none, none => .error .noPrivateKeyFound

def clientCertificate (chainFile keyFile : FileContent) : Except TlsError ClientCertificate := do
  let chain ← certificates chainFile
  let key ← privateKey keyFile
  .ok ⟨chain, key⟩

end Credentials

end WebSocket
