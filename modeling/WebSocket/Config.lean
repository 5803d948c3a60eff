import WebSocket.Auth.Challenge
import WebSocket.Limits
import WebSocket.Tls.Credentials

/-!
The settings of a client. Durations are in milliseconds.
-/

namespace WebSocket

structure Timeouts where
  request : Nat := 30000
  read : Nat := 60000
  write : Nat := 30000
  close : Nat := 5000
  tickGuard : Nat := 1000
  deriving DecidableEq, Repr

/-- A recurring task that is off until it is given an interval. -/
structure Timer where
  isEnabled : Bool := false
  interval : Nat
  deriving DecidableEq, Repr

inductive CertificatePolicy where
  | acceptAll
  | publicRoots
  | custom
  deriving DecidableEq, Repr

structure Config where
  limits : Limits := {}
  timeouts : Timeouts := {}
  subprotocols : List String := []
  authorization : Option String := none
  signingKey : Option SigningKey := none
  certificatePolicy : CertificatePolicy := .acceptAll
  clientCertificate : Option ClientCertificate := none
  keepalive : Timer := { interval := 30000 }
  maintenance : Timer := { interval := 60000 }
  closeOnViolation : Bool := false
  slowWrite : Option Nat := none
  readBufferSize : Nat := 8192
  deriving DecidableEq, Repr

namespace Config

def withRequestTimeout (config : Config) (milliseconds : Nat) : Config :=
  { config with timeouts := { config.timeouts with request := milliseconds } }

def withAuthorization (config : Config) (value : String) : Config :=
  { config with authorization := some value }

def withKeepalive (config : Config) (interval : Nat) : Config :=
  { config with keepalive := ⟨true, interval⟩ }

def withMaintenance (config : Config) (interval : Nat) : Config :=
  { config with maintenance := ⟨true, interval⟩ }

end Config

def SigningKey.describe (key : SigningKey) : String :=
  s!"SigningKey \x7b key_id: {Text.quoted key.keyId}, secret: \"<redacted>\" \x7d"

end WebSocket
