import WebSocket.Config
import WebSocket.Text.Duration
import WebSocket.Transport.Resolve
import WebSocket.Transport.Target

/-!
The way to a server. A connect is tried again as often as the caller allows; a
failed TLS handshake repeats the whole way once.
-/

namespace WebSocket

/-- The end of one attempt to connect; a silent one takes the whole timeout. -/
inductive ConnectAnswer where
  | connected
  | failed (reason : String)
  | silent
  deriving DecidableEq, Repr

inductive TlsAnswer where
  | established
  | failed (reason : String)
  | silent
  deriving DecidableEq, Repr

namespace ConnectAnswer

def failure? (timeout : Nat) : ConnectAnswer → Option String
  | connected => none
  | failed reason => some reason
  | silent => some s!"timed out after {Text.duration timeout}"

def delay (timeout : Nat) : ConnectAnswer → Nat
  | silent => timeout
  | _ => 0

end ConnectAnswer

namespace TlsAnswer

def failure? (timeout : Nat) : TlsAnswer → Option String
  | established => none
  | failed reason => some (TlsError.handshake reason).message
  | silent => some s!"TLS handshake timed out after {Text.duration timeout}"

def delay (timeout : Nat) : TlsAnswer → Nat
  | silent => timeout
  | _ => 0

end TlsAnswer

namespace Establish

def isLabelChar (character : Char) : Bool :=
  character.isAlphanum || character == '-' || character == '_'

def isLabel (label : List Char) : Bool :=
  !label.isEmpty && label.length ≤ 63 && label.all isLabelChar &&
    label.head? != some '-' && label.getLast? != some '-'

/-- A name that a certificate can be checked against: labels of which the last
is not a number, or an address. -/
def isServerName (name : String) : Bool :=
  let labels := Text.split '.' name.toList
  let named := if labels.getLast? == some [] then labels.dropLast else labels
  let isDomain :=
    name.utf8ByteSize ≤ 253 && !named.isEmpty && named.all isLabel &&
      !(named.getLast?.getD []).all Char.isDigit
  isDomain || (Address.parse name).isSome

end Establish

/-- What lies between a client and a server: the answer to each attempt to connect and to each TLS
handshake, by number, the name servers after some number of lookups, and the names and keys that
TLS can use. -/
structure Network where
  resolver : Nat → Resolver
  connects : Nat → ConnectAnswer
  handshakes : Nat → TlsAnswer := fun _ => .established
  acceptsName : String → Bool := Establish.isServerName
  acceptsKey : PrivateKey → Bool := fun _ => true

structure Endpoint where
  address : Address
  port : Nat
  deriving DecidableEq, Repr

def Endpoint.render (endpoint : Endpoint) : String := endpoint.address.renderSocket endpoint.port

structure Route where
  address : Address
  port : Nat
  isSecure : Bool
  deriving DecidableEq, Repr

structure Journey where
  lookups : List Lookup := []
  attempts : List Endpoint := []
  connections : Nat := 0
  handshakes : Nat := 0
  elapsed : Nat := 0
  deriving DecidableEq, Repr

namespace Establish

def attempt (network : Network) (endpoint : Endpoint) (timeout : Nat) (journey : Journey) :
    Option String × Journey :=
  let answer := network.connects journey.attempts.length
  let failure := answer.failure? timeout
  (failure, { journey with
    attempts := journey.attempts ++ [endpoint]
    connections := journey.connections + if failure.isNone then 1 else 0
    elapsed := journey.elapsed + answer.delay timeout })

/-- Connects to one address, at most `retries` more times after the first. -/
def connect (network : Network) (endpoint : Endpoint) (timeout : Nat) :
    (retries : Nat) → Journey → Except Error Unit × Journey
  | retries, journey =>
      let (failure, tried) := attempt network endpoint timeout journey
      match failure with
      | none => (.ok (), tried)
      | some reason =>
          match retries with
          | 0 => (.error (.connect endpoint.render reason), tried)
          | left + 1 => connect network endpoint timeout left tried

/-- A lookup and a sequence of attempts to connect to what it found. -/
def reach (network : Network) (target : Target) (timeout retries : Nat) (journey : Journey) :
    Except Error Route × Journey :=
  let (found, lookups) := (network.resolver journey.lookups.length).resolve target.host
  let looked := { journey with lookups := journey.lookups ++ lookups }
  match found with
  | .error failure => (.error failure, looked)
  | .ok address =>
      let (result, tried) := connect network ⟨address, target.port⟩ timeout retries looked
      (result.map fun () => ⟨address, target.port, target.isSecure⟩, tried)

/-- A failure on a secure way, and whether a second try may mend it. -/
structure Setback where
  error : Error
  isMendable : Bool
  deriving DecidableEq, Repr

def handshake (network : Network) (target : Target) (timeout : Nat) (journey : Journey) :
    Except Setback Unit × Journey :=
  if !network.acceptsName target.serverName then
    (.error ⟨(TlsError.invalidDnsName target.serverName).toError, false⟩, journey)
  else
    let answer := network.handshakes journey.handshakes
    let tried := { journey with
      handshakes := journey.handshakes + 1
      elapsed := journey.elapsed + answer.delay timeout }
    match answer.failure? timeout with
    | none => (.ok (), tried)
    | some failure => (.error ⟨.tls failure, true⟩, tried)

def secure (network : Network) (target : Target) (timeout retries : Nat) (journey : Journey) :
    Except Setback Route × Journey :=
  match reach network target timeout retries journey with
  | (.error failure, tried) => (.error ⟨failure, false⟩, tried)
  | (.ok route, tried) =>
      let (result, shaken) := handshake network target timeout tried
      (result.map fun () => route, shaken)

/-- The way to a secure target, which is gone once more if that may mend what went wrong. -/
def secureTwice (network : Network) (target : Target) (timeout retries : Nat) :
    Except Error Route × Journey :=
  match secure network target timeout retries {} with
  | (.ok route, journey) => (.ok route, journey)
  | (.error setback, journey) =>
      if !setback.isMendable then (.error setback.error, journey)
      else
        let (second, final) := secure network target timeout retries journey
        (second.mapError Setback.error, final)

def unusableKey : TlsError :=
  .configuration "unexpected error: failed to parse private key as RSA, ECDSA, or EdDSA"

/-- A client key that TLS cannot use is found before anything is looked up. -/
def checkKey (network : Network) (config : Config) : Except Error Unit :=
  match config.clientCertificate with
  | none => .ok ()
  | some certificate =>
      if network.acceptsKey certificate.key then .ok () else .error unusableKey.toError

end Establish

/-- The whole way to the server behind a URL. -/
def establish (network : Network) (config : Config) (url : Url) (timeout retries : Nat) :
    Except Error Route × Journey :=
  match Target.ofUrl url with
  | .error failure => (.error failure, {})
  | .ok target =>
      if !target.isSecure then Establish.reach network target timeout retries {}
      else
        match Establish.checkKey network config with
        | .error failure => (.error failure, {})
        | .ok () => Establish.secureTwice network target timeout retries

end WebSocket
