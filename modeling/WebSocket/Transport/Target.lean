import WebSocket.Url.Basic

/-!
Where a URL leads: a host, a port, and whether the way there is encrypted.
-/

namespace WebSocket

structure Target where
  host : Host
  port : Nat
  isSecure : Bool
  deriving DecidableEq, Repr

namespace Target

def securityOf (scheme : String) : Except Error Bool :=
  if scheme = "ws" ∨ scheme = "http" then .ok false
  else if scheme = "wss" ∨ scheme = "https" then .ok true
  else .error (.invalidUrl s!"Unsupported scheme: {scheme}")

def ofUrl (url : Url) : Except Error Target := do
  let isSecure ← securityOf url.scheme
  let host ← url.requireHost
  .ok ⟨host, url.portOrDefault.getD (if isSecure then 443 else 80), isSecure⟩

def serverName (target : Target) : String :=
  match target.host with
  | .domain name => name
  | .ipv4 address => address.render
  | .ipv6 address => address.render

end Target

end WebSocket
