import WebSocket.Error
import WebSocket.Url.Ipv6

/-!
Absolute URLs in their parts, and the text that a URL is written as.
-/

namespace WebSocket

inductive Host where
  | domain (name : String)
  | ipv4 (address : Ipv4)
  | ipv6 (address : Ipv6)
  deriving DecidableEq, Repr

def Host.render : Host → String
  | domain name => name
  | ipv4 address => address.render
  | ipv6 address => "[" ++ address.renderGroups ++ "]"

/-- A URL. `userInfo` and `path` are as written, the first with its `@`; the
port is absent where the scheme implies it. -/
structure Url where
  scheme : String
  hasAuthority : Bool := false
  userInfo : String := ""
  host : Option Host := none
  port : Option Nat := none
  path : String
  query : Option String := none
  fragment : Option String := none
  deriving DecidableEq, Repr

namespace Url

def defaultPort? (scheme : String) : Option Nat :=
  if scheme = "http" ∨ scheme = "ws" then some 80
  else if scheme = "https" ∨ scheme = "wss" then some 443
  else if scheme = "ftp" then some 21
  else none

def portOrDefault (url : Url) : Option Nat :=
  match url.port with
  | some port => some port
  | none => defaultPort? url.scheme

/-- A path without a host before it must not start like a host. -/
def pathGuard (url : Url) : String :=
  if !url.hasAuthority && "//".toList.isPrefixOf url.path.toList then "/." else ""

def render (url : Url) : String :=
  let authority :=
    if url.hasAuthority then
      "//" ++ url.userInfo ++ (url.host.map Host.render).getD "" ++
        (url.port.map fun port => s!":{port}").getD ""
    else ""
  url.scheme ++ ":" ++ authority ++ url.pathGuard ++ url.path ++
    (url.query.map ("?" ++ ·)).getD "" ++ (url.fragment.map ("#" ++ ·)).getD ""

def requireHost (url : Url) : Except Error Host :=
  match url.host with
  | some host => .ok host
  | none => .error (.invalidUrl s!"{url.render} has no host")

end Url

end WebSocket
