import WebSocket.Error
import WebSocket.Url.Basic

/-!
From a host to an address. Addresses and `localhost` need no lookup; any other
name is looked up once for each kind of address, and the first IPv4 address wins.
-/

namespace WebSocket

inductive Address where
  | ipv4 (address : Ipv4)
  | ipv6 (address : Ipv6)
  deriving DecidableEq, Repr

namespace Address

def render : Address → String
  | ipv4 address => address.render
  | ipv6 address => address.render

def renderSocket (address : Address) (port : Nat) : String :=
  match address with
  | ipv4 address => s!"{address.render}:{port}"
  | ipv6 address => s!"[{address.render}]:{port}"

def parse (text : String) : Option Address :=
  match Ipv4.parse text.toList with
  | some address => some (.ipv4 address)
  | none => (Ipv6.parse text.toList).map .ipv6

end Address

inductive Lookup where
  | ipv4 (name : String)
  | ipv6 (name : String)
  deriving DecidableEq, Repr

/-- What name servers answer; `none` is a lookup that failed. -/
structure Resolver where
  ipv4 : String → Option (List Ipv4)
  ipv6 : String → Option (List Ipv6)

namespace Resolver

def resolve (resolver : Resolver) (host : Host) : Except Error Address × List Lookup :=
  match host with
  | .ipv4 address => (.ok (.ipv4 address), [])
  | .ipv6 address => (.ok (.ipv6 address), [])
  | .domain name =>
      if name.toList.map Char.toLower = "localhost".toList then (.ok (.ipv4 .localhost), [])
      else
        let found4 := (resolver.ipv4 name).getD []
        let found6 := (resolver.ipv6 name).getD []
        let answer : Except Error Address :=
          match found4, found6 with
          | address :: _, _ => .ok (.ipv4 address)
          | [], address :: _ => .ok (.ipv6 address)
          | [], [] => .error (.resolution name)
        (answer, [.ipv4 name, .ipv6 name])

/-- The resolver of the operating system for names that are addresses. -/
def literal : Resolver where
  ipv4 name := some (Ipv4.parse name.toList).toList
  ipv6 name := some (Ipv6.parse name.toList).toList

end Resolver

end WebSocket
