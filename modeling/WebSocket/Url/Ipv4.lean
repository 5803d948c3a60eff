import WebSocket.Text.Hex
import WebSocket.Text.Split

/-!
IPv4 addresses. `parse` reads the four decimal numbers that people write;
`parseHost` also reads the shorter, octal and hexadecimal spellings that a URL
may hold.
-/

namespace WebSocket

structure Ipv4 where
  bits : UInt32
  deriving DecidableEq, Repr

namespace Ipv4

def ofOctets (a b c d : Nat) : Ipv4 :=
  ⟨UInt32.ofNat (((a * 256 + b) * 256 + c) * 256 + d)⟩

def localhost : Ipv4 := ofOctets 127 0 0 1

def octets (address : Ipv4) : List Nat :=
  let bits := address.bits.toNat
  [bits / 16777216, bits / 65536 % 256, bits / 256 % 256, bits % 256]

def render (address : Ipv4) : String := ".".intercalate (address.octets.map toString)

def octet? (digits : List Char) : Option Nat := do
  let value ← Text.number? 10 digits
  if digits.isEmpty || digits.length > 3 || value > 255 then none
  else if digits.length > 1 && digits.head? == some '0' then none
  else some value

def parse (text : List Char) : Option Ipv4 :=
  match Text.split '.' text with
  | [a, b, c, d] => do
      let a ← octet? a
      let b ← octet? b
      let c ← octet? c
      let d ← octet? d
      some (ofOctets a b c d)
  | _ => none

def hostNumber? (text : List Char) : Option Nat :=
  match text with
  | [] => none
  | '0' :: 'x' :: digits => Text.number? 16 digits
  | '0' :: 'X' :: digits => Text.number? 16 digits
  | '0' :: digit :: digits => Text.number? 8 (digit :: digits)
  | digits => Text.number? 10 digits

/-- The pieces of a host between dots; a dot at the very end does not count. -/
def pieces (host : List Char) : List (List Char) :=
  let all := Text.split '.' host
  if all.length > 1 && all.getLast? == some [] then all.dropLast else all

/-- A host whose last piece looks like a number can only be an address. -/
def endsInNumber (host : List Char) : Bool :=
  match (pieces host).getLast? with
  | none | some [] => false
  | some last => last.all Char.isDigit || (hostNumber? last).isSome

/-- The last number fills all the octets that no other number gives. -/
def parseHost (host : List Char) : Option Ipv4 := do
  let numbers ← (pieces host).mapM hostNumber?
  if numbers.length > 4 then none
  else
    let last ← numbers.getLast?
    let leading := numbers.dropLast
    let room := Nat.pow 256 (4 - leading.length)
    if leading.any (· > 255) || last ≥ room then none
    else
      let high := leading.foldl (fun total octet => total * 256 + octet) 0
      some ⟨UInt32.ofNat (high * room + last)⟩

end Ipv4

end WebSocket
