import WebSocket.Url.Ipv4

/-!
IPv6 addresses as eight groups. The longest run of zero groups is written `::`;
an address that maps an IPv4 address shows it, except inside a URL.
-/

namespace WebSocket

structure Ipv6 where
  groups : List UInt16
  deriving DecidableEq, Repr

namespace Ipv6

def group? (digits : List Char) : Option UInt16 :=
  if digits.isEmpty || digits.length > 4 then none
  else (Text.number? 16 digits).map UInt16.ofNat

/-- Groups of which the last may be an IPv4 address, which counts as two. -/
def groups? : List (List Char) → Option (List UInt16)
  | [] => some []
  | [last] =>
      if last.contains '.' then do
        let address ← Ipv4.parse last
        let bits := address.bits.toNat
        some [UInt16.ofNat (bits / 65536), UInt16.ofNat (bits % 65536)]
      else do
        let group ← group? last
        some [group]
  | digits :: rest => do
      let group ← group? digits
      let more ← groups? rest
      some (group :: more)

def splitGap : List Char → Option (List Char × List Char)
  | ':' :: ':' :: rest => some ([], rest)
  | character :: rest =>
      (splitGap rest).map fun (before, after) => (character :: before, after)
  | [] => none

def side (text : List Char) : List (List Char) :=
  if text.isEmpty then [] else Text.split ':' text

/-- Eight groups, or fewer around one gap that stands for zeros. -/
def parse (text : List Char) : Option Ipv6 :=
  match splitGap text with
  | none => do
      let groups ← groups? (Text.split ':' text)
      if groups.length = 8 then some ⟨groups⟩ else none
  | some (before, after) => do
      let left ← (side before).mapM group?
      let right ← groups? (side after)
      if left.length + right.length ≤ 7 then
        some ⟨left ++ List.replicate (8 - left.length - right.length) 0 ++ right⟩
      else none

def hexText (group : UInt16) : String :=
  String.ofList (Nat.toDigits 16 group.toNat)

def zeroRuns : (position : Nat) → List UInt16 → List (Nat × Nat)
  | _, [] => []
  | position, group :: rest =>
      if group = 0 then
        match zeroRuns (position + 1) rest with
        | (start, length) :: more =>
            if start = position + 1 then (position, length + 1) :: more
            else (position, 1) :: (start, length) :: more
        | [] => [(position, 1)]
      else zeroRuns (position + 1) rest

/-- The first of the longest runs of at least two zeros. -/
def longestRun (groups : List UInt16) : Option (Nat × Nat) :=
  (zeroRuns 0 groups).foldl
    (fun best run =>
      if run.2 > (best.map Prod.snd).getD 1 then some run else best) none

def joined (groups : List UInt16) : String := ":".intercalate (groups.map hexText)

def renderGroups (address : Ipv6) : String :=
  match longestRun address.groups with
  | none => joined address.groups
  | some (start, length) =>
      joined (address.groups.take start) ++ "::" ++ joined (address.groups.drop (start + length))

def render (address : Ipv6) : String :=
  match address.groups with
  | [0, 0, 0, 0, 0, 0xFFFF, high, low] =>
      "::ffff:" ++ (Ipv4.mk (UInt32.ofNat (high.toNat * 65536 + low.toNat))).render
  | _ => address.renderGroups

end Ipv6

end WebSocket
