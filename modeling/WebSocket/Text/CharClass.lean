import WebSocket.Text.Hex
import WebSocket.Text.Split

/-!
Classes of characters, given by intervals of their numbers. A class is written
as a text: intervals with blanks between them, their ends in hexadecimal digits.
-/

namespace WebSocket.Text

structure Interval where
  first : Nat
  last : Nat
  deriving DecidableEq, Repr

namespace Interval

def holds (interval : Interval) (code : Nat) : Bool :=
  interval.first ≤ code && code ≤ interval.last

/-- Two ends with a hyphen between them, or one number alone. -/
def ofText? (text : List Char) : Option Interval :=
  match split '-' text with
  | [both] => do
      let code ← number? 16 both
      some ⟨code, code⟩
  | [first, last] => do
      let low ← number? 16 first
      let high ← number? 16 last
      some ⟨low, high⟩
  | _ => none

end Interval

structure CharClass where
  intervals : List Interval
  deriving DecidableEq, Repr

namespace CharClass

def ofText (text : String) : CharClass :=
  ⟨(words text.toList).filterMap Interval.ofText?⟩

def holds (members : CharClass) (character : Char) : Bool :=
  members.intervals.any fun interval => interval.holds character.toNat

end CharClass

end WebSocket.Text
