/-!
The four phases of a connection. They are numbered in the order in which a
connection passes through them.
-/

namespace WebSocket

inductive Phase where
  | handshaking
  | opened
  | closing
  | closed
  deriving DecidableEq, Repr

namespace Phase

def number : Phase → Nat
  | handshaking => 0
  | opened => 1
  | closing => 2
  | closed => 3

def name : Phase → String
  | handshaking => "Handshaking"
  | opened => "Open"
  | closing => "Closing"
  | closed => "Closed"

def canSend (phase : Phase) : Bool := phase == opened

instance : LE Phase := ⟨fun first second => first.number ≤ second.number⟩

instance : LT Phase := ⟨fun first second => first.number < second.number⟩

instance (first second : Phase) : Decidable (first ≤ second) :=
  inferInstanceAs (Decidable (first.number ≤ second.number))

instance (first second : Phase) : Decidable (first < second) :=
  inferInstanceAs (Decidable (first.number < second.number))

instance : Inhabited Phase := ⟨handshaking⟩

end Phase

end WebSocket
