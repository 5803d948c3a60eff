import WebSocket.Bytes

/-!
Values that a user keeps with a connection under names of their own.
-/

namespace WebSocket

inductive MetadataValue where
  | flag (value : Bool)
  | integer (value : Int64)
  | real (value : Float)
  | text (value : String)
  | bytes (value : Bytes)
  deriving Repr

namespace MetadataValue

def asText? : MetadataValue → Option String
  | text value => some value
  | _ => none

def asInteger? : MetadataValue → Option Int64
  | integer value => some value
  | _ => none

def asFlag? : MetadataValue → Option Bool
  | flag value => some value
  | _ => none

end MetadataValue

structure Metadata where
  entries : List (String × MetadataValue) := []

namespace Metadata

def get? (metadata : Metadata) (name : String) : Option MetadataValue :=
  (metadata.entries.find? fun entry => entry.1 = name).map Prod.snd

def contains (metadata : Metadata) (name : String) : Bool := (metadata.get? name).isSome

def erase (metadata : Metadata) (name : String) : Metadata :=
  ⟨metadata.entries.filter fun entry => entry.1 ≠ name⟩

def insert (metadata : Metadata) (name : String) (value : MetadataValue) : Metadata :=
  ⟨(name, value) :: (metadata.erase name).entries⟩

def size (metadata : Metadata) : Nat := metadata.entries.length

def snapshot (metadata : Metadata) : List (String × MetadataValue) :=
  metadata.entries.mergeSort fun first second => decide (first.1 ≤ second.1)

end Metadata

end WebSocket
