import WebSocket.Error

/-!
Header lists. Names are compared without regard to ASCII case, order and
duplicates are kept, and no name or value that is added holds a line break.
-/

namespace WebSocket

structure HeaderField where
  name : String
  value : String
  deriving DecidableEq, Repr

def isLineBreak (character : Char) : Bool := character == '\r' || character == '\n'

def checkHeaderValue (header value : String) : Except Error Unit :=
  if value.toList.any isLineBreak then
    .error (.invalidHeaderValue header "contains CR or LF characters")
  else .ok ()

def asciiLower (characters : List Char) : List Char := characters.map Char.toLower

def sameName (name other : String) : Bool := asciiLower name.toList == asciiLower other.toList

structure Headers where
  fields : List HeaderField := []
  deriving DecidableEq, Repr

namespace Headers

def getAll (headers : Headers) (name : String) : List String :=
  (headers.fields.filter fun field => sameName field.name name).map HeaderField.value

def get? (headers : Headers) (name : String) : Option String :=
  (headers.fields.find? fun field => sameName field.name name).map HeaderField.value

def contains (headers : Headers) (name : String) : Bool := (headers.get? name).isSome

def remove (headers : Headers) (name : String) : Headers :=
  ⟨headers.fields.filter fun field => !sameName field.name name⟩

def append (headers : Headers) (name value : String) : Except Error Unit × Headers :=
  match checkHeaderValue name name with
  | .error failure => (.error failure, headers)
  | .ok () =>
      match checkHeaderValue name value with
      | .error failure => (.error failure, headers)
      | .ok () => (.ok (), ⟨headers.fields ++ [⟨name, value⟩]⟩)

/-- Puts one field in the place of all fields of that name. The old ones are gone
even if the new one is refused. -/
def insert (headers : Headers) (name value : String) : Except Error Unit × Headers :=
  (headers.remove name).append name value

def size (headers : Headers) : Nat := headers.fields.length

end Headers

end WebSocket
