/-!
Cutting a text into pieces: at every separator, at the first one, into words, and
into lines.
-/

namespace WebSocket.Text

/-- The pieces between separators; there is always at least one. -/
def split (separator : Char) : List Char → List (List Char)
  | [] => [[]]
  | character :: rest =>
      if character = separator then [] :: split separator rest
      else
        match split separator rest with
        | [] => [[character]]
        | piece :: pieces => (character :: piece) :: pieces

def words (characters : List Char) : List (List Char) :=
  ((split '\n' characters).flatMap (split ' ')).filter fun word => !word.isEmpty

def splitOnce (isSeparator : Char → Bool) : List Char → Option (List Char × List Char)
  | [] => none
  | character :: rest =>
      if isSeparator character then some ([], rest)
      else (splitOnce isSeparator rest).map fun (before, after) => (character :: before, after)

/-- The lines of a text. A line ends with a line feed, to which one carriage
return may belong; an ended last line is not followed by an empty one. -/
def lines : List Char → List (List Char)
  | [] => []
  | '\n' :: rest => [] :: lines rest
  | '\r' :: '\n' :: rest => [] :: lines rest
  | character :: rest =>
      match lines rest with
      | [] => [[character]]
      | line :: more => (character :: line) :: more

end WebSocket.Text
