import WebSocket.Text.Composed
import WebSocket.Text.Utf8
import WebSocket.Url.Direction
import WebSocket.Url.Joiner
import WebSocket.Url.Mapping
import WebSocket.Url.Punycode

/-!
Domain names in their ASCII form: characters in the form that names have them in,
labels outside ASCII in Punycode, and no character that a host may not hold.
-/

namespace WebSocket.Domain

open Text

def isForbidden (character : Char) : Bool :=
  character.toNat ≤ 0x20 || character.toNat == 0x7F ||
    ['%', '#', '/', ':', '<', '>', '?', '@', '[', '\\', ']', '^', '|'].contains character

def isAscii (characters : List Char) : Bool := characters.all fun character => character.toNat < 128

def normalize (characters : List Char) : Option (List Char) :=
  (characters.mapM mapped).map fun parts => composed parts.flatten

def encodedMark : List Char := "xn--".toList

/-- The label behind an encoded one. It has to be one that needs encoding, and
that is in its final form. -/
def decodeLabel (text : List Char) : Option (List Char) := do
  let label ← Punycode.decode text
  if isAscii label then none
  else if (← normalize label) = label then some label
  else none

/-- The label that was meant. Outside ASCII it starts with no mark. -/
def readLabel (label : List Char) : Option (List Char) := do
  let meant ←
    if encodedMark.isPrefixOf label then
      if isAscii label then decodeLabel (label.drop encodedMark.length) else none
    else some label
  if isAscii meant then some meant
  else if meant.head?.any isMark || !hasJoinersInPlace [] meant then none
  else some meant

def writeLabel (label : List Char) : List Char :=
  if isAscii label then label else encodedMark ++ Punycode.encode label

def toAscii (domain : Bytes) : Option (List Char) := do
  let text ← Utf8.decode domain
  let labels ← (split '.' (← normalize text.toList)).mapM readLabel
  if labels.any isRightToLeft && !labels.all isOrdered then none
  else
    let ascii := ['.'].intercalate (labels.map writeLabel)
    if ascii.any isForbidden then none else some ascii

end WebSocket.Domain
