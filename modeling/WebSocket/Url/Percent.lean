import WebSocket.Text.Hex
import WebSocket.Text.Utf8

/-!
Percent encoding. What a component may not hold is written as the hexadecimal
digits of its UTF-8 bytes; which ASCII characters that concerns depends on the
component.
-/

namespace WebSocket.Percent

def hexDigit (value : Nat) : Char :=
  if value < 10 then Char.ofNat (48 + value) else Char.ofNat (55 + value)

def hexValue? (byte : Byte) : Option Nat := Text.digitValue? (Char.ofNat byte.toNat)

/-- A set of ASCII characters that are always written as bytes; control and
non-ASCII characters are written so in every component. -/
abbrev EncodeSet := List Char

def fragmentSet : EncodeSet := [' ', '"', '<', '>', '\x60']

def querySet : EncodeSet := [' ', '"', '#', '<', '>']

def specialQuerySet : EncodeSet := '\'' :: querySet

def pathSet : EncodeSet := querySet ++ ['?', '^', '\x60', '\x7b', '\x7d']

def userInfoSet : EncodeSet := pathSet ++ ['/', ':', ';', '=', '@', '[', '\\', ']', '|']

def mustEncode (set : EncodeSet) (character : Char) : Bool :=
  character.toNat < 0x20 || character.toNat > 0x7E || set.contains character

def encodeChar (set : EncodeSet) (character : Char) : List Char :=
  if mustEncode set character then
    (Utf8.encode (String.singleton character)).flatMap fun byte =>
      ['%', hexDigit (byte.toNat / 16), hexDigit (byte.toNat % 16)]
  else [character]

def encode (set : EncodeSet) (characters : List Char) : List Char :=
  characters.flatMap (encodeChar set)

/-- The bytes that are meant; a percent sign without two digits stands for itself. -/
def decode : Bytes → Bytes
  | [] => []
  | 37 :: high :: low :: rest =>
      match hexValue? high, hexValue? low with
      | some upper, some lower => UInt8.ofNat (upper * 16 + lower) :: decode rest
      | _, _ => 37 :: decode (high :: low :: rest)
  | byte :: rest => byte :: decode rest

end WebSocket.Percent
