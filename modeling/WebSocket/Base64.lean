import WebSocket.Bytes

/-!
Base64 with the standard alphabet and padding.
-/

namespace WebSocket.Base64

def digit (value : Nat) : Char :=
  if value < 26 then Char.ofNat (65 + value)
  else if value < 52 then Char.ofNat (97 + (value - 26))
  else if value < 62 then Char.ofNat (48 + (value - 52))
  else if value = 62 then '+'
  else '/'

def value? (character : Char) : Option Nat :=
  let code := character.toNat
  if 65 ≤ code ∧ code ≤ 90 then some (code - 65)
  else if 97 ≤ code ∧ code ≤ 122 then some (code - 97 + 26)
  else if 48 ≤ code ∧ code ≤ 57 then some (code - 48 + 52)
  else if character = '+' then some 62
  else if character = '/' then some 63
  else none

def encodeChars : Bytes → List Char
  | [] => []
  | [a] =>
      let bits := a.toNat * 16
      [digit (bits / 64), digit (bits % 64), '=', '=']
  | [a, b] =>
      let bits := (a.toNat * 256 + b.toNat) * 4
      [digit (bits / 4096), digit (bits / 64 % 64), digit (bits % 64), '=']
  | a :: b :: c :: rest =>
      let bits := (a.toNat * 256 + b.toNat) * 256 + c.toNat
      digit (bits / 262144) :: digit (bits / 4096 % 64) :: digit (bits / 64 % 64) ::
        digit (bits % 64) :: encodeChars rest

def encode (bytes : Bytes) : String := String.ofList (encodeChars bytes)

inductive Failure where
  | invalidCharacter (code : Nat)
  | prematurePadding
  | invalidTrailingPadding
  deriving DecidableEq, Repr

def isBlank (byte : Byte) : Bool := byte == 32 || byte == 9 || byte == 10 || byte == 13

def isPad (byte : Byte) : Bool := byte == 61

def values : Bytes → Except Failure (List Nat)
  | [] => .ok []
  | byte :: rest =>
      match value? (Char.ofNat byte.toNat) with
      | none =>
          if isPad byte then .error .prematurePadding else .error (.invalidCharacter byte.toNat)
      | some value => do
          let more ← values rest
          .ok (value :: more)

def joinValues : List Nat → Bytes
  | a :: b :: c :: d :: rest =>
      UInt8.ofNat (a * 4 + b / 16) :: UInt8.ofNat (b * 16 + c / 4) :: UInt8.ofNat (c * 64 + d) ::
        joinValues rest
  | [a, b, c] => [UInt8.ofNat (a * 4 + b / 16), UInt8.ofNat (b * 16 + c / 4)]
  | [a, b] => [UInt8.ofNat (a * 4 + b / 16)]
  | _ => []

/-- The bytes behind a text. Blanks do not count and padding may be left out, but
one digit alone at the end stands for nothing. -/
def decode (text : Bytes) : Except Failure Bytes := do
  let dense := text.filter fun byte => !isBlank byte
  let padding := (dense.reverse.takeWhile isPad).length
  let digits ← values (dense.take (dense.length - padding))
  if digits.length % 4 = 1 ∨ (padding > 0 ∧ digits.length % 4 + padding > 4) then
    .error .invalidTrailingPadding
  else .ok (joinValues digits)

end WebSocket.Base64
