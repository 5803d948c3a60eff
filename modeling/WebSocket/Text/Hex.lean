/-!
Digits, the numbers that they spell, and numbers in hexadecimal digits of a fixed
count.
-/

namespace WebSocket.Text

def digitValue? (character : Char) : Option Nat :=
  let code := character.toNat
  if 48 ≤ code ∧ code ≤ 57 then some (code - 48)
  else if 97 ≤ code ∧ code ≤ 102 then some (code - 87)
  else if 65 ≤ code ∧ code ≤ 70 then some (code - 55)
  else none

def number? (base : Nat) (digits : List Char) : Option Nat :=
  digits.foldlM
    (fun total character => do
      let value ← digitValue? character
      if value < base then some (total * base + value) else none) 0

def hexDigit (value : Nat) : Char :=
  if value < 10 then Char.ofNat (48 + value) else Char.ofNat (87 + value)

def hexWord : (width : Nat) → (value : Nat) → List Char
  | 0, _ => []
  | width + 1, value => hexWord width (value / 16) ++ [hexDigit (value % 16)]

theorem hex_word_length (width value : Nat) : (hexWord width value).length = width := by
  induction width generalizing value with
  | zero => rfl
  | succ width induction => simp [hexWord, induction]

end WebSocket.Text
