/-!
Blank characters, the Unicode property White_Space, and texts without them at
either end.
-/

namespace WebSocket.Text

def isBlank (character : Char) : Bool :=
  let code := character.toNat
  (9 ≤ code && code ≤ 13) || code == 0x20 || code == 0x85 || code == 0xA0 || code == 0x1680 ||
    (0x2000 ≤ code && code ≤ 0x200A) || code == 0x2028 || code == 0x2029 || code == 0x202F ||
    code == 0x205F || code == 0x3000

def strip (unwanted : Char → Bool) (characters : List Char) : List Char :=
  ((characters.dropWhile unwanted).reverse.dropWhile unwanted).reverse

def trim (characters : List Char) : List Char := strip isBlank characters

end WebSocket.Text
