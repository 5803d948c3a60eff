import WebSocket.Text.Assigned
import WebSocket.Text.Marks

/-!
Texts between double quotes, with escapes for what would be unreadable there:
characters without a shape of their own, and those that belong to the one before
them.
-/

namespace WebSocket.Text

def shapeless : CharClass := .ofText
    "0-1F 7F-A0 AD 600-605 61C 6DD 70F 890-891 8E2 1680 180E 2000-200F 2028-202F 205F-2064
     2066-206F 3000 D800-F8FF FEFF FFF9-FFFB 110BD 110CD 13430-1343F 1BCA0-1BCA3 1D173-1D17A
     E0001 E0020-E007F F0000-FFFFD 100000-10FFFD"

/-- Characters that extend the one before them without being nonspacing marks. -/
def extending : CharClass := .ofText
    "9BE 9D7 B3E B57 BBE BD7 CC2 CD5-CD6 D3E D57 DCF DDF 1B35 302E-302F FF9E-FF9F 1133E 11357
     114B0 114BD 115AF 11930 1D165 1D16E-1D172"

def isUnreadable (character : Char) : Bool :=
  shapeless.holds character || extending.holds character || isNonspacing character ||
    unassigned.holds character

def escape (character : Char) : List Char :=
  match character with
  | '\x00' => ['\\', '0']
  | '\t' => ['\\', 't']
  | '\n' => ['\\', 'n']
  | '\r' => ['\\', 'r']
  | '"' => ['\\', '"']
  | '\\' => ['\\', '\\']
  | _ =>
      if isUnreadable character then
        ['\\', 'u', '\x7b'] ++ Nat.toDigits 16 character.toNat ++ ['\x7d']
      else [character]

def quoted (text : String) : String :=
  String.ofList ('"' :: text.toList.flatMap escape ++ ['"'])

end WebSocket.Text
