/-!
Durations as people read them: milliseconds below a second, else seconds with as
many decimals as needed.
-/

namespace WebSocket.Text

def decimals (thousandths : Nat) : List Char :=
  let digits := [thousandths / 100, thousandths / 10 % 10, thousandths % 10]
  (digits.map fun digit => Char.ofNat (48 + digit)).reverse.dropWhile (· == '0') |>.reverse

def duration (milliseconds : Nat) : String :=
  if milliseconds = 0 then "0ns"
  else if milliseconds < 1000 then s!"{milliseconds}ms"
  else
    let fraction := decimals (milliseconds % 1000)
    let point := if fraction.isEmpty then "" else "."
    toString (milliseconds / 1000) ++ point ++ String.ofList fraction ++ "s"

end WebSocket.Text
