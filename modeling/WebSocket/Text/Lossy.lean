import WebSocket.Text.Utf8

/-!
Text from bytes that may not be UTF-8. What cannot begin or continue a character
becomes the replacement character, once for each longest piece that could have
become a character.
-/

namespace WebSocket.Utf8

def replacement : Char := '\uFFFD'

structure Lead where
  following : Nat
  low : Nat
  high : Nat
  deriving DecidableEq, Repr

def Lead.of? (byte : Byte) : Option Lead :=
  let code := byte.toNat
  if 0xC2 ≤ code ∧ code ≤ 0xDF then some ⟨1, 0x80, 0xBF⟩
  else if code = 0xE0 then some ⟨2, 0xA0, 0xBF⟩
  else if code = 0xED then some ⟨2, 0x80, 0x9F⟩
  else if 0xE1 ≤ code ∧ code ≤ 0xEF then some ⟨2, 0x80, 0xBF⟩
  else if code = 0xF0 then some ⟨3, 0x90, 0xBF⟩
  else if 0xF1 ≤ code ∧ code ≤ 0xF3 then some ⟨3, 0x80, 0xBF⟩
  else if code = 0xF4 then some ⟨3, 0x80, 0x8F⟩
  else none

def isContinuation (byte : Byte) : Bool := 0x80 ≤ byte && byte ≤ 0xBF

/-- The bytes behind a leading byte that belong to the same character. -/
def continuation (lead : Lead) (rest : Bytes) : Bytes :=
  match rest with
  | second :: _ =>
      if lead.low ≤ second.toNat && second.toNat ≤ lead.high then
        (rest.take lead.following).takeWhile isContinuation
      else []
  | [] => []

def firstLossy (first : Byte) (rest : Bytes) : Char × Nat :=
  if first < 128 then (Char.ofNat first.toNat, 0)
  else
    match Lead.of? first with
    | none => (replacement, 0)
    | some lead =>
        let behind := continuation lead rest
        let read := (decode (first :: behind)).map String.toList
        match read with
        | some [character] => (character, behind.length)
        | _ => (replacement, behind.length)

def lossyChars : Bytes → List Char
  | [] => []
  | first :: rest =>
      let (character, taken) := firstLossy first rest
      character :: lossyChars (rest.drop taken)
termination_by bytes => bytes.length
decreasing_by
  simp only [List.length_drop, List.length_cons]
  omega

def decodeLossy (bytes : Bytes) : String := String.ofList (lossyChars bytes)

end WebSocket.Utf8
