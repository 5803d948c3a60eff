import WebSocket.Bytes

/-!
Text as UTF-8 bytes. `decode` accepts exactly the encodings of texts, and
`cut` shortens a text without splitting a character.
-/

namespace WebSocket.Utf8

def encode (text : String) : Bytes := text.toByteArray.data.toList

def decode (bytes : Bytes) : Option String := String.fromUTF8? ⟨bytes.toArray⟩

def isValid (bytes : Bytes) : Bool := (decode bytes).isSome

theorem decode_eq_some_iff {bytes : Bytes} {text : String} :
    decode bytes = some text ↔ bytes = encode text := by
  constructor
  · intro decoded
    unfold decode String.fromUTF8? at decoded
    split at decoded
    · cases decoded
      simp [encode, String.fromUTF8]
    · cases decoded
  · rintro rfl
    unfold decode String.fromUTF8?
    have valid : (⟨(encode text).toArray⟩ : ByteArray).IsValidUTF8 := by
      simpa [encode] using text.isValidUTF8
    rw [dif_pos valid]
    simp [encode, String.fromUTF8]

def fitting : (room : Nat) → List Char → List Char
  | _, [] => []
  | room, character :: rest =>
      if character.utf8Size ≤ room then
        character :: fitting (room - character.utf8Size) rest
      else []

/-- The longest beginning of the text that has at most `room` bytes. -/
def cut (room : Nat) (text : String) : String := String.ofList (fitting room text.toList)

end WebSocket.Utf8
