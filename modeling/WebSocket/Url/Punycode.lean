/-!
Punycode: a label with characters outside ASCII as an ASCII label. The ASCII
characters come first; then the others in ascending order, each as the number of
insertions that the decoder has to skip.
-/

namespace WebSocket.Punycode

def digit (value : Nat) : Char :=
  if value < 26 then Char.ofNat (97 + value) else Char.ofNat (22 + value)

def digitValue? (character : Char) : Option Nat :=
  let code := character.toNat
  if 97 ≤ code ∧ code ≤ 122 then some (code - 97)
  else if 65 ≤ code ∧ code ≤ 90 then some (code - 65)
  else if 48 ≤ code ∧ code ≤ 57 then some (code - 22)
  else none

def threshold (position bias : Nat) : Nat :=
  if position ≤ bias then 1 else if position ≥ bias + 26 then 26 else position - bias

/-- Divides by 35 until at most 455 is left; `fuel` bounds the divisions. -/
def damp : (fuel : Nat) → (delta steps : Nat) → Nat × Nat
  | 0, delta, steps => (delta, steps)
  | fuel + 1, delta, steps =>
      if delta > 455 then damp fuel (delta / 35) (steps + 36) else (delta, steps)

def adapt (delta count : Nat) (isFirst : Bool) : Nat :=
  let halved := if isFirst then delta / 700 else delta / 2
  let scaled := halved + halved / count
  let (rest, steps) := damp scaled scaled 0
  steps + 36 * rest / (rest + 38)

/-- A number in digits of varying weight; `fuel` bounds their count. -/
def encodeNumber (bias : Nat) : (fuel : Nat) → (position number : Nat) → List Char
  | 0, _, number => [digit (number % 36)]
  | fuel + 1, position, number =>
      let limit := threshold position bias
      if number < limit then [digit number]
      else
        digit (limit + (number - limit) % (36 - limit)) ::
          encodeNumber bias fuel (position + 36) ((number - limit) / (36 - limit))

structure EncodeState where
  output : List Char
  delta : Nat
  bias : Nat
  handled : Nat

def encodeChar (current : Nat) (basic : Nat) (state : EncodeState) (character : Char) : EncodeState :=
  if character.toNat < current then { state with delta := state.delta + 1 }
  else if character.toNat = current then
    { output := state.output ++ encodeNumber state.bias state.delta 36 state.delta
      delta := 0
      bias := adapt state.delta (state.handled + 1) (state.handled == basic)
      handled := state.handled + 1 }
  else state

def encodeExtended (label : List Char) (basic : Nat) :
    List Nat → (next : Nat) → EncodeState → EncodeState
  | [], _, state => state
  | current :: rest, next, state =>
      let reached := { state with delta := state.delta + (current - next) * (state.handled + 1) }
      let done := label.foldl (encodeChar current basic) reached
      encodeExtended label basic rest (current + 1) { done with delta := done.delta + 1 }

def ascending (codes : List Nat) : List Nat :=
  (codes.mergeSort (· ≤ ·)).eraseReps

def encode (label : List Char) : List Char :=
  let basic := label.filter fun character => character.toNat < 128
  let extended := (label.filter fun character => character.toNat ≥ 128).map Char.toNat
  let start := if basic.isEmpty then [] else basic ++ ['-']
  (encodeExtended label basic.length (ascending extended) 128
    ⟨start, 0, 72, basic.length⟩).output

def decodeNumber (bias : Nat) :
    (fuel : Nat) → (position weight : Nat) → List Char → Option (Nat × List Char)
  | 0, _, _, _ => none
  | _, _, _, [] => none
  | fuel + 1, position, weight, character :: rest => do
      let value ← digitValue? character
      let limit := threshold position bias
      if value < limit then some (value * weight, rest)
      else
        let (number, suffix) ← decodeNumber bias fuel (position + 36) (weight * (36 - limit)) rest
        some (value * weight + number, suffix)

def decodeExtended :
    (fuel : Nat) → (code index bias : Nat) → (output : List Char) → List Char → Option (List Char)
  | _, _, _, _, output, [] => some output
  | 0, _, _, _, _, _ => none
  | fuel + 1, code, index, bias, output, text => do
      let (number, rest) ← decodeNumber bias text.length 36 1 text
      let size := output.length + 1
      let total := index + number
      let next := code + total / size
      if next < 0xD800 ∨ (0xE000 ≤ next ∧ next < 0x110000) then
        let place := total % size
        decodeExtended fuel next (place + 1) (adapt number size (index == 0))
          (output.take place ++ Char.ofNat next :: output.drop place) rest
      else none

/-- The label that an encoded one stands for; the last hyphen ends its ASCII part. -/
def decode (text : List Char) : Option (List Char) :=
  let tail := (text.reverse.takeWhile fun character => character != '-').reverse
  let basic := (text.take (text.length - tail.length)).dropLast
  if basic.all fun character => character.toNat < 128 then
    decodeExtended tail.length 128 0 72 basic tail
  else none

end WebSocket.Punycode
