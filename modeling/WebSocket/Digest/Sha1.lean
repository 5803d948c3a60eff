import WebSocket.Digest.Padding

/-!
The SHA-1 digest, which a server's accept value is made of.
-/

namespace WebSocket.Sha1

def rotate (word amount : UInt32) : UInt32 := (word <<< amount) ||| (word >>> (32 - amount))

structure Working where
  words : List UInt32
  schedule : List UInt32

/-- The mixing function and the constant of a round. -/
def stage (index : Nat) (b c d : UInt32) : UInt32 × UInt32 :=
  if index < 20 then ((b &&& c) ||| (~~~b &&& d), 0x5A827999)
  else if index < 40 then (b ^^^ c ^^^ d, 0x6ED9EBA1)
  else if index < 60 then ((b &&& c) ||| (b &&& d) ||| (c &&& d), 0x8F1BBCDC)
  else (b ^^^ c ^^^ d, 0xCA62C1D6)

def round (state : Working) (index : Nat) : Working :=
  match state.words, state.schedule with
  | [a, b, c, d, e], w0 :: w1 :: w2 :: w3 :: w4 :: w5 :: w6 :: w7 :: w8 :: w9 :: w10 :: w11 :: w12 :: w13 :: rest =>
      let (mixed, constant) := stage index b c d
      let next := rotate (w13 ^^^ w8 ^^^ w2 ^^^ w0) 1
      ⟨[rotate a 5 + mixed + e + constant + w0, a, rotate b 30, c, d],
        w1 :: w2 :: w3 :: w4 :: w5 :: w6 :: w7 :: w8 :: w9 :: w10 :: w11 :: w12 :: w13 :: rest ++ [next]⟩
  | _, _ => state

def compress (words : List UInt32) (block : Bytes) : List UInt32 :=
  let schedule := (chunks 4 block).map fun word => UInt32.ofNat (BigEndian.decode word)
  let final := (List.range 80).foldl round ⟨words, schedule⟩
  List.zipWith (fun before after => before + after) words final.words

def digest (message : Bytes) : Bytes :=
  let final := (chunks 64 (padded 64 8 message)).foldl compress
    [0x67452301, 0xEFCDAB89, 0x98BADCFE, 0x10325476, 0xC3D2E1F0]
  final.flatMap fun word => BigEndian.encode 4 word.toNat

end WebSocket.Sha1
