/-!
Bytes in the order they travel on the wire, and numbers written in them with
the most significant byte first.
-/

namespace WebSocket

abbrev Byte := UInt8

abbrev Bytes := List Byte

def isShorter : (count : Nat) → Bytes → Bool
  | 0, _ => false
  | _ + 1, [] => true
  | count + 1, _ :: rest => isShorter count rest

theorem is_shorter_iff {count : Nat} {bytes : Bytes} :
    isShorter count bytes = true ↔ bytes.length < count := by
  induction count generalizing bytes with
  | zero => simp [isShorter]
  | succ count induction =>
    cases bytes with
    | nil => simp [isShorter]
    | cons byte rest => simp [isShorter, induction]

namespace BigEndian

/-- The number in exactly `width` bytes; what does not fit is dropped from the front. -/
def encode : (width : Nat) → (value : Nat) → Bytes
  | 0, _ => []
  | width + 1, value => encode width (value / 256) ++ [UInt8.ofNat value]

def decode (bytes : Bytes) : Nat :=
  bytes.foldl (fun total byte => total * 256 + byte.toNat) 0

theorem encode_length (width value : Nat) : (encode width value).length = width := by
  induction width generalizing value with
  | zero => rfl
  | succ width induction => simp [encode, induction]

end BigEndian

/-- Sizes of messages and buffers stay below this bound, the number of distinct
64-bit lengths that a frame header can announce. -/
def sizeBound : Nat := 18446744073709551616

end WebSocket
