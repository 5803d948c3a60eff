import WebSocket.Bytes

/-!
Messages cut into blocks. A message is filled up with a one bit, zeros and its
length in bits, so that its size becomes a multiple of the block size.
-/

namespace WebSocket

/-- The bytes in pieces of `size`, with whatever is left in a shorter last piece. -/
def chunks (size : Nat) : Bytes → List Bytes
  | [] => []
  | byte :: rest => (byte :: rest).take size :: chunks size (rest.drop (size - 1))
termination_by bytes => bytes.length
decreasing_by
  simp only [List.length_drop, List.length_cons]
  omega

def padded (blockSize lengthWidth : Nat) (message : Bytes) : Bytes :=
  let used := (message.length + 1 + lengthWidth) % blockSize
  message ++ 0x80 :: List.replicate ((blockSize - used) % blockSize) 0 ++
    BigEndian.encode lengthWidth (message.length * 8)

end WebSocket
