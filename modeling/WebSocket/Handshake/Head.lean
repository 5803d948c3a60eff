import WebSocket.Handshake.Response
import WebSocket.Limits

/-!
Where a response head ends in a stream of bytes. The bytes behind the head are
kept: they belong to the frames that follow.
-/

namespace WebSocket.Head

def end? : Bytes → Option Nat
  | [] => none
  | 13 :: 10 :: 13 :: 10 :: _ => some 4
  | _ :: rest => (end? rest).map (· + 1)

/-- The response and the bytes behind it, once its head is whole. A head that is
or has become too large is refused. -/
def split (limits : Limits) (buffer : Bytes) : Except Error (Option (Response × Bytes)) :=
  match end? buffer with
  | none =>
      match limits.checkHandshakeSize buffer.length with
      | .error failure => .error failure
      | .ok () => .ok none
  | some size =>
      match limits.checkHandshakeSize size with
      | .error failure => .error failure
      | .ok () =>
          match Response.parse (buffer.take size) with
          | .error failure => .error failure
          | .ok response => .ok (some (response, buffer.drop size))

end WebSocket.Head
