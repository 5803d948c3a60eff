import WebSocket.Error

/-!
The bounds that an endpoint sets on what it is ready to receive. Each check
passes exactly when its size is within the bound.
-/

namespace WebSocket

/-- Bounds on one frame's payload, one message, the fragments of a message and a
handshake head, all but the fragments in bytes. -/
structure Limits where
  frameSize : Nat := 16777216
  messageSize : Nat := 67108864
  fragmentCount : Nat := 128
  handshakeSize : Nat := 8192
  deriving DecidableEq, Repr

namespace Limits

def checkMessageSize (limits : Limits) (size : Nat) : Except Error Unit :=
  if size > limits.messageSize then .error (.messageTooLarge size limits.messageSize) else .ok ()

def checkFragmentCount (limits : Limits) (count : Nat) : Except Error Unit :=
  if count > limits.fragmentCount then .error (.tooManyFragments count limits.fragmentCount)
  else .ok ()

def checkHandshakeSize (limits : Limits) (size : Nat) : Except Error Unit :=
  if size > limits.handshakeSize then .error (.handshakeTooLarge size limits.handshakeSize)
  else .ok ()

end Limits

end WebSocket
