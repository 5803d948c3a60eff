import WebSocket.Handshake.Request
import WebSocket.Handshake.Response

/-!
What a response means for a request: whether the connection is open, why not,
and the answer to a challenge for a signature.
-/

namespace WebSocket

structure Outcome where
  response : Response
  isOpen : Bool := false
  closeReason : Option String := none
  subprotocol : Option String := none
  challengeAuthorization : Option String := none
  deriving DecidableEq, Repr

namespace Outcome

/-- The answer to the first challenge, if there is a key and the challenge can
be answered with it. -/
def answerChallenge (response : Response) (key : Option SigningKey) : Option String :=
  match response.headers.get? "www-authenticate", key with
  | some header, some key =>
      match Challenge.parse header with
      | .ok challenge => (challenge.authorization key).toOption
      | .error _ => none
  | _, _ => none

def rejected (response : Response) (key : Option SigningKey) : Outcome :=
  { response
    closeReason := some s!"Unexpected status {response.status} {response.reason}"
    challengeAuthorization := if response.status = 401 then answerChallenge response key else none }

def evaluate (request : Request) (response : Response) (key : Option SigningKey) : Outcome :=
  if response.status ≠ 101 then rejected response key
  else if response.accept ≠ some request.expectedAccept then
    { response, closeReason := some "Sec-WebSocket-Accept mismatch" }
  else
    match response.protocol with
    | none => { response, isOpen := true }
    | some protocol =>
        if request.offeredProtocols.contains protocol then
          { response, isOpen := true, subprotocol := some protocol }
        else { response, closeReason := some s!"Server selected unoffered protocol {protocol}" }

def failed (status : UInt16) (reason : String) : Outcome :=
  { response := Response.synthetic status reason, closeReason := some reason }

def status (outcome : Outcome) : UInt16 := outcome.response.status

end Outcome

end WebSocket
