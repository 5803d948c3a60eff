import WebSocket.Handshake.Headers
import WebSocket.Text.Blank
import WebSocket.Text.Split
import WebSocket.Text.Utf8

/-!
Response heads: a status line, and header lines up to the first empty one.
-/

namespace WebSocket

/-- A response's head. A `synthetic` one was made up in place of one that never came. -/
structure Response where
  status : UInt16
  reason : String
  headers : Headers
  isSynthetic : Bool := false
  deriving DecidableEq, Repr

namespace Response

def synthetic (status : UInt16) (reason : String) : Response := ⟨status, reason, {}, true⟩

/-- A decimal number of sixteen bits; one plus sign may lead it. -/
def parseStatus (characters : List Char) : Option UInt16 :=
  let digits :=
    match characters with
    | '+' :: rest => rest
    | _ => characters
  if digits.isEmpty || !digits.all Char.isDigit then none
  else
    let value := digits.foldl (fun total digit => total * 10 + (digit.toNat - 48)) 0
    if value < 65536 then some (UInt16.ofNat value) else none

/-- A header line without a colon is no field. -/
def parseField (line : List Char) : Option HeaderField :=
  (Text.splitOnce (· == ':') line).map fun (name, value) =>
    ⟨String.ofList (Text.trim name), String.ofList (Text.trim value)⟩

def parseLines (statusLine : List Char) (rest : List (List Char)) : Except Error Response :=
  let failure := Error.invalidHandshake s!"Invalid status line: {String.ofList statusLine}"
  let (version, afterVersion) := (Text.splitOnce (· == ' ') statusLine).getD (statusLine, [])
  let (status, reason) := (Text.splitOnce (· == ' ') afterVersion).getD (afterVersion, [])
  if !"HTTP/1.".toList.isPrefixOf version then .error failure
  else
    match parseStatus status with
    | none => .error failure
    | some number =>
        let fields := (rest.takeWhile fun line => !line.isEmpty).filterMap parseField
        .ok ⟨number, String.ofList (Text.trim reason), ⟨fields⟩, false⟩

def parse (head : Bytes) : Except Error Response :=
  match Utf8.decode head with
  | none => .error (.invalidHandshake "Invalid UTF-8")
  | some text =>
      match Text.lines text.toList with
      | [] => .error (.invalidHandshake "Empty response")
      | statusLine :: rest => parseLines statusLine rest

def accept (response : Response) : Option String := response.headers.get? "sec-websocket-accept"

def protocol (response : Response) : Option String :=
  response.headers.get? "sec-websocket-protocol"

end Response

end WebSocket
