import WebSocket.Config
import WebSocket.Url.Basic

/-!
Upgrade requests. A request is made from a URL and a configuration, may then be
edited freely, and is checked for line breaks once more when it is written.
-/

namespace WebSocket

def acceptGuid : String := "258EAFA5-E914-47DA-95CA-C5AB0DC85B11"

def acceptValue (key : String) : String :=
  Base64.encode (Sha1.digest (Utf8.encode key ++ Utf8.encode acceptGuid))

structure Request where
  path : String
  host : String
  headers : Headers
  key : String
  deriving DecidableEq, Repr

namespace Request

/-- The path and the query that a URL asks for. -/
def target (url : Url) : String :=
  let path := if url.path = "" then "/" else url.path
  match url.query with
  | some query => path ++ "?" ++ query
  | none => path

def standardFields (config : Config) (host key : String) : List HeaderField :=
  [⟨"Host", host⟩, ⟨"Connection", "Upgrade"⟩, ⟨"Upgrade", "websocket"⟩,
    ⟨"Sec-WebSocket-Key", key⟩, ⟨"Sec-WebSocket-Version", "13"⟩] ++
  (if config.subprotocols.isEmpty then []
    else [⟨"Sec-WebSocket-Protocol", ", ".intercalate config.subprotocols⟩]) ++
  (config.authorization.map (HeaderField.mk "Authorization")).toList

/-- Adds fields one by one up to the first one that is refused. -/
def appendFields (headers : Headers) : List HeaderField → Except Error Headers
  | [] => .ok headers
  | field :: rest =>
      match headers.append field.name field.value with
      | (.error failure, _) => .error failure
      | (.ok (), extended) => appendFields extended rest

/-- The request for a URL; its key is the Base64 form of sixteen random bytes. -/
def new (url : Url) (config : Config) (nonce : Bytes) : Except Error Request :=
  match url.requireHost with
  | .error failure => .error failure
  | .ok name =>
      let host :=
        match url.port with
        | some port => s!"{name.render}:{port}"
        | none => name.render
      let key := Base64.encode nonce
      match appendFields {} (standardFields config host key) with
      | .error failure => .error failure
      | .ok headers => .ok ⟨target url, host, headers, key⟩

def expectedAccept (request : Request) : String := acceptValue request.key

def offeredProtocols (request : Request) : List String :=
  ((request.headers.getAll "sec-websocket-protocol").flatMap fun value =>
    (Text.split ',' value.toList).map fun piece => String.ofList (Text.trim piece)).filter
      fun protocol => protocol ≠ ""

def writeFields (written : String) : List HeaderField → Except Error Unit × String
  | [] => (.ok (), written ++ "\r\n")
  | field :: rest =>
      match checkHeaderValue field.name field.name, checkHeaderValue field.name field.value with
      | .error failure, _ => (.error failure, written)
      | .ok (), .error failure => (.error failure, written)
      | .ok (), .ok () => writeFields (written ++ s!"{field.name}: {field.value}\r\n") rest

/-- The text of the request. A line break where none may be stops the writing,
and what was written before it stays. -/
def write (request : Request) : Except Error Unit × String :=
  match checkHeaderValue "request-target" request.path with
  | .error failure => (.error failure, "")
  | .ok () => writeFields s!"GET {request.path} HTTP/1.1\r\n" request.headers.fields

/-- A change that a user makes to a request before it is written. -/
inductive Edit where
  | setPath (path : String)
  | setHost (host : String)
  | append (name value : String)
  | insert (name value : String)
  | remove (name : String)
  deriving DecidableEq, Repr

def edit (request : Request) : Edit → Except Error Unit × Request
  | .setPath path => (.ok (), { request with path })
  | .setHost host => (.ok (), { request with host })
  | .append name value =>
      let (result, headers) := request.headers.append name value
      (result, { request with headers })
  | .insert name value =>
      let (result, headers) := request.headers.insert name value
      (result, { request with headers })
  | .remove name => (.ok (), { request with headers := request.headers.remove name })

/-- Makes all changes in turn; one that fails does not stop the next. -/
def editAll (request : Request) : List Edit → List (Except Error Unit) × Request
  | [] => ([], request)
  | change :: rest =>
      let (result, edited) := request.edit change
      let (results, final) := editAll edited rest
      (result :: results, final)

end Request

end WebSocket
