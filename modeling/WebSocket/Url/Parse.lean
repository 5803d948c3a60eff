import WebSocket.Error
import WebSocket.Url.Basic
import WebSocket.Text.Blank
import WebSocket.Url.Domain
import WebSocket.Url.Percent

/-!
Reading absolute URLs. Blanks around the text and line breaks inside it do not
count; a scheme of the web's own has a host and a path, any other scheme may
have neither.
-/

namespace WebSocket.Url

inductive ParseError where
  | relativeWithoutBase
  | emptyHost
  | invalidPort
  | invalidIpv4
  | invalidIpv6
  | invalidDomain
  | invalidDomainCharacter
  deriving DecidableEq, Repr

def ParseError.message : ParseError → String
  | relativeWithoutBase => "relative URL without a base"
  | emptyHost => "empty host"
  | invalidPort => "invalid port number"
  | invalidIpv4 => "invalid IPv4 address"
  | invalidIpv6 => "invalid IPv6 address"
  | invalidDomain => "invalid international domain name"
  | invalidDomainCharacter => "invalid domain character"

inductive SchemeKind where
  | file
  | special
  | other
  deriving DecidableEq, Repr

def SchemeKind.of (scheme : String) : SchemeKind :=
  if scheme = "file" then .file
  else if (defaultPort? scheme).isSome then .special
  else .other

def SchemeKind.isSlash (kind : SchemeKind) (character : Char) : Bool :=
  character == '/' || (kind != .other && character == '\\')

def SchemeKind.endsAuthority (kind : SchemeKind) (character : Char) : Bool :=
  kind.isSlash character || character == '?' || character == '#'

def isEdgeBlank (character : Char) : Bool := character.toNat ≤ 0x20

def isIgnored (character : Char) : Bool :=
  character == '\t' || character == '\n' || character == '\r'

def isSchemeChar (character : Char) : Bool :=
  character.isAlphanum || character == '+' || character == '-' || character == '.'

def splitScheme (text : List Char) : Option (String × List Char) :=
  match text.head?, text.dropWhile isSchemeChar with
  | some first, ':' :: rest =>
      if first.isAlpha then
        some (String.ofList ((text.takeWhile isSchemeChar).map Char.toLower), rest)
      else none
  | _, _ => none

def breakAt (stop : Char → Bool) (text : List Char) : List Char × List Char :=
  (text.takeWhile fun character => !stop character, text.dropWhile fun character => !stop character)

def splitUserInfo (authority : List Char) : Option (List Char × List Char) :=
  if authority.contains '@' then
    let host := (authority.reverse.takeWhile (· != '@')).reverse
    some (authority.take (authority.length - host.length - 1), host)
  else none

/-- The written form of user information. An empty password loses its colon. -/
def renderUserInfo (text : List Char) : String :=
  let written :=
    match Text.splitOnce (· == ':') text with
    | none => Percent.encode Percent.userInfoSet text
    | some (user, []) => Percent.encode Percent.userInfoSet user
    | some (user, password) =>
        Percent.encode Percent.userInfoSet user ++ ':' ::
          Percent.encode Percent.userInfoSet password
  if written.isEmpty then "" else String.ofList (written ++ ['@'])

/-- The host up to a colon outside brackets, and the rest from that colon on. -/
def splitHost : (inBrackets : Bool) → List Char → List Char × List Char
  | _, [] => ([], [])
  | inBrackets, character :: rest =>
      if character == ':' && !inBrackets then ([], character :: rest)
      else
        let bracketed := if character == '[' then true else if character == ']' then false else inBrackets
        let (host, port) := splitHost bracketed rest
        (character :: host, port)

def parseIpv6Host (text : List Char) : Except ParseError Host :=
  if text.getLast? ≠ some ']' then .error .invalidIpv6
  else
    match Ipv6.parse (text.drop 1).dropLast with
    | some address => .ok (.ipv6 address)
    | none => .error .invalidIpv6

def parseSpecialHost (text : List Char) : Except ParseError Host :=
  match text with
  | [] => .error .emptyHost
  | '[' :: _ => parseIpv6Host text
  | _ =>
      match Domain.toAscii (Percent.decode (Utf8.encode (String.ofList text))) with
      | none => .error .invalidDomain
      | some [] => .error .emptyHost
      | some name =>
          if Ipv4.endsInNumber name then
            match Ipv4.parseHost name with
            | some address => .ok (.ipv4 address)
            | none => .error .invalidIpv4
          else .ok (.domain (String.ofList name))

def isOpaqueForbidden (character : Char) : Bool :=
  character == '\x00' || isIgnored character ||
    [' ', '#', '/', ':', '<', '>', '?', '@', '[', '\\', ']', '^', '|'].contains character

/-- A host of a foreign scheme is not looked into; an empty one is no host. -/
def parseOpaqueHost (text : List Char) : Except ParseError (Option Host) :=
  match text with
  | [] => .ok none
  | '[' :: _ => (parseIpv6Host text).map some
  | _ =>
      if text.any isOpaqueForbidden then .error .invalidDomainCharacter
      else .ok (some (.domain (String.ofList (Percent.encode [] text))))

def parseHost (kind : SchemeKind) (text : List Char) : Except ParseError (Option Host) :=
  match kind with
  | .other => parseOpaqueHost text
  | _ => (parseSpecialHost text).map some

/-- The port after the host, if it is not the one that the scheme implies, and
what is left of the authority behind a backslash. -/
def parsePort (scheme : String) (text : List Char) :
    Except ParseError (Option Nat × List Char) :=
  match text with
  | ':' :: rest =>
      let digits := rest.takeWhile Char.isDigit
      let left := rest.dropWhile Char.isDigit
      let port := digits.foldl (fun total digit => total * 10 + (digit.toNat - 48)) 0
      if port > 65535 || !(left.isEmpty || left.head? == some '\\') then .error .invalidPort
      else if digits.isEmpty || defaultPort? scheme == some port then .ok (none, left)
      else .ok (some port, left)
  | _ => .ok (none, text)

def isSingleDot (segment : List Char) : Bool :=
  [".", "%2e"].contains (String.ofList (segment.map Char.toLower))

def isDoubleDot (segment : List Char) : Bool :=
  ["..", ".%2e", "%2e.", "%2e%2e"].contains (String.ofList (segment.map Char.toLower))

def isDriveLetter (segment : List Char) : Bool :=
  match segment with
  | [letter, mark] => letter.isAlpha && (mark == ':' || mark == '|')
  | _ => false

/-- The segments without the last one; a drive letter stays. -/
def shorten (kind : SchemeKind) (segments : List (List Char)) : List (List Char) :=
  match kind, segments with
  | .file, [only] => if isDriveLetter only then segments else []
  | _, _ => segments.dropLast

def resolveSegments (kind : SchemeKind) : List (List Char) → List (List Char) → List (List Char)
  | resolved, [] => resolved
  | resolved, segment :: rest =>
      let ended := if rest.isEmpty then [[]] else []
      if isDoubleDot segment then resolveSegments kind (shorten kind resolved ++ ended) rest
      else if isSingleDot segment then resolveSegments kind (resolved ++ ended) rest
      else if kind == .file && resolved.isEmpty && isDriveLetter segment then
        resolveSegments kind [segment.take 1 ++ [':']] rest
      else resolveSegments kind (resolved ++ [Percent.encode Percent.pathSet segment]) rest

def splitSegments (kind : SchemeKind) (text : List Char) : List (List Char) :=
  Text.split '/' (text.map fun character => if kind.isSlash character then '/' else character)

def renderSegments (kind : SchemeKind) (segments : List (List Char)) : String :=
  let joined := ['/'].intercalate segments
  String.ofList ('/' :: if kind == .file then joined.dropWhile (· == '/') else joined)

/-- A hierarchical path. Only a foreign scheme may have none. -/
def parsePath (kind : SchemeKind) (text : List Char) : String :=
  match kind, text with
  | .other, [] => ""
  | _, [] => renderSegments kind (resolveSegments kind [] [[]])
  | _, first :: rest =>
      let inner := if kind.isSlash first then rest else first :: rest
      renderSegments kind (resolveSegments kind [] (splitSegments kind inner))

def parseSuffix (kind : SchemeKind) (text : List Char) : Option String × Option String :=
  let (beforeHash, hash) := breakAt (· == '#') text
  let set := if kind == .other then Percent.querySet else Percent.specialQuerySet
  let written (set : Percent.EncodeSet) (marked : List Char) : Option String :=
    match marked with
    | [] => none
    | _ :: content => some (String.ofList (Percent.encode set content))
  (written set beforeHash, written Percent.fragmentSet hash)

def splitPath (text : List Char) : List Char × List Char :=
  breakAt (fun character => character == '?' || character == '#') text

def parseAuthority (scheme : String) (kind : SchemeKind) (text : List Char) :
    Except ParseError Url := do
  let (authority, rest) := breakAt kind.endsAuthority text
  let (userInfo, hostPort) := (splitUserInfo authority).getD ([], authority)
  if userInfo.isEmpty && authority.contains '@' && hostPort.isEmpty && !rest.isEmpty then
    .error .emptyHost
  else
    let (hostText, portText) := splitHost false hostPort
    let host ← parseHost kind hostText
    if host.isNone && (!portText.isEmpty || !(renderUserInfo userInfo).isEmpty) then
      .error .emptyHost
    else
      let (port, left) ← parsePort scheme portText
      let (path, suffix) := splitPath (left ++ rest)
      let (query, fragment) := parseSuffix kind suffix
      .ok
        { scheme, hasAuthority := true, userInfo := renderUserInfo userInfo, host, port,
          path := parsePath kind path, query, fragment }

/-- A file's host is optional, may not have a port, and is dropped where it
names this machine. -/
def parseFile (scheme : String) (text : List Char) : Except ParseError Url := do
  let (hostText, rest) :=
    match text with
    | first :: second :: more =>
        if SchemeKind.file.isSlash first && SchemeKind.file.isSlash second then
          let (host, rest) := breakAt SchemeKind.file.endsAuthority more
          if isDriveLetter host then ([], more) else (host, rest)
        else ([], text)
    | _ => ([], text)
  let host ← if hostText.isEmpty then .ok none else (parseSpecialHost hostText).map some
  let named := if host = some (.domain "localhost") then none else host
  let (path, suffix) := splitPath rest
  let (query, fragment) := parseSuffix .file suffix
  .ok { scheme, hasAuthority := true, host := named, path := parsePath .file path, query, fragment }

def parseRootless (scheme : String) (text : List Char) : Url :=
  let (path, suffix) := splitPath text
  let (query, fragment) := parseSuffix .other suffix
  let written :=
    match path with
    | '/' :: _ => parsePath .other path
    | _ => String.ofList (Percent.encode [] path)
  { scheme, path := written, query, fragment }

def parse (text : String) : Except ParseError Url :=
  let plain := (Text.strip isEdgeBlank text.toList).filter fun character => !isIgnored character
  match splitScheme plain with
  | none => .error .relativeWithoutBase
  | some (scheme, rest) =>
      match SchemeKind.of scheme, rest with
      | .file, _ => parseFile scheme rest
      | .special, _ =>
          parseAuthority scheme .special (rest.dropWhile SchemeKind.special.isSlash)
      | .other, '/' :: '/' :: more => parseAuthority scheme .other more
      | .other, _ => .ok (parseRootless scheme rest)

def read (text : String) : Except Error Url :=
  match parse text with
  | .ok url => .ok url
  | .error failure => .error (.invalidUrl failure.message)

end WebSocket.Url
