import WebSocket.Base64
import WebSocket.Text.Lossy
import WebSocket.Text.Quoted

/-!
PEM files: labelled sections of Base64 among other text. Sections come in file
order up to the first failure, so a reader that finds what it wants early never
meets a later one.
-/

namespace WebSocket

inductive PrivateKey where
  | pkcs1 (der : Bytes)
  | pkcs8 (der : Bytes)
  | sec1 (der : Bytes)
  deriving DecidableEq, Repr

namespace PrivateKey

def name : PrivateKey → String
  | pkcs1 _ => "Pkcs1"
  | pkcs8 _ => "Pkcs8"
  | sec1 _ => "Sec1"

def der : PrivateKey → Bytes
  | pkcs1 der => der
  | pkcs8 der => der
  | sec1 der => der

end PrivateKey

namespace Pem

inductive Failure where
  | illegalStart (line : String)
  | missingEnd (label : String)
  | encoding (failure : Base64.Failure)
  deriving DecidableEq, Repr

def Failure.message : Failure → String
  | illegalStart line => s!"illegal section start: {Text.quoted line}"
  | missingEnd label => s!"section end {Text.quoted label} missing"
  | encoding (.invalidCharacter code) => s!"InvalidCharacter({code})"
  | encoding .prematurePadding => "PrematurePadding"
  | encoding .invalidTrailingPadding => "InvalidTrailingPadding"

structure Section where
  label : Bytes
  content : Bytes
  deriving DecidableEq, Repr

structure Contents where
  sections : List Section
  failure : Option Failure
  deriving DecidableEq, Repr

def ascii (text : String) : Bytes := Utf8.encode text

/-- The labels whose content is looked at; all other sections are skipped. -/
def knownLabels : List Bytes :=
  ["CERTIFICATE", "PUBLIC KEY", "RSA PRIVATE KEY", "PRIVATE KEY", "EC PRIVATE KEY", "X509 CRL",
    "CERTIFICATE REQUEST", "ECHCONFIG"].map ascii

/-- Lines with the line feed or the carriage return that ends each of them. -/
def lines : Bytes → List Bytes
  | [] => []
  | byte :: rest =>
      if byte = 10 ∨ byte = 13 then [byte] :: lines rest
      else
        match lines rest with
        | [] => [[byte]]
        | line :: more => (byte :: line) :: more

def startMark : Bytes := ascii "-----BEGIN "

def endMark : Bytes := ascii "-----END "

def dashes : Bytes := ascii "-----"

def isTrailing (byte : Byte) : Bool := byte == 45 || byte == 10 || byte == 13 || byte == 32

def startLabel (line : Bytes) : Option Bytes :=
  let trailing := (line.reverse.takeWhile isTrailing).reverse
  let tail := trailing.dropWhile (· != 45)
  if (tail.filter (· == 45)).length = 5 then
    some ((line.take (line.length - tail.length)).drop startMark.length)
  else none

def isEnd (label line : Bytes) : Bool := (endMark ++ label ++ dashes).isPrefixOf line

def Contents.cons (first : Section) (rest : Contents) : Contents :=
  ⟨first :: rest.sections, rest.failure⟩

/-- Reads line by line; `current` is the label of the section in progress and
`body` the lines in it so far, the last one first. -/
def readLines : (current : Option Bytes) → (body : List Bytes) → List Bytes → Contents
  | none, _, [] => ⟨[], none⟩
  | some label, _, [] => ⟨[], some (.missingEnd (Utf8.decodeLossy label))⟩
  | current, body, line :: rest =>
      if startMark.isPrefixOf line then
        match startLabel line with
        | none => ⟨[], some (.illegalStart (Utf8.decodeLossy line))⟩
        | some label => readLines (some label) [] rest
      else
        match current with
        | none => readLines none [] rest
        | some label =>
            if !isEnd label line then readLines current (line :: body) rest
            else if !knownLabels.contains label then readLines none [] rest
            else
              match Base64.decode body.reverse.flatten with
              | .error failure => ⟨[], some (.encoding failure)⟩
              | .ok content => .cons ⟨label, content⟩ (readLines none [] rest)

def read (file : Bytes) : Contents := readLines none [] (lines file)

def Section.privateKey? (part : Section) : Option PrivateKey :=
  if part.label = ascii "RSA PRIVATE KEY" then some (.pkcs1 part.content)
  else if part.label = ascii "PRIVATE KEY" then some (.pkcs8 part.content)
  else if part.label = ascii "EC PRIVATE KEY" then some (.sec1 part.content)
  else none

end Pem

end WebSocket
