import WebSocket.Bytes

/-!
Byte streams whose behaviour is laid down in advance. Each side of a stream has
a list of cues, one for each low-level call to come; waits hold a call up and
keep their end even if the call gives up.
-/

namespace WebSocket

/-- Why a stream failed; the first six kinds mean that it is gone for good. -/
inductive IoKind where
  | connectionReset
  | brokenPipe
  | connectionAborted
  | notConnected
  | unexpectedEof
  | writeZero
  | other (name : String)
  deriving DecidableEq, Repr

def IoKind.name : IoKind → String
  | connectionReset => "ConnectionReset"
  | brokenPipe => "BrokenPipe"
  | connectionAborted => "ConnectionAborted"
  | notConnected => "NotConnected"
  | unexpectedEof => "UnexpectedEof"
  | writeZero => "WriteZero"
  | other name => name

def IoKind.ofName (name : String) : IoKind :=
  ([connectionReset, brokenPipe, connectionAborted, notConnected, unexpectedEof, writeZero].find?
    fun kind => kind.name = name).getD (other name)

structure IoFailure where
  kind : IoKind
  reason : String
  deriving DecidableEq, Repr

inductive SendStatus where
  | success
  | error
  | fatalError
  deriving DecidableEq, Repr

namespace SendStatus

def ofKind : IoKind → SendStatus
  | .other _ => error
  | _ => fatalError

def isSuccess (status : SendStatus) : Bool := status == success

def name : SendStatus → String
  | success => "Success"
  | error => "Error"
  | fatalError => "FatalError"

end SendStatus

inductive Cue where
  | wait (milliseconds : Nat)
  | hang
  | fail (failure : IoFailure)
  | broken (failure : IoFailure)
  | accept (count : Nat)
  | data (bytes : Bytes)
  | eof
  deriving DecidableEq, Repr

/-- One side of a stream. `readyAt` is the end of the last wait that was met; a
side that `idles` waits for more cues when it has run out of them. -/
structure Side where
  cues : List Cue := []
  readyAt : Nat := 0
  idles : Bool := false
  deriving DecidableEq, Repr

/-- What a side does next: nothing yet, start a wait, or play a cue; no cue
stands for the end of the list. -/
inductive Turn where
  | blocked
  | waiting (side : Side)
  | plays (cue : Option Cue) (side : Side)
  deriving DecidableEq, Repr

def Side.turn (side : Side) (now : Nat) : Turn :=
  if now < side.readyAt then .blocked
  else
    match side.cues with
    | [] => if side.idles then .blocked else .plays none side
    | .wait milliseconds :: rest => .waiting { side with cues := rest, readyAt := now + milliseconds }
    | .hang :: _ => .blocked
    | .broken failure :: _ => .plays (some (.fail failure)) side
    | cue :: rest => .plays (some cue) { side with cues := rest }

/-- A stream, what has been written to it, and how many flushes and shutdowns
were completed. -/
structure Stream where
  reading : Side := {}
  writing : Side := {}
  flushing : Side := {}
  closing : Side := {}
  written : Bytes := []
  flushes : Nat := 0
  shutdowns : Nat := 0
  deriving DecidableEq, Repr

inductive Transfer where
  | done (count : Nat)
  | failed (failure : IoFailure)
  | timedOut
  deriving DecidableEq, Repr

inductive Reading where
  | data (bytes : Bytes)
  | ended
  | failed (failure : IoFailure)
  | timedOut
  | cancelled
  deriving DecidableEq, Repr

namespace Stream

def writeZero : IoFailure := ⟨.writeZero, "write zero"⟩

/-- How many of `size` offered bytes a cue takes. -/
def room (cue : Option Cue) (size : Nat) : Except IoFailure Nat :=
  match cue with
  | some (.fail failure) => .error failure
  | some (.accept count) => .ok (min count size)
  | _ => .ok size

/-- Offers bytes to the writing side. A stream that takes none of them has failed. -/
def write (stream : Stream) (cue : Option Cue) (bytes : Bytes) : Transfer × Stream :=
  match room cue bytes.length with
  | .error failure => (.failed failure, stream)
  | .ok 0 => (.failed writeZero, stream)
  | .ok count => (.done count, { stream with written := stream.written ++ bytes.take count })

def flush (stream : Stream) (cue : Option Cue) : Transfer × Stream :=
  match cue with
  | some (.fail failure) => (.failed failure, stream)
  | _ => (.done 0, { stream with flushes := stream.flushes + 1 })

def shutdown (stream : Stream) (cue : Option Cue) : Transfer × Stream :=
  match cue with
  | some (.fail failure) => (.failed failure, stream)
  | _ => (.done 0, { stream with shutdowns := stream.shutdowns + 1 })

/-- Takes at most `room` bytes from the reading side; the rest stays for later. -/
def read (stream : Stream) (cue : Option Cue) (room : Nat) : Reading × Stream :=
  match cue with
  | some (.fail failure) => (.failed failure, stream)
  | some (.data (first :: more)) =>
      let bytes := first :: more
      if bytes.length ≤ room then (.data bytes, stream)
      else
        let side := stream.reading
        (.data (bytes.take room),
          { stream with reading := { side with cues := .data (bytes.drop room) :: side.cues } })
  | _ => (.ended, stream)

end Stream

end WebSocket
