import WebSocket.Connection.Gate

/-!
How a connection sends and how it ends. Whoever moves the phase from open to
closing owns the Close frame; whoever first moves it to closed tears the
connection down, and everybody else finds nothing left to do.
-/

namespace WebSocket.Connection

open Script

def notify (setup : Setup) (event : Event) : Script Unit :=
  (List.range setup.observers.length).foldr
    (fun index rest => act (.tell index event) fun _ => rest) (done ())

def isOpen : Script Bool := do
  let phase ← perform .readPhase
  return phase == .opened

def transmit (setup : Setup) (frame : Frame) : Script SendStatus := do
  let status ← Gate.sendFrame setup.config frame
  if status.isSuccess then notify setup (.frameSent frame)
  return status

/-- The release of everything that the connection holds, done by the first one
who asks for it. The closed signal comes after the writer is gone. -/
def teardown (setup : Setup) : Script Unit := do
  let before ← perform .closePhase
  if before = .closed then return ()
  perform .cancelToken
  let attached ← perform .takeScheduler
  match attached with
  | some scheduler => perform (.stopScheduler scheduler)
  | none => pure ()
  Gate.shutdown setup.config
  perform .announceClosed
  notify setup .closed

def sendCloseOnce (setup : Setup) (frame : Frame) : Script SendStatus := do
  let isFirst ← perform .claimClose
  if isFirst then transmit setup frame else return .success

/-- Starts the close handshake, and the watchdog that ends it if the peer does not. -/
def beginClose (setup : Setup) (code : Option UInt16) (reason : String) : Script SendStatus := do
  let isOwner ← perform (.movePhase .opened .closing)
  if isOwner then
    let status ← sendCloseOnce setup (.close code reason)
    if status = .fatalError then teardown setup
    else perform (.spawn .watchdog)
    return status
  else return .error

def handlePeerClose (setup : Setup) (frame : Option CloseFrame) : Script Unit := do
  perform (.recordPeerClose frame)
  let isOwner ← perform (.movePhase .opened .closing)
  if isOwner then
    let _ ← sendCloseOnce setup (.close (frame.map fun close => close.code.number) "")
  teardown setup

/-- Ends the connection with a Close frame of its own, if there is still time for one. -/
def fail (setup : Setup) (code : UInt16) (reason : String) : Script Unit := do
  let isOwner ← perform (.movePhase .opened .closing)
  if isOwner then
    let _ ← sendCloseOnce setup (.close (some code) reason)
  teardown setup

/-- The error for a frame that comes when the connection does not take any. -/
def refuse : Script (Except Error SendStatus) := do
  let peerClose ← perform .readPeerClose
  return .error (.connectionClosed (peerClose.map fun close => close.code.number))

def sendFrame (setup : Setup) (frame : Frame) : Script (Except Error SendStatus) := do
  let phase ← perform .readPhase
  if !phase.canSend then refuse
  else
    match frame.validate with
    | .error failure => return .error failure
    | .ok () =>
        if frame.opcode = .close then
          match frame.closeFrame with
          | .error failure => return .error failure
          | .ok close =>
              let status ← beginClose setup (close.map fun frame => frame.code.number)
                ((close.map CloseFrame.reason).getD "")
              return .ok status
        else
          let status ← transmit setup frame
          if status = .fatalError then teardown setup
          return .ok status

/-- Waits until the connection has been torn down. -/
def awaitClosed : Script Unit := do
  let _ ← perform (.awaitClosed none)

def close (setup : Setup) (code : CloseCode) (reason : String) : Script (Except Error Unit) := do
  if !code.isValid then return .error (.invalidCloseCode code.number)
  else
    let phase ← perform .readPhase
    match phase with
    | .opened =>
        let _ ← beginClose setup (some code.number) reason
        awaitClosed
        return .ok ()
    | .closing =>
        awaitClosed
        return .ok ()
    | .handshaking =>
        teardown setup
        awaitClosed
        return .ok ()
    | .closed => return .ok ()

def watchdog (setup : Setup) : Script (Option Task) := do
  let start ← perform .readClock
  let isClosed ← perform (.awaitClosed (some (start + setup.config.timeouts.close)))
  if !isClosed then teardown setup
  return none

end WebSocket.Connection
