import WebSocket.Connection.World

/-!
Runs of a send gate alone, over a stream whose behaviour is laid down. An
operation begins when the one before it has ended.
-/

namespace WebSocket

inductive GateOperation where
  | send (bytes : Bytes)
  | sendFrame (frame : Frame)
  | sendTogether (contents : List Bytes)
  | shutdown
  deriving DecidableEq, Repr

/-- What an operation answered, what it did to the stream, how long it took, and
how the stream and the gate stand after it. -/
structure GateReport where
  results : List SendStatus
  written : Bytes
  flushes : Nat
  shutdowns : Nat
  elapsed : Nat
  isShutDown : Bool
  deriving DecidableEq, Repr

namespace GateOperation

def reportSent (script : Script SendStatus) : Script Report :=
  script.bind fun status => .done (.sent (.ok status))

def scripts (config : Config) : GateOperation → List (Script Report)
  | send bytes => [reportSent (Gate.send config bytes)]
  | sendFrame frame => [reportSent (Gate.sendFrame config frame)]
  | sendTogether contents => contents.map fun bytes => reportSent (Gate.send config bytes)
  | shutdown => [(Gate.shutdown config).bind fun _ => .done (.closed (.ok ()))]

def run (world : World) (operation : GateOperation) : GateReport × World :=
  let first := world.actors.length
  let scripts := operation.scripts world.setup.config
  let begun := scripts.foldl (fun current script => current.begin script false) world
  let ended := (begun.settle World.plenty).finish World.plenty first scripts.length
  let before := world.hub
  let after := ended.hub
  let statusOf (index : Nat) : Option SendStatus :=
    match ended.reportOf (first + index) with
    | some (.sent (.ok status)) => some status
    | _ => none
  ({ results := (List.range scripts.length).filterMap statusOf
     written := after.stream.written.drop before.stream.written.length
     flushes := after.stream.flushes - before.stream.flushes
     shutdowns := after.stream.shutdowns
     elapsed := after.now - before.now
     isShutDown := !after.hasWriter }, ended)

def runAll : World → List GateOperation → List GateReport
  | _, [] => []
  | world, operation :: rest =>
      let (report, next) := operation.run world
      report :: runAll next rest

end GateOperation

end WebSocket
