import WebSocket.Scenario.Script

/-!
The run of a scenario. After every action of the server and every step, all that
can happen without time passing has happened.
-/

namespace WebSocket.Scenario

/-- A run in progress: the world, how much of the wire and of the journal has
been looked at, whether the transport has died, which actor made which call, and
a scheduler that the scenario started itself. -/
structure Progress where
  world : World
  wireSeen : Nat := 0
  journalSeen : Nat := 0
  isReset : Bool := false
  calls : List (Nat × Nat × Nat) := []
  scheduler : Option Nat := none

namespace Progress

def settle (progress : Progress) : Progress :=
  { progress with world := progress.world.settle World.plenty }

def advance (progress : Progress) (milliseconds : Nat) : Progress :=
  let target := progress.world.hub.now + milliseconds
  { progress with world := progress.world.advance World.plenty target }

def updateStream (progress : Progress) (update : Stream → Stream) : Progress :=
  let hub := progress.world.hub
  { progress with world := { progress.world with hub := { hub with stream := update hub.stream } } }

def feed (progress : Progress) (cue : Cue) : Progress :=
  progress.updateStream fun stream =>
    { stream with reading := { stream.reading with cues := stream.reading.cues ++ [cue] } }

def resetFailure : IoFailure := ⟨.connectionReset, "Connection reset by peer (os error 104)"⟩

/-- The transport dies: what was sent before can still be read, all else fails. -/
def die (progress : Progress) : Progress :=
  let dead := (progress.feed (.broken resetFailure)).updateStream fun stream =>
    { stream with
      writing := { cues := [.broken resetFailure] }, closing := { cues := [.broken resetFailure] } }
  { dead with isReset := true }

def cancel (progress : Progress) : Progress :=
  { progress with
    world := { progress.world with hub := { progress.world.hub with isCancelled := true } } }

def startCalls (progress : Progress) (step : Nat) (calls : List Call) : Progress :=
  (calls.zipIdx).foldl
    (fun current (call, place) =>
      let world := current.world
      { current with
        world := world.begin (call.script world.setup) false
        calls := current.calls ++ [(world.actors.length, step, place)] })
    progress

end Progress

def acceptFor (request : String) : String :=
  let mark := "sec-websocket-key:".toList
  let keys := (Text.lines request.toList).filterMap fun line =>
    if mark.isPrefixOf (asciiLower line) then
      some (String.ofList (Text.trim (line.drop mark.length)))
    else none
  match keys with
  | key :: _ => acceptValue key
  | [] => ""

def act (accept : String) (progress : Progress) : ServerAction → Progress
  | .send bytes => (progress.feed (.data bytes)).settle
  | .respond template behind =>
      let text := template.replace acceptMark accept
      (progress.feed (.data (Utf8.encode text ++ behind))).settle
  | .advance milliseconds => progress.advance milliseconds
  | .endStream => (progress.feed .eof).settle
  | .reset => progress.die.settle
  | .cancel => progress.cancel.settle

def isTornDown (progress : Progress) : Bool := progress.world.hub.phase == .closed

/-- The effect of one step on the run. -/
def apply (progress : Progress) (index : Nat) : ScenarioStep → Progress
  | .receive bytes thenReset =>
      if isTornDown progress || progress.isReset then progress
      else
        let fed := progress.feed (.data bytes)
        (if thenReset then fed.die else fed).settle
  | .calls calls => (progress.startCalls index calls).settle
  | .advance milliseconds => progress.advance milliseconds
  | .cancel => progress.cancel.settle
  | .endStream => (progress.feed .eof).settle
  | .reset first =>
      let started := progress.die.startCalls index first.toList
      let world := started.world
      { started with world := world.runActor World.plenty (world.actors.length - 1) }.settle
  | .startScheduler =>
      let id := progress.world.hub.schedulers.length
      let script := (Connection.startScheduler progress.world.setup).bind fun _ => .done none
      { progress with
        world := progress.world.addActor ⟨script, false⟩, scheduler := some id }.settle
  | .stopScheduler => (stop progress).settle
  | .dropScheduler => { stop progress with scheduler := none }.settle
  | .inspect => progress
where
  stop (progress : Progress) : Progress :=
    match progress.scheduler with
    | none => progress
    | some id =>
        let script := (Script.perform (.stopScheduler id)).bind fun _ => .done none
        { progress with world := progress.world.addActor ⟨script, false⟩ }

def readWire (bytes : Bytes) : List Frame × Nat :=
  let drained := Frame.drain { maxFrameSize := sizeBound } bytes
  (drained.parsed.filterMap fun parsed =>
    match parsed with
    | .frame frame _ => some frame
    | _ => none, drained.pending.length)

def look (progress : Progress) : Snapshot × Progress :=
  let hub := progress.world.hub
  let (frames, left) := readWire (hub.stream.written.drop progress.wireSeen)
  let snapshot : Snapshot :=
    { phase := hub.phase, frames, partialBytes := left
      hasEnded := 0 < hub.stream.shutdowns || progress.isReset
      isCancelled := hub.isCancelled, peerClose := hub.peerClose }
  (snapshot, { progress with wireSeen := hub.stream.written.length - left })

def newEntries (progress : Progress) : List Entry × Progress :=
  let journal := progress.world.hub.journal
  (journal.drop progress.journalSeen, { progress with journalSeen := journal.length })

def isEvent : Entry → Bool
  | .told .. => true
  | .reported _ .hookStarted _ => true
  | .reported _ .hookEnded _ => true
  | .reported .. => false

def results (calls : List (Nat × Nat × Nat)) (entries : List Entry) : List (Nat × Nat × Report) :=
  calls.filterMap fun (actor, step, place) =>
    entries.findSome? fun entry =>
      match entry with
      | .reported id (.sent result) _ => if id = actor then some (step, place, .sent result) else none
      | .reported id (.closed result) _ =>
          if id = actor then some (step, place, .closed result) else none
      | _ => none

def runSteps : Progress → (index : Nat) → List ScenarioStep → List StepReport
  | _, _, [] => []
  | progress, index, step :: rest =>
      let (snapshot, looked) := look (apply progress index step)
      let (entries, read) := newEntries looked
      let report : StepReport :=
        { snapshot
          events := entries.filter isEvent
          results := results read.calls entries
          scheduler := read.scheduler.map fun id =>
            (read.world.hub.isStopped id, (read.world.hub.scheduler id).skipped)
          isInspected := step == .inspect }
      report :: runSteps read (index + 1) rest

def runConnected (scenario : Scenario) (journey : Journey) (request : Request)
    (edits : List (Except Error Unit)) : ScenarioReport :=
  let timeout := Connection.effectiveTimeout scenario.setup.config scenario.timeout
  let script := (Connection.connect scenario.setup timeout request).bind fun result =>
    .done (Report.connected result)
  let hub : Hub := { now := journey.elapsed, stream := { reading := { idles := true } } }
  let world : World := { setup := scenario.setup, hub }
  let sent := ({ world := world.begin script true } : Progress).settle
  let accept := acceptFor ((Utf8.decode sent.world.hub.stream.written).getD "")
  let served := scenario.server.foldl (act accept) sent
  let connected := { served with world := served.world.finish World.plenty 0 1 }
  let (entries, read) :=
    newEntries { connected with wireSeen := sent.world.hub.stream.written.length }
  let connect : Except Error Outcome :=
    match read.world.reportOf 0 with
    | some (.connected result) => result
    | _ => .error .cancelled
  let base : ScenarioReport :=
    { journey, edits, connectEvents := entries.filter isEvent, connect, request := some request }
  match connect with
  | .error _ => base
  | .ok _ =>
      let (after, looked) := look read
      { base with after := some after, steps := runSteps looked 0 scenario.steps }

def run (scenario : Scenario) : ScenarioReport :=
  if scenario.isCancelledFirst then { journey := {}, connect := .error .cancelled }
  else
    let config := scenario.setup.config
    let timeout := Connection.effectiveTimeout config scenario.timeout
    match establish scenario.network config scenario.url timeout scenario.retries with
    | (.error failure, journey) => { journey, connect := .error failure }
    | (.ok _, journey) =>
        match Request.new scenario.url config scenario.nonce with
        | .error failure => { journey, connect := .error failure }
        | .ok request =>
            let (results, edited) := request.editAll scenario.edits
            runConnected scenario journey edited results

end WebSocket.Scenario
