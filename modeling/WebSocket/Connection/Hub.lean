import WebSocket.Connection.Script

/-!
What the actors of a connection share, and what each action does to it. An
action has a list of effects: none while it has to wait, and several where the
order of simultaneous happenings is open.
-/

namespace WebSocket

/-- A lock that is passed on in the order in which actors queued for it. -/
structure Lock where
  holder : Option Nat := none
  line : List Nat := []
  deriving DecidableEq, Repr

namespace Lock

def join (lock : Lock) (actor : Nat) : Lock := { lock with line := lock.line ++ [actor] }

def canEnter (lock : Lock) (actor : Nat) : Bool :=
  lock.holder.isNone && lock.line.head? == some actor

def enter (lock : Lock) (actor : Nat) : Lock := ⟨some actor, lock.line.drop 1⟩

def leave (lock : Lock) : Lock := { lock with holder := none }

def giveUp (lock : Lock) (actor : Nat) : Lock := { lock with line := lock.line.filter (· != actor) }

end Lock

/-- The timers of one scheduler share a guard, so that their bodies never overlap. -/
structure Scheduler where
  isStopped : Bool := false
  skipped : Nat := 0
  guard : Lock := {}
  deriving DecidableEq, Repr

def Scheduler.fresh : Scheduler := {}

/-- What was told to an observer, in which phase; or what an actor reported. -/
inductive Entry where
  | told (observer : Nat) (event : Event) (phase : Phase)
  | reported (id : Nat) (report : Report) (phase : Phase)

structure Hub where
  now : Nat := 0
  phase : Phase := .handshaking
  closeClaimed : Bool := false
  peerClose : Option CloseFrame := none
  isCancelled : Bool := false
  closedAnnounced : Bool := false
  hasWriter : Bool := true
  gate : Lock := {}
  stream : Stream := {}
  attached : Option Nat := none
  schedulers : List Scheduler := []
  keysDrawn : Nat := 0
  journal : List Entry := []
  failedCallbacks : List (Nat × Event) := []

/-- A maintenance hook: it may announce itself, send a text, and take some time,
which depends on when it begins to. -/
structure Hook where
  isAnnounced : Bool := false
  sends : Option String := none
  lasts : Nat → Nat := fun _ => 0

/-- What a connection is made with: its settings, its observers, the source of
its mask keys, and what its maintenance hook does. -/
structure Setup where
  config : Config := {}
  observers : Observers := []
  hook : Hook := {}
  maskKey : Nat → MaskKey := fun _ => ⟨0, 0, 0, 0⟩

/-- One way for an action to go on. Without a reply the action itself has got
further and is tried again. -/
structure Effect (Reply : Type) where
  hub : Hub
  reply : Option Reply
  spawned : List Task := []

namespace Hub

variable {Reply : Type}

def answer (hub : Hub) (reply : Reply) : List (Effect Reply) := [⟨hub, some reply, []⟩]

def scheduler (hub : Hub) (id : Nat) : Scheduler := (hub.schedulers[id]?).getD { isStopped := true }

def updateScheduler (hub : Hub) (id : Nat) (update : Scheduler → Scheduler) : Hub :=
  { hub with schedulers := hub.schedulers.modify id update }

/-- A scheduler ends when it is stopped or when the connection's token is cancelled. -/
def isStopped (hub : Hub) (id : Nat) : Bool := hub.isCancelled || (hub.scheduler id).isStopped

def log (hub : Hub) (entry : Entry) : Hub := { hub with journal := hub.journal ++ [entry] }

def heardBy (hub : Hub) (index : Nat) : List Event :=
  hub.journal.filterMap fun entry =>
    match entry with
    | .told observer event _ => if observer = index then some event else none
    | .reported .. => none

theorem mem_heard_by {hub : Hub} {index : Nat} {event : Event} {phase : Phase}
    (told : .told index event phase ∈ hub.journal) : event ∈ hub.heardBy index :=
  List.mem_filterMap.mpr ⟨_, told, if_pos rfl⟩

/-- One observer's callback: it may cancel the token before it is recorded. -/
def tell (hub : Hub) (observers : Observers) (index : Nat) (event : Event) : Hub :=
  match observers[index]? with
  | none => hub
  | some observer =>
      let cancelled := hub.isCancelled || (event.hasConnection && observer.cancels event)
      let told := { hub with isCancelled := cancelled }.log (.told index event hub.phase)
      if observer.fails ⟨event, hub.heardBy index⟩ then
        { told with failedCallbacks := told.failedCallbacks ++ [(index, event)] }
      else told

/-- A write, flush or shutdown: what the side plays decides, and the deadline
counts only while the side answers nothing. -/
def transfer (hub : Hub) (side : Side) (deadline : Nat) (store : Stream → Side → Stream)
    (play : Stream → Option Cue → Transfer × Stream) : List (Effect Transfer) :=
  match side.turn hub.now with
  | .blocked => if deadline ≤ hub.now then hub.answer .timedOut else []
  | .waiting side => [⟨{ hub with stream := store hub.stream side }, none, []⟩]
  | .plays cue side =>
      let (result, stream) := play (store hub.stream side) cue
      { hub with stream }.answer result

def receive (hub : Hub) (room deadline : Nat) : List (Effect Reading) :=
  match hub.stream.reading.turn hub.now with
  | .blocked => if deadline ≤ hub.now then hub.answer .timedOut else []
  | .waiting side => [⟨{ hub with stream := { hub.stream with reading := side } }, none, []⟩]
  | .plays cue side =>
      let (result, stream) := { hub.stream with reading := side }.read cue room
      { hub with stream }.answer result

end Hub

/-- What an action of an actor can do now. -/
def Action.effects (setup : Setup) (actor : Nat) (action : Action) (hub : Hub) :
    List (Effect action.Reply) :=
  match action with
  | readPhase => hub.answer hub.phase
  | movePhase source target =>
      if hub.phase = source then { hub with phase := target }.answer true else hub.answer false
  | closePhase => { hub with phase := .closed }.answer hub.phase
  | claimClose => { hub with closeClaimed := true }.answer (!hub.closeClaimed)
  | readPeerClose => hub.answer hub.peerClose
  | recordPeerClose frame => { hub with peerClose := frame }.answer ()
  | readToken => hub.answer hub.isCancelled
  | cancelToken => { hub with isCancelled := true }.answer ()
  | announceClosed => { hub with closedAnnounced := true }.answer ()
  | awaitClosed deadline =>
      (if hub.closedAnnounced then hub.answer true else []) ++
        if deadline.any (· ≤ hub.now) then hub.answer false else []
  | tell observer event => (hub.tell setup.observers observer event).answer ()
  | queueForGate _ => { hub with gate := hub.gate.join actor }.answer ()
  | enterGate =>
      if hub.gate.canEnter actor then
        { hub with gate := hub.gate.enter actor }.answer hub.hasWriter
      else []
  | leaveGate => { hub with gate := hub.gate.leave }.answer ()
  | takeWriter => { hub with hasWriter := false }.answer ()
  | write bytes deadline =>
      hub.transfer hub.stream.writing deadline (fun stream side => { stream with writing := side })
        fun stream cue => stream.write cue bytes
  | flush deadline =>
      hub.transfer hub.stream.flushing deadline (fun stream side => { stream with flushing := side })
        Stream.flush
  | shutdown deadline =>
      hub.transfer hub.stream.closing deadline (fun stream side => { stream with closing := side })
        Stream.shutdown
  | read room deadline isCancellable =>
      (if isCancellable && hub.isCancelled then hub.answer .cancelled else []) ++
        hub.receive room deadline
  | readClock => hub.answer hub.now
  | sleep till deadline =>
      if till ≤ hub.now then hub.answer true
      else if deadline.any (· ≤ hub.now) then hub.answer false
      else []
  | drawKey => { hub with keysDrawn := hub.keysDrawn + 1 }.answer (setup.maskKey hub.keysDrawn)
  | spawn task => [⟨hub, some (), [task]⟩]
  | openScheduler =>
      { hub with schedulers := hub.schedulers ++ [Scheduler.fresh] }.answer hub.schedulers.length
  | attachScheduler scheduler =>
      let replaced :=
        match hub.attached with
        | some old => hub.updateScheduler old fun state => { state with isStopped := true }
        | none => hub
      { replaced with attached := some scheduler }.answer ()
  | takeScheduler => { hub with attached := none }.answer hub.attached
  | stopScheduler scheduler =>
      (hub.updateScheduler scheduler fun state => { state with isStopped := true }).answer ()
  | awaitTick scheduler due =>
      (if hub.isStopped scheduler then hub.answer false else []) ++
        if due ≤ hub.now then hub.answer true else []
  | queueForGuard scheduler =>
      (hub.updateScheduler scheduler fun state =>
        { state with guard := state.guard.join actor }).answer ()
  | enterGuard scheduler deadline =>
      if (hub.scheduler scheduler).guard.canEnter actor then
        (hub.updateScheduler scheduler fun state =>
          { state with guard := state.guard.enter actor }).answer true
      else if deadline ≤ hub.now then
        (hub.updateScheduler scheduler fun state =>
          { state with guard := state.guard.giveUp actor }).answer false
      else []
  | leaveGuard scheduler =>
      (hub.updateScheduler scheduler fun state => { state with guard := state.guard.leave }).answer ()
  | countSkip scheduler =>
      (hub.updateScheduler scheduler fun state =>
        { state with skipped := state.skipped + 1 }).answer ()
  | report id content => (hub.log (.reported id content hub.phase)).answer ()

def Action.wakeTimes (action : Action) (hub : Hub) : List Nat :=
  match action with
  | awaitClosed deadline => deadline.toList
  | write _ deadline => [deadline, hub.stream.writing.readyAt]
  | flush deadline => [deadline, hub.stream.flushing.readyAt]
  | shutdown deadline => [deadline, hub.stream.closing.readyAt]
  | read _ deadline _ => [deadline, hub.stream.reading.readyAt]
  | sleep till deadline => till :: deadline.toList
  | awaitTick _ due => [due]
  | enterGuard _ deadline => [deadline]
  | _ => []

end WebSocket
