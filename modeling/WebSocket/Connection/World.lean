import WebSocket.Connection.Connect

/-!
A connection as a system of actors. In each step one actor performs one action,
or time passes. `moves` lists what an actor can do, in every way that it may go;
`settle` is the one order in which actors take turns.
-/

namespace WebSocket

/-- An actor: the script it is in the middle of, and whether it gives up once
the token is cancelled while it has to wait. -/
structure Actor where
  script : Script (Option Task)
  isAbortable : Bool := false

namespace Actor

def idle : Actor := ⟨.done none, false⟩

def action? (actor : Actor) : Option Action :=
  match actor.script with
  | .done _ => none
  | .act action _ => some action

end Actor

def Task.script (setup : Setup) : Task → Script (Option Task)
  | receive pending assembler => Connection.receive setup pending assembler
  | watchdog => Connection.watchdog setup
  | keepalive scheduler due count => Connection.keepalive setup scheduler due count
  | maintenance scheduler due => Connection.maintenance setup scheduler due

/-- The actors by number, and what they share. -/
structure World where
  setup : Setup
  hub : Hub := {}
  actors : List Actor := []

namespace World

open Script

def putActor (world : World) (index : Nat) (script : Script (Option Task)) : World :=
  { world with actors := world.actors.modify index fun actor => { actor with script } }

def addActor (world : World) (actor : Actor) : World :=
  { world with actors := world.actors ++ [actor] }

def follow (world : World) (index : Nat) (action : Action)
    (next : action.Reply → Script (Option Task)) (effect : Effect action.Reply) : World :=
  let moved := { world with hub := effect.hub }
  let answered :=
    match effect.reply with
    | some reply => moved.putActor index (next reply)
    | none => moved
  effect.spawned.foldl (fun grown task => grown.addActor ⟨task.script world.setup, false⟩) answered

/-- An actor that gives up reports it under its number. -/
def abort (world : World) (index : Nat) : World :=
  let reported := world.hub.log (.reported index (.connected (.error .cancelled)) world.hub.phase)
  { world with hub := reported }.putActor index (done none)

/-- Everything that one actor can do next. A script that ends in a task goes on
with it. -/
def moves (world : World) (index : Nat) : List World :=
  match world.actors[index]? with
  | none => []
  | some actor =>
      match actor.script with
      | .done none => []
      | .done (some task) => [world.putActor index (task.script world.setup)]
      | .act action next =>
          match action.effects world.setup index world.hub with
          | [] => if actor.isAbortable && world.hub.isCancelled then [world.abort index] else []
          | effects => effects.map (world.follow index action next)

def isQuiet (world : World) : Prop := ∀ index, world.moves index = []

def begin (world : World) (script : Script Report) (isAbortable : Bool) : World :=
  let id := world.actors.length
  world.addActor
    ⟨script.bind fun result => act (.report id result) fun _ => done none, isAbortable⟩

/-- What an actor has reported last. -/
def reportOf (world : World) (id : Nat) : Option Report :=
  world.hub.journal.reverse.findSome? fun entry =>
    match entry with
    | .reported reporter result _ => if reporter = id then some result else none
    | .told .. => none

/-- Runs one actor until it has to wait. Where the order of happenings is open,
the first possibility is taken. -/
def runActor : (fuel : Nat) → World → (index : Nat) → World
  | 0, world, _ => world
  | fuel + 1, world, index =>
      match world.moves index with
      | [] => world
      | next :: _ => runActor fuel next index

/-- Runs the actors in turn, each until it has to wait; `fuel` bounds the rounds
and the steps of each actor in a round. -/
def settle : (fuel : Nat) → World → World
  | 0, world => world
  | fuel + 1, world =>
      let ready := (List.range world.actors.length).filter fun index => !(world.moves index).isEmpty
      if ready.isEmpty then world
      else settle fuel (ready.foldl (fun current index => runActor fuel current index) world)

def nextWake (world : World) : Option Nat :=
  let times := world.actors.flatMap fun actor =>
    match actor.action? with
    | some action => action.wakeTimes world.hub
    | none => []
  (times.filter (world.hub.now < ·)).min?

def atTime (world : World) (time : Nat) : World := { world with hub := { world.hub with now := time } }

/-- Lets time pass up to `target`, stopping wherever somebody can act. -/
def advance : (fuel : Nat) → World → (target : Nat) → World
  | 0, world, _ => world
  | fuel + 1, world, target =>
      match world.nextWake with
      | some time =>
          if time ≤ target then advance fuel (settle fuel (world.atTime time)) target
          else world.atTime target
      | none => world.atTime target

def plenty : Nat := 1000000000

def isBusy (world : World) (first count : Nat) : Bool :=
  ((world.actors.drop first).take count).any fun actor => actor.action?.isSome

/-- Lets time pass until the `count` actors from `first` on are done, or nothing
will ever happen again. -/
def finish : (fuel : Nat) → World → (first count : Nat) → World
  | 0, world, _, _ => world
  | fuel + 1, world, first, count =>
      match world.isBusy first count, world.nextWake with
      | true, some time => finish fuel (settle fuel (world.atTime time)) first count
      | _, _ => world

end World

end WebSocket
