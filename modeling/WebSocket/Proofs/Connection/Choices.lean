import WebSocket.Proofs.Connection.Runs

/-!
Runs by choices. A run is determined by what it leaves open: who acts next and to which effect, what
is begun, and what happens from outside. Every run is the run by some choices, so that two runs can
be compared choice by choice.
-/

namespace WebSocket

open Script Connection

/-- What a run leaves open at a step. A move is one of those that an actor can make. -/
inductive Choice where
  | move (index pick : Nat)
  | connect (timeout : Nat) (request : Request)
  | call (call : Call)
  | errand (errand : Errand)
  | task (task : Task)
  | tick
  | cancel
  | feed (cue : Cue)

namespace World

def choose (world : World) : Choice → Option World
  | .move index pick => (world.moves index)[pick]?
  | .connect timeout request =>
      some (world.begin
        ((connect world.setup timeout request).bind fun result => done (.connected result)) true)
  | .call call => some (world.begin (call.script world.setup) false)
  | .errand errand =>
      some (world.addActor ⟨(errand.script world.setup).bind fun _ => done none, false⟩)
  | .task task => some (world.addActor ⟨task.script world.setup, false⟩)
  | .tick => some { world with hub := { world.hub with now := world.hub.now + 1 } }
  | .cancel => some { world with hub := { world.hub with isCancelled := true } }
  | .feed cue =>
      some { world with
        hub := { world.hub with
          stream := { world.hub.stream with
            reading := { world.hub.stream.reading with
              cues := world.hub.stream.reading.cues ++ [cue] } } } }

def noted (world next : World) : Choice → List (Nat × Entry)
  | .move index _ => (next.hub.journal.drop world.hub.journal.length).map (index, ·)
  | _ => []

/-- The run by the given choices: what its actors add to the journal, and the world that it comes
to. There is none if a choice is not possible. -/
def pursue (world : World) : List Choice → Option (List (Nat × Entry) × World)
  | [] => some ([], world)
  | choice :: rest =>
      match world.choose choice with
      | none => none
      | some next =>
          (next.pursue rest).map fun (entries, last) => (world.noted next choice ++ entries, last)

theorem pursue_append {world middle next : World} {choices : List Choice} {choice : Choice}
    {entries : List (Nat × Entry)} (run : world.pursue choices = some (entries, middle))
    (chosen : middle.choose choice = some next) :
    ∃ more, world.pursue (choices ++ [choice]) = some (more, next) := by
  induction choices generalizing world entries with
  | nil =>
      cases run
      rw [List.nil_append, pursue, chosen]
      exact ⟨_, rfl⟩
  | cons first rest induction =>
      unfold pursue at run
      rw [List.cons_append, pursue]
      split at run
      · cases run
      · rename_i behind _
        obtain ⟨⟨entries, last⟩, goesOn, same⟩ := Option.map_eq_some_iff.mp run
        cases same
        obtain ⟨more, through⟩ := induction goesOn
        dsimp only
        rw [through]
        exact ⟨_, rfl⟩

theorem mem_moves_of_effect {world : World} {index : Nat} {actor : Actor} {action : Action}
    {next : action.Reply → Script (Option Task)} {effect : Effect action.Reply}
    (here : world.actors[index]? = some actor) (doing : actor.script = act action next)
    (member : effect ∈ action.effects world.setup index world.hub) :
    world.follow index action next effect ∈ world.moves index := by
  unfold moves
  rw [here]
  dsimp only
  rw [doing]
  dsimp only
  split
  · rename_i empty
    rw [empty] at member
    cases member
  · exact List.mem_map_of_mem member

/-- Every run is the run by some choices. -/
theorem pursue_of_run {start world : World} {history : History} (run : start.Run history world) :
    ∃ choices entries, start.pursue choices = some (entries, world) := by
  have further {middle next : World} (choice : Choice)
      (before : ∃ choices entries, start.pursue choices = some (entries, middle))
      (chosen : middle.choose choice = some next) :
      ∃ choices entries, start.pursue choices = some (entries, next) := by
    obtain ⟨choices, entries, came⟩ := before
    exact ⟨_, pursue_append came chosen⟩
  induction run with
  | refl => exact ⟨[], [], rfl⟩
  | act _ here doing member induction =>
      obtain ⟨pick, found⟩ := List.mem_iff_getElem?.mp (mem_moves_of_effect here doing member)
      exact further (.move _ pick) induction found
  | @goOn _ world index actor task _ here ended induction =>
      refine further (.move index 0) induction ?_
      have moves : world.moves index = [world.putActor index (task.script world.setup)] := by
        unfold World.moves
        rw [here]
        dsimp only
        rw [ended]
      exact congrArg (·[0]?) moves
  | call _ call induction => exact further (.call call) induction rfl
  | task _ task induction => exact further (.task task) induction rfl
  | tick _ induction => exact further (.tick) induction rfl
  | cancel _ induction => exact further (.cancel) induction rfl
  | errand _ errand induction => exact further (.errand errand) induction rfl
  | feed _ cue induction => exact further (.feed cue) induction rfl

end World

end WebSocket
