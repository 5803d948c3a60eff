import WebSocket.Proofs.Connection.History

/-!
All runs of a connection with any number of calls and tasks. At every point of a
run each actor keeps to the duty that its own part of the history gives it, the
gate agrees with the history, and what has once been moved or claimed stays so.
-/

namespace WebSocket

/-- The action leaves the phase, the claim and the gate alone. -/
def Action.isPlain : Action → Bool
  | readPhase | movePhase .. | closePhase | claimClose | queueForGate _ | enterGate | leaveGate => false
  | _ => true

structure Hub.Agrees (hub other : Hub) : Prop where
  phase : other.phase = hub.phase
  closeClaimed : other.closeClaimed = hub.closeClaimed
  gate : other.gate = hub.gate

theorem Hub.Agrees.refl (hub : Hub) : hub.Agrees hub := ⟨rfl, rfl, rfl⟩

theorem Hub.agrees_tell (hub : Hub) (observers : Observers) (index : Nat) (event : Event) :
    hub.Agrees (hub.tell observers index event) := by
  unfold Hub.tell
  split
  · exact .refl hub
  · dsimp only
    split <;> exact ⟨rfl, rfl, rfl⟩

theorem Hub.agrees_transfer {hub : Hub} {side : Side} {deadline : Nat}
    {store : Stream → Side → Stream} {play : Stream → Option Cue → Transfer × Stream}
    {effect : Effect Transfer} (member : effect ∈ hub.transfer side deadline store play) :
    hub.Agrees effect.hub := by
  unfold Hub.transfer at member
  split at member
  · split at member
    · obtain rfl := List.mem_singleton.mp member
      exact .refl hub
    · cases member
  · obtain rfl := List.mem_singleton.mp member
    exact ⟨rfl, rfl, rfl⟩
  · obtain rfl := List.mem_singleton.mp member
    exact ⟨rfl, rfl, rfl⟩

theorem Hub.agrees_receive {hub : Hub} {room deadline : Nat} {effect : Effect Reading}
    (member : effect ∈ hub.receive room deadline) : hub.Agrees effect.hub := by
  unfold Hub.receive at member
  split at member
  · split at member
    · obtain rfl := List.mem_singleton.mp member
      exact .refl hub
    · cases member
  · obtain rfl := List.mem_singleton.mp member
    exact ⟨rfl, rfl, rfl⟩
  · obtain rfl := List.mem_singleton.mp member
    exact ⟨rfl, rfl, rfl⟩

theorem Action.agrees_of_plain {setup : Setup} {actor : Nat} {action : Action} {hub : Hub}
    {effect : Effect action.Reply} (plain : action.isPlain = true)
    (member : effect ∈ action.effects setup actor hub) : hub.Agrees effect.hub := by
  cases action with
  | readPhase | movePhase | closePhase | claimClose | queueForGate | enterGate | leaveGate =>
      cases plain
  | tell observer event =>
      obtain rfl := List.mem_singleton.mp member
      exact hub.agrees_tell setup.observers observer event
  | write bytes deadline =>
      simp only [Action.effects] at member
      exact Hub.agrees_transfer member
  | flush deadline =>
      simp only [Action.effects] at member
      exact Hub.agrees_transfer member
  | shutdown deadline =>
      simp only [Action.effects] at member
      exact Hub.agrees_transfer member
  | read room deadline isCancellable =>
      simp only [Action.effects] at member
      rcases List.mem_append.mp member with cancelled | member
      · split at cancelled
        · obtain rfl := List.mem_singleton.mp cancelled
          exact .refl hub
        · cases cancelled
      · exact Hub.agrees_receive member
  | _ =>
      simp only [Action.effects, Hub.answer, Hub.updateScheduler, Hub.log] at member
      grind [Hub.Agrees]

namespace History

theorem duty_of_unknown {history : History} {actor : Nat}
    (unknown : ∀ happening ∈ history, happening.actor ≠ actor) : history.duty actor = .free := by
  unfold duty
  generalize Duty.free = duty
  induction history generalizing duty with
  | nil => rfl
  | cons happening rest induction =>
      have other : happening.advance actor duty = duty := by
        rw [Happening.advance, if_neg (unknown happening List.mem_cons_self)]
      rw [List.foldl_cons, other]
      exact induction (fun later member => unknown later (List.mem_cons_of_mem _ member)) duty

end History

/-- What has once been moved or claimed stays so, and the gate is kept. -/
structure Agreed (history : History) (hub : Hub) : Prop where
  unmoved : hub.phase = .opened → ∀ happening ∈ history, ¬happening.IsMove
  unclaimed : hub.closeClaimed = false → ∀ happening ∈ history, ¬happening.IsClaim
  gate : GateKept history hub.gate

namespace Agreed

variable {history : History} {hub next : Hub}

theorem extend (agreed : Agreed history hub) (happening : Happening)
    (phase : next.phase = .opened → hub.phase = .opened ∧ ¬happening.IsMove)
    (claim : next.closeClaimed = false → hub.closeClaimed = false ∧ ¬happening.IsClaim)
    (gate : GateKept (history ++ [happening]) next.gate) : Agreed (history ++ [happening]) next := by
  refine ⟨fun opened other member => ?_, fun unclaimed other member => ?_, gate⟩
  · obtain ⟨before, still⟩ := phase opened
    rcases List.mem_append.mp member with member | member
    · exact agreed.unmoved before other member
    · obtain rfl := List.mem_singleton.mp member
      exact still
  · obtain ⟨before, still⟩ := claim unclaimed
    rcases List.mem_append.mp member with member | member
    · exact agreed.unclaimed before other member
    · obtain rfl := List.mem_singleton.mp member
      exact still

theorem pass (agreed : Agreed history hub) {happening : Happening} (notMove : ¬happening.IsMove)
    (notClaim : ¬happening.IsClaim) (phase : next.phase = .opened → hub.phase = .opened)
    (claim : next.closeClaimed = false → hub.closeClaimed = false)
    (gate : GateKept (history ++ [happening]) next.gate) : Agreed (history ++ [happening]) next :=
  agreed.extend happening (fun opened => ⟨phase opened, notMove⟩)
    (fun unclaimed => ⟨claim unclaimed, notClaim⟩) gate

theorem of_plain (agreed : Agreed history hub) {index : Nat} {action : Action}
    (plain : action.isPlain = true) (reply : Option action.Reply) (agrees : hub.Agrees next) :
    Agreed (history ++ [⟨index, action, reply⟩]) next := by
  have after : ∀ duty : Duty, ∀ reply, duty.after action reply = duty := by
    intro duty reply
    cases action <;> first | rfl | cases plain
  have advance : ∀ duty, Happening.advance ⟨index, action, reply⟩ index duty = duty := by
    intro duty
    cases reply with
    | none => exact if_pos rfl
    | some reply => exact (if_pos rfl).trans (after duty reply)
  have notMove : ∀ source target, action ≠ .movePhase source target := by
    rintro source target rfl
    cases plain
  have notClaim : action ≠ .claimClose := by
    rintro rfl
    cases plain
  apply agreed.pass (Happening.not_move notMove) (Happening.not_claim notClaim)
  · intro opened
    exact agrees.phase ▸ opened
  · intro unclaimed
    exact agrees.closeClaimed ▸ unclaimed
  · rw [agrees.gate]
    apply agreed.gate.same
    · intro actor
      cases action <;> first | exact Bool.and_false _ | cases plain
    · rw [advance]
    · rw [advance]

theorem step (agreed : Agreed history hub) {setup : Setup} {index : Nat} {action : Action}
    {effect : Effect action.Reply} (permitted : (history.duty index).permits action)
    (member : effect ∈ action.effects setup index hub) :
    Agreed (history ++ [⟨index, action, effect.reply⟩]) effect.hub := by
  cases plain : action.isPlain with
  | true => exact agreed.of_plain plain _ (Action.agrees_of_plain plain member)
  | false =>
      cases action with
      | readPhase =>
          obtain rfl := List.mem_singleton.mp member
          refine agreed.pass (Happening.not_move nofun) (Happening.not_claim nofun) id id ?_
          refine agreed.gate.away nofun (Duty.not_at_gate_of_idle permitted) ?_
          cases hub.phase <;> exact ⟨rfl, rfl⟩
      | movePhase source target =>
          obtain ⟨idle, rfl, rfl⟩ := permitted
          have away := Duty.not_at_gate_of_idle idle
          simp only [Action.effects] at member
          split at member
          · obtain rfl := List.mem_singleton.mp member
            refine agreed.extend _ nofun (fun unclaimed => ⟨unclaimed, Happening.not_claim nofun⟩) ?_
            exact agreed.gate.away nofun away ⟨rfl, rfl⟩
          · rename_i elsewhere
            obtain rfl := List.mem_singleton.mp member
            apply agreed.extend
            · intro opened
              exact absurd opened elsewhere
            · intro unclaimed
              exact ⟨unclaimed, Happening.not_claim nofun⟩
            · exact agreed.gate.away nofun away away
      | closePhase =>
          obtain rfl := List.mem_singleton.mp member
          refine agreed.pass (Happening.not_move nofun) (Happening.not_claim nofun) nofun id ?_
          exact agreed.gate.same _ (fun _ => Bool.and_false _) (congrArg Duty.isQueued (if_pos rfl))
            (congrArg Duty.isInside (if_pos rfl))
      | claimClose =>
          obtain rfl := List.mem_singleton.mp member
          have owner : history.duty index = .owner := permitted
          have away : (history.duty index).isQueued = false ∧ (history.duty index).isInside = false := by
            rw [owner]
            exact ⟨rfl, rfl⟩
          refine agreed.extend _ (fun opened => ⟨opened, Happening.not_move nofun⟩) nofun ?_
          refine agreed.gate.away nofun away ?_
          cases hub.closeClaimed <;> exact ⟨rfl, rfl⟩
      | queueForGate content =>
          obtain rfl := List.mem_singleton.mp member
          refine agreed.pass (Happening.not_move nofun) (Happening.not_claim nofun) id id ?_
          exact agreed.gate.join content (Duty.not_at_gate_of_may_queue permitted)
      | enterGate =>
          simp only [Action.effects] at member
          split at member
          · rename_i turn
            obtain rfl := List.mem_singleton.mp member
            refine agreed.pass (Happening.not_move nofun) (Happening.not_claim nofun) id id ?_
            exact agreed.gate.enter hub.hasWriter turn
          · cases member
      | leaveGate =>
          obtain rfl := List.mem_singleton.mp member
          obtain ⟨content, inside⟩ := permitted
          refine agreed.pass (Happening.not_move nofun) (Happening.not_claim nofun) id id ?_
          exact agreed.gate.leave (congrArg Duty.isInside inside)
      | _ => cases plain

end Agreed

/-- What else is begun on a connection: what belongs to an open one, and the
schedulers that a user starts and stops. -/
inductive Errand where
  | start (leftover : Bytes)
  | schedule
  | stop (scheduler : Nat)

def Errand.script (setup : Setup) : Errand → Script Unit
  | start leftover => Connection.start setup leftover
  | schedule => (Connection.startScheduler setup).bind fun _ => .done ()
  | stop scheduler => Script.perform (.stopScheduler scheduler)

theorem Errand.keeps (setup : Setup) (errand : Errand) {duty : Duty} (idle : duty.IsIdle) :
    (errand.script setup).Keeps (fun _ after => after.IsIdle) duty := by
  cases errand with
  | start leftover => exact Connection.keeps_start setup leftover idle
  | schedule => exact Script.keeps_bind (Connection.keeps_start_scheduler setup idle) fun _ _ idle => idle
  | stop scheduler => exact ⟨trivial, fun _ => idle⟩

namespace World

open Script

/-- All runs from a world on, and what happens in them. Any number of calls,
tasks and errands may begin at any time, time may pass, the token may be
cancelled, and the stream may bring more. -/
inductive Run (start : World) : History → World → Prop where
  | refl : Run start [] start
  | act {history : History} {world : World} {index : Nat} {actor : Actor} {action : Action}
      {next : action.Reply → Script (Option Task)} {effect : Effect action.Reply}
      (before : Run start history world) (here : world.actors[index]? = some actor)
      (doing : actor.script = .act action next)
      (member : effect ∈ action.effects world.setup index world.hub) :
      Run start (history ++ [⟨index, action, effect.reply⟩]) (world.follow index action next effect)
  | goOn {history : History} {world : World} {index : Nat} {actor : Actor} {task : Task}
      (before : Run start history world) (here : world.actors[index]? = some actor)
      (ended : actor.script = .done (some task)) :
      Run start history (world.putActor index (task.script world.setup))
  | call {history : History} {world : World} (before : Run start history world) (call : Call) :
      Run start history (world.begin (call.script world.setup) false)
  | task {history : History} {world : World} (before : Run start history world) (task : Task) :
      Run start history (world.addActor ⟨task.script world.setup, false⟩)
  | tick {history : History} {world : World} (before : Run start history world) :
      Run start history { world with hub := { world.hub with now := world.hub.now + 1 } }
  | cancel {history : History} {world : World} (before : Run start history world) :
      Run start history { world with hub := { world.hub with isCancelled := true } }
  | errand {history : History} {world : World} (before : Run start history world) (errand : Errand) :
      Run start history
        (world.addActor ⟨(errand.script world.setup).bind fun _ => .done none, false⟩)
  | feed {history : History} {world : World} (before : Run start history world) (cue : Cue) :
      Run start history
        { world with
          hub := { world.hub with
            stream := { world.hub.stream with
              reading := { world.hub.stream.reading with
                cues := world.hub.stream.reading.cues ++ [cue] } } } }

def playOne (played : History × World) (index : Nat) : History × World :=
  let (history, world) := played
  match world.actors[index]? with
  | none => played
  | some actor =>
      match actor.script with
      | .done none => played
      | .done (some task) => (history, world.putActor index (task.script world.setup))
      | .act action next =>
          match action.effects world.setup index world.hub with
          | [] => played
          | effect :: _ =>
              (history ++ [⟨index, action, effect.reply⟩], world.follow index action next effect)

def play (order : List Nat) (played : History × World) : History × World := order.foldl playOne played

theorem run_of_play_one {start : World} {played : History × World} (index : Nat)
    (run : start.Run played.1 played.2) :
    start.Run (playOne played index).1 (playOne played index).2 := by
  obtain ⟨history, world⟩ := played
  unfold playOne
  dsimp only
  split
  · exact run
  · rename_i actor here
    split
    · exact run
    · rename_i task ended
      exact .goOn run here ended
    · rename_i action next doing
      split
      · exact run
      · rename_i effect rest effects
        exact .act run here doing (effects ▸ List.mem_cons_self)

theorem run_of_play {start : World} (order : List Nat) {played : History × World}
    (run : start.Run played.1 played.2) :
    start.Run (play order played).1 (play order played).2 := by
  induction order generalizing played with
  | nil => exact run
  | cons index rest induction => exact induction (run_of_play_one index run)

theorem follow_eq (world : World) (index : Nat) (action : Action)
    (next : action.Reply → Script (Option Task)) (effect : Effect action.Reply) :
    world.follow index action next effect =
      { world with
        hub := effect.hub
        actors := (effect.reply.elim world.actors fun reply =>
          world.actors.modify index fun actor => { actor with script := next reply }) ++
            effect.spawned.map fun task => ⟨task.script world.setup, false⟩ } := by
  have grown : ∀ (tasks : List Task) (base : World),
      tasks.foldl (fun grown task => grown.addActor ⟨task.script world.setup, false⟩) base =
        { base with
          actors := base.actors ++ tasks.map fun task => ⟨task.script world.setup, false⟩ } := by
    intro tasks
    induction tasks with
    | nil => simp
    | cons task rest induction =>
        intro base
        rw [List.foldl_cons, induction]
        simp [addActor]
  rw [follow, grown]
  cases effect.reply <;> rfl

/-- Every actor keeps to its duty, and the hub agrees with the history. -/
structure Orderly (history : History) (world : World) : Prop where
  keeps : ∀ (index : Nat) (actor : Actor), world.actors[index]? = some actor →
    actor.script.Keeps (fun _ after => after.IsIdle) (history.duty index)
  known : ∀ happening ∈ history, happening.actor < world.actors.length
  agreed : Agreed history world.hub

/-- Nothing has happened yet, and nobody is at the gate. -/
structure Fresh (world : World) : Prop where
  actors : world.actors = []
  gate : world.hub.gate = {}

theorem orderly_of_fresh {world : World} (fresh : world.Fresh) : Orderly [] world := by
  refine ⟨fun index actor here => ?_, fun _ absent => absurd absent List.not_mem_nil,
    fun _ _ absent => absurd absent List.not_mem_nil,
    fun _ _ absent => absurd absent List.not_mem_nil, ?_⟩
  · rw [fresh.actors] at here
    cases here
  · rw [fresh.gate]
    exact ⟨fun _ => ⟨nofun, nofun⟩, fun _ => ⟨nofun, nofun⟩, .nil⟩

namespace Orderly

variable {history : History} {world : World}

theorem outside (orderly : Orderly history world) {hub : Hub} (agrees : world.hub.Agrees hub) :
    Orderly history { world with hub } := by
  refine ⟨orderly.keeps, orderly.known, ?_, ?_, ?_⟩
  · intro opened
    exact orderly.agreed.unmoved (agrees.phase ▸ opened)
  · intro unclaimed
    exact orderly.agreed.unclaimed (agrees.closeClaimed ▸ unclaimed)
  · exact agrees.gate.symm ▸ orderly.agreed.gate

theorem addActor (orderly : Orderly history world) {actor : Actor}
    (keeps : actor.script.Keeps (fun _ after => after.IsIdle) .free) :
    Orderly history (world.addActor actor) := by
  refine ⟨fun index found here => ?_, fun happening member => ?_, orderly.agreed⟩
  · rw [World.addActor, List.getElem?_append] at here
    split at here
    · exact orderly.keeps index found here
    · rename_i late
      have unknown : history.duty index = .free := by
        apply History.duty_of_unknown
        intro happening member
        have before := orderly.known happening member
        omega
      obtain rfl := List.mem_singleton.mp (List.mem_of_getElem? here)
      rw [unknown]
      exact keeps
  · have before := orderly.known happening member
    rw [World.addActor, List.length_append]
    omega

theorem addTasks (orderly : Orderly history world) (setup : Setup) (tasks : List Task) :
    Orderly history
      (tasks.foldl (fun grown task => grown.addActor ⟨task.script setup, false⟩) world) := by
  induction tasks generalizing world with
  | nil => exact orderly
  | cons task rest induction => exact induction (orderly.addActor (task.keeps setup trivial))

theorem putActor (orderly : Orderly history world) {later : History} {hub : Hub} {index : Nat}
    {script : Script (Option Task)} (agreed : Agreed later hub)
    (known : ∀ happening ∈ later, happening.actor < world.actors.length)
    (others : ∀ other, index ≠ other → later.duty other = history.duty other)
    (keeps : script.Keeps (fun _ after => after.IsIdle) (later.duty index)) :
    Orderly later (World.putActor { world with hub } index script) := by
  refine ⟨fun other actor here => ?_, fun happening member => ?_, agreed⟩
  · by_cases same : index = other
    · subst same
      rw [World.putActor, List.getElem?_modify_eq] at here
      obtain ⟨before, _, rfl⟩ := Option.map_eq_some_iff.mp here
      exact keeps
    · rw [World.putActor, List.getElem?_modify_ne _ _ same] at here
      rw [others other same]
      exact orderly.keeps other actor here
  · rw [World.putActor, List.length_modify]
    exact known happening member

theorem act (orderly : Orderly history world) {index : Nat} {actor : Actor} {action : Action}
    {next : action.Reply → Script (Option Task)} {effect : Effect action.Reply}
    (here : world.actors[index]? = some actor) (doing : actor.script = .act action next)
    (member : effect ∈ action.effects world.setup index world.hub) :
    Orderly (history ++ [⟨index, action, effect.reply⟩]) (world.follow index action next effect) := by
  obtain ⟨permitted, goesOn⟩ := doing ▸ orderly.keeps index actor here
  have agreed := orderly.agreed.step permitted member
  have known : ∀ happening ∈ history ++ [⟨index, action, effect.reply⟩],
      happening.actor < world.actors.length := by
    intro happening member
    rcases List.mem_append.mp member with member | member
    · exact orderly.known happening member
    · obtain rfl := List.mem_singleton.mp member
      exact (List.getElem?_eq_some_iff.mp here).1
  have others : ∀ other, index ≠ other →
      History.duty (history ++ [⟨index, action, effect.reply⟩]) other = history.duty other :=
    fun other elsewhere => History.duty_other elsewhere
  refine addTasks ?_ world.setup effect.spawned
  cases told : effect.reply with
  | some reply =>
      rw [told] at agreed known others
      apply orderly.putActor agreed known others
      rw [History.duty_own]
      exact goesOn reply
  | none =>
      rw [told] at agreed known
      refine ⟨fun other found there => ?_, known, agreed⟩
      have unchanged : History.duty (history ++ [⟨index, action, none⟩]) other = history.duty other := by
        rw [History.duty_append, Happening.advance, ite_self]
      rw [unchanged]
      exact orderly.keeps other found there

end Orderly

theorem orderly_of_run {start world : World} (fresh : start.Fresh) {history : History}
    (run : start.Run history world) : Orderly history world := by
  induction run with
  | refl => exact orderly_of_fresh fresh
  | act _ here doing member induction => exact induction.act here doing member
  | @goOn history world index actor task _ here ended induction =>
      have idle : (history.duty index).IsIdle := by
        have keeps := induction.keeps index actor here
        rw [ended] at keeps
        exact keeps
      exact induction.putActor induction.agreed induction.known (fun _ _ => rfl)
        (task.keeps world.setup idle)
  | @call history world _ call induction =>
      refine induction.addActor (keeps_bind (call.keeps world.setup trivial) ?_)
      intro _ _ idle
      exact ⟨trivial, fun _ => idle⟩
  | @task history world _ task induction =>
      exact induction.addActor (task.keeps world.setup trivial)
  | @errand history world _ errand induction =>
      exact induction.addActor (keeps_bind (errand.keeps world.setup trivial) fun _ _ idle => idle)
  | tick _ induction => exact induction.outside ⟨rfl, rfl, rfl⟩
  | cancel _ induction => exact induction.outside ⟨rfl, rfl, rfl⟩
  | feed _ cue induction => exact induction.outside ⟨rfl, rfl, rfl⟩

theorem Run.at {start world : World} {history : History} (run : start.Run history world)
    {place : Nat} {happening : Happening} (found : history[place]? = some happening) :
    ∃ before actor next effect, start.Run (history.take place) before ∧
      before.actors[happening.actor]? = some actor ∧
      actor.script = .act happening.action next ∧
      effect ∈ happening.action.effects before.setup happening.actor before.hub ∧
      effect.reply = happening.reply := by
  induction run with
  | refl => cases found
  | @act history world index actor action next effect before here doing member induction =>
      rcases History.of_append found with ⟨earlier, found⟩ | ⟨rfl, rfl⟩
      · rw [List.take_append_of_le_length (Nat.le_of_lt earlier)]
        exact induction found
      · rw [List.take_left]
        exact ⟨world, actor, next, effect, before, here, doing, member, rfl⟩
  | goOn _ _ _ induction => exact induction found
  | call _ _ induction => exact induction found
  | task _ _ induction => exact induction found
  | errand _ _ induction => exact induction found
  | tick _ induction => exact induction found
  | cancel _ induction => exact induction found
  | feed _ _ induction => exact induction found

theorem Run.permitted {start world : World} (fresh : start.Fresh) {history : History}
    (run : start.Run history world) {place : Nat} {happening : Happening}
    (found : history[place]? = some happening) :
    (History.duty (history.take place) happening.actor).permits happening.action := by
  obtain ⟨before, actor, next, effect, earlier, here, doing, _⟩ := run.at found
  have keeps := (orderly_of_run fresh earlier).keeps happening.actor actor here
  rw [doing] at keeps
  exact keeps.1

end World

theorem Hub.written_tell (hub : Hub) (observers : Observers) (index : Nat) (event : Event) :
    (hub.tell observers index event).stream.written = hub.stream.written := by
  unfold Hub.tell
  split
  · rfl
  · dsimp only
    split <;> rfl

theorem Stream.written_read (stream : Stream) (cue : Option Cue) (room : Nat) :
    (stream.read cue room).2.written = stream.written := by
  unfold Stream.read
  split
  · rfl
  · dsimp only
    split <;> rfl
  · rfl

theorem Hub.written_receive {hub : Hub} {room deadline : Nat} {effect : Effect Reading}
    (member : effect ∈ hub.receive room deadline) :
    effect.hub.stream.written = hub.stream.written := by
  unfold Hub.receive at member
  split at member
  · split at member
    · obtain rfl := List.mem_singleton.mp member
      rfl
    · cases member
  · obtain rfl := List.mem_singleton.mp member
    rfl
  · rename_i cue side turn
    obtain rfl := List.mem_singleton.mp member
    exact Stream.written_read { hub.stream with reading := side } cue room

theorem Hub.written_transfer {hub : Hub} {side : Side} {deadline : Nat}
    {store : Stream → Side → Stream} {play : Stream → Option Cue → Transfer × Stream}
    {effect : Effect Transfer} (member : effect ∈ hub.transfer side deadline store play)
    (brings : Transfer → Bytes) (late : brings .timedOut = [])
    (stores : ∀ stream side, (store stream side).written = stream.written)
    (plays : ∀ stream cue, (play stream cue).2.written = stream.written ++ brings (play stream cue).1) :
    effect.hub.stream.written = hub.stream.written ++ effect.reply.elim [] brings := by
  unfold Hub.transfer at member
  split at member
  · split at member
    · obtain rfl := List.mem_singleton.mp member
      exact (late.symm ▸ List.append_nil _).symm
    · cases member
  · obtain rfl := List.mem_singleton.mp member
    exact (stores _ _).trans (List.append_nil _).symm
  · obtain rfl := List.mem_singleton.mp member
    exact (plays _ _).trans (congrArg (· ++ _) (stores _ _))

theorem Stream.written_write (stream : Stream) (cue : Option Cue) (bytes : Bytes) :
    (stream.write cue bytes).2.written = stream.written ++ (stream.write cue bytes).1.taken bytes := by
  unfold Stream.write
  split
  · exact (List.append_nil _).symm
  · exact (List.append_nil _).symm
  · rfl

theorem Stream.written_flush (stream : Stream) (cue : Option Cue) :
    (stream.flush cue).2.written = stream.written := by
  unfold Stream.flush
  split <;> rfl

theorem Stream.written_shutdown (stream : Stream) (cue : Option Cue) :
    (stream.shutdown cue).2.written = stream.written := by
  unfold Stream.shutdown
  split <;> rfl

theorem Action.written_of_effect {setup : Setup} {actor : Nat} {action : Action} {hub : Hub}
    {effect : Effect action.Reply} (member : effect ∈ action.effects setup actor hub) :
    effect.hub.stream.written =
      hub.stream.written ++ Happening.wrote ⟨actor, action, effect.reply⟩ := by
  cases action with
  | write bytes deadline =>
      simp only [Action.effects] at member
      have brought := Hub.written_transfer member (·.taken bytes) rfl (fun _ _ => rfl)
        fun stream cue => stream.written_write cue bytes
      rw [brought]
      cases effect.reply <;> rfl
  | flush deadline =>
      simp only [Action.effects] at member
      have brought := Hub.written_transfer member (fun _ => []) rfl (fun _ _ => rfl)
        fun stream cue => (stream.written_flush cue).trans (List.append_nil _).symm
      rw [brought]
      cases effect.reply <;> rfl
  | shutdown deadline =>
      simp only [Action.effects] at member
      have brought := Hub.written_transfer member (fun _ => []) rfl (fun _ _ => rfl)
        fun stream cue => (stream.written_shutdown cue).trans (List.append_nil _).symm
      rw [brought]
      cases effect.reply <;> rfl
  | tell observer event =>
      obtain rfl := List.mem_singleton.mp member
      exact (hub.written_tell setup.observers observer event).trans (List.append_nil _).symm
  | read room deadline isCancellable =>
      simp only [Action.effects] at member
      refine Eq.trans ?_ (List.append_nil _).symm
      rcases List.mem_append.mp member with cancelled | member
      · split at cancelled
        · obtain rfl := List.mem_singleton.mp cancelled
          rfl
        · cases cancelled
      · exact Hub.written_receive member
  | _ =>
      refine Eq.trans ?_ (List.append_nil _).symm
      simp only [Action.effects, Hub.answer, Hub.updateScheduler, Hub.log] at member
      grind

/-- The wire carries what the writes of the history have brought, in their order. -/
theorem World.written_of_run {start world : World} {history : History}
    (run : start.Run history world) :
    world.hub.stream.written = start.hub.stream.written ++ history.flatMap Happening.wrote := by
  induction run with
  | refl => simp
  | act _ _ _ member induction =>
      rw [follow_eq, List.flatMap_append, ← List.append_assoc, ← induction]
      simpa using Action.written_of_effect member
  | goOn _ _ _ induction => exact induction
  | call _ _ induction => exact induction
  | task _ _ induction => exact induction
  | errand _ _ induction => exact induction
  | tick _ induction => exact induction
  | cancel _ induction => exact induction
  | feed _ _ induction => exact induction

end WebSocket
