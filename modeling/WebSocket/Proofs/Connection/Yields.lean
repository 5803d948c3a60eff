import WebSocket.Proofs.Connection.Ground
import WebSocket.Proofs.Connection.Inbound

/-!
What an actor brings forth that is alone with a connection. A script yields some
outputs if every run of it without trouble brings forth a beginning of them. Over a
stream that lets everything through, such a run can be brought to its end.
-/

namespace WebSocket

/-- The action can be answered without anybody else, and without trouble. -/
def Action.IsOpen (ground : Ground) : Action → Prop
  | enterGate => ground.gate.canEnter 0 = true
  | write bytes _ => bytes ≠ []
  | read _ _ isCancellable => isCancellable = true
  | spawn _ | awaitClosed _ | awaitTick .. | enterGuard .. => False
  | _ => True

namespace Side

/-- Calls to the side come through: none of them fails, and none waits for ever. -/
structure Flows (side : Side) : Prop where
  works : side.Works
  ends : side.idles = false
  moves : .hang ∉ side.cues

theorem Flows.tail {side next : Side} {cue : Cue} (flows : side.Flows)
    (cues : side.cues = cue :: next.cues) (idles : next.idles = side.idles) : next.Flows := by
  have tail : ∀ {later}, later ∈ next.cues → later ∈ side.cues :=
    fun member => cues ▸ List.mem_cons_of_mem cue member
  exact ⟨fun later member => flows.works later (tail member), idles.trans flows.ends,
    fun member => flows.moves (tail member)⟩

theorem Flows.of_waiting {side next : Side} {now : Nat} (flows : side.Flows)
    (turned : side.turn now = .waiting next) : next.Flows := by
  obtain ⟨_, rest, cues, remaining, idles⟩ := waiting_of_turn turned
  exact flows.tail (remaining.symm ▸ cues) idles

theorem Flows.of_plays {side next : Side} {now : Nat} {cue : Option Cue} (flows : side.Flows)
    (turned : side.turn now = .plays cue next) : next.Flows := by
  rcases plays_of_turn turned with ⟨_, _, _, rfl⟩ | ⟨failure, rest, cues⟩ | ⟨played, _, cues, idles⟩
  · exact flows
  · have failing := flows.works (.broken failure) (cues ▸ List.mem_cons_self)
    cases failing
  · exact flows.tail cues idles

theorem Flows.brings {side : Side} (flows : side.Flows) : side.inflow ≠ ⟨[], false⟩ := by
  obtain ⟨cues, readyAt, idles⟩ := side
  obtain ⟨-, ends, moves⟩ := flows
  obtain rfl : idles = false := ends
  unfold inflow
  dsimp only at moves ⊢
  induction cues with
  | nil => nofun
  | cons cue rest induction =>
      have later : .hang ∉ rest := fun member => moves (List.mem_cons_of_mem cue member)
      cases cue with
      | wait milliseconds => exact induction later
      | hang => exact absurd List.mem_cons_self moves
      | data bytes => cases bytes <;> nofun
      | _ => nofun

theorem not_blocked {side : Side} {now : Nat} (brings : side.inflow ≠ ⟨[], false⟩)
    (ready : side.readyAt ≤ now) : side.turn now ≠ .blocked := by
  intro blocked
  unfold turn at blocked
  rw [if_neg (by omega)] at blocked
  apply brings
  unfold inflow
  split at blocked
  · rename_i cues
    split at blocked
    · rename_i idles
      rw [cues, idles]
      rfl
    · cases blocked
  · cases blocked
  · rename_i cues
    rw [cues]
    rfl
  · cases blocked
  · cases blocked

end Side

structure Hub.Flows (hub : Hub) : Prop where
  writes : hub.stream.writing.Flows
  flushes : hub.stream.flushing.Flows

theorem Hub.flows_of_transfer {hub : Hub} {side : Side} {deadline : Nat}
    {store : Stream → Side → Stream} {play : Stream → Option Cue → Transfer × Stream}
    {effect : Effect Transfer} (flows : hub.Flows)
    (stored : ∀ next, (side.Flows → next.Flows) →
      Hub.Flows { hub with stream := store hub.stream next })
    (played : ∀ stream cue, (play stream cue).2.writing = stream.writing ∧
      (play stream cue).2.flushing = stream.flushing)
    (member : effect ∈ hub.transfer side deadline store play) : effect.hub.Flows := by
  unfold Hub.transfer at member
  split at member
  · split at member
    · obtain rfl := List.mem_singleton.mp member
      exact flows
    · cases member
  · rename_i next turned
    obtain rfl := List.mem_singleton.mp member
    exact stored next fun flowing => flowing.of_waiting turned
  · rename_i cue next turned
    obtain rfl := List.mem_singleton.mp member
    have kept := stored next fun flowing => flowing.of_plays turned
    obtain ⟨writing, flushing⟩ := played (store hub.stream next) cue
    exact ⟨writing.symm ▸ kept.writes, flushing.symm ▸ kept.flushes⟩

theorem Stream.sides_of_read (stream : Stream) (cue : Option Cue) (room : Nat) :
    (stream.read cue room).2.writing = stream.writing ∧
      (stream.read cue room).2.flushing = stream.flushing := by
  unfold Stream.read
  split
  · exact ⟨rfl, rfl⟩
  · dsimp only
    split <;> exact ⟨rfl, rfl⟩
  · exact ⟨rfl, rfl⟩

theorem Hub.flows_of_receive {hub : Hub} {room deadline : Nat} {effect : Effect Reading}
    (flows : hub.Flows) (member : effect ∈ hub.receive room deadline) : effect.hub.Flows := by
  unfold Hub.receive at member
  split at member
  · split at member
    · obtain rfl := List.mem_singleton.mp member
      exact flows
    · cases member
  · obtain rfl := List.mem_singleton.mp member
    exact ⟨flows.writes, flows.flushes⟩
  · rename_i cue side turned
    obtain rfl := List.mem_singleton.mp member
    obtain ⟨writing, flushing⟩ := Stream.sides_of_read { hub.stream with reading := side } cue room
    exact ⟨(congrArg Side.Flows writing).mpr flows.writes, (congrArg Side.Flows flushing).mpr flows.flushes⟩

theorem Action.flows_of_effect {setup : Setup} {actor : Nat} {action : Action} {hub : Hub}
    {effect : Effect action.Reply} (flows : hub.Flows)
    (member : effect ∈ action.effects setup actor hub) : effect.hub.Flows := by
  cases action with
  | write bytes deadline =>
      simp only [effects] at member
      refine hub.flows_of_transfer flows (fun next kept => ⟨kept flows.writes, flows.flushes⟩) ?_ member
      intro stream cue
      unfold Stream.write
      split <;> exact ⟨rfl, rfl⟩
  | flush deadline =>
      simp only [effects] at member
      refine hub.flows_of_transfer flows (fun next kept => ⟨flows.writes, kept flows.flushes⟩) ?_ member
      intro stream cue
      unfold Stream.flush
      split <;> exact ⟨rfl, rfl⟩
  | shutdown deadline =>
      simp only [effects] at member
      refine hub.flows_of_transfer flows (fun _ _ => ⟨flows.writes, flows.flushes⟩) ?_ member
      intro stream cue
      unfold Stream.shutdown
      split <;> exact ⟨rfl, rfl⟩
  | read room deadline isCancellable =>
      simp only [effects] at member
      rcases List.mem_append.mp member with cancelled | member
      · split at cancelled
        · obtain rfl := List.mem_singleton.mp cancelled
          exact flows
        · cases cancelled
      · exact hub.flows_of_receive flows member
  | tell observer event =>
      obtain rfl := List.mem_singleton.mp member
      have same : (hub.tell setup.observers observer event).stream = hub.stream := by
        unfold Hub.tell
        split
        · rfl
        · dsimp only
          split <;> rfl
      exact ⟨same.symm ▸ flows.writes, same.symm ▸ flows.flushes⟩
  | _ =>
      have same : effect.hub.stream = hub.stream := by
        simp only [effects, Hub.answer, Hub.updateScheduler, Hub.log] at member
        grind
      exact ⟨same.symm ▸ flows.writes, same.symm ▸ flows.flushes⟩

section

variable {hub : Hub} {side next : Side} {deadline room : Nat} {cue : Option Cue}
variable {store : Stream → Side → Stream} {play : Stream → Option Cue → Transfer × Stream}

theorem Hub.transfer_late (turned : side.turn hub.now = .blocked) (late : deadline ≤ hub.now) :
    ⟨hub, some .timedOut, []⟩ ∈ hub.transfer side deadline store play := by
  simp only [transfer, turned, if_pos late]
  exact List.mem_singleton_self _

theorem Hub.transfer_waits (turned : side.turn hub.now = .waiting next) :
    ⟨{ hub with stream := store hub.stream next }, none, []⟩ ∈
      hub.transfer side deadline store play := by
  simp only [transfer, turned]
  exact List.mem_singleton_self _

theorem Hub.transfer_plays (turned : side.turn hub.now = .plays cue next) :
    ⟨{ hub with stream := (play (store hub.stream next) cue).2 },
      some (play (store hub.stream next) cue).1, []⟩ ∈ hub.transfer side deadline store play := by
  simp only [transfer, turned]
  exact List.mem_singleton_self _

theorem Hub.receive_waits (turned : hub.stream.reading.turn hub.now = .waiting next) :
    ⟨{ hub with stream := { hub.stream with reading := next } }, none, []⟩ ∈
      hub.receive room deadline := by
  simp only [receive, turned]
  exact List.mem_singleton_self _

theorem Hub.receive_plays (turned : hub.stream.reading.turn hub.now = .plays cue next) :
    ⟨{ hub with stream := ({ hub.stream with reading := next }.read cue room).2 },
      some ({ hub.stream with reading := next }.read cue room).1, []⟩ ∈
      hub.receive room deadline := by
  simp only [receive, turned]
  exact List.mem_singleton_self _

end

theorem Script.plays_in_time (setup : Setup) (action : Action) (side : Hub → Side)
    (kept : ∀ hub time, side (hub.after time) = side hub)
    (waits : ∀ hub next, (side hub).turn hub.now = .waiting next →
      ∃ effect ∈ action.effects setup 0 hub,
        effect.reply = none ∧ effect.spawned = [] ∧ side effect.hub = next)
    {hub : Hub} (brings : (side hub).inflow ≠ ⟨[], false⟩) :
    ∃ later, Waiting setup action hub later ∧
      ∃ cue next, (side later).turn later.now = .plays cue next := by
  -- on the cues that are left: each wait uses one up
  induction left : (side hub).cues.length using Nat.strongRecOn generalizing hub with
  | ind count induction =>
      let ready := hub.after ((side hub).readyAt - hub.now)
      have waited : Waiting setup action hub ready := waiting_after setup action hub _
      have same : side ready = side hub := kept hub _
      have awake : (side ready).readyAt ≤ ready.now := by
        rw [same]
        simp only [ready, Hub.after]
        omega
      rw [← same] at brings left
      cases turned : (side ready).turn ready.now with
      | blocked => exact absurd turned (Side.not_blocked brings awake)
      | plays cue next => exact ⟨ready, waited, cue, next, turned⟩
      | waiting next =>
          obtain ⟨effect, member, silent, unspawned, moved⟩ := waits ready next turned
          obtain ⟨_, rest, cues, remaining, _⟩ := Side.waiting_of_turn turned
          have fewer : next.cues.length < count := by
            rw [← left, cues, remaining]
            exact Nat.lt_succ_self _
          have still : (side effect.hub).inflow ≠ ⟨[], false⟩ := by
            rw [moved, Side.inflow_of_waiting turned]
            exact brings
          obtain ⟨later, behind, plays⟩ := induction _ fewer still (congrArg (·.cues.length) moved)
          exact ⟨later, (waited.further member silent unspawned).trans behind, plays⟩

namespace Script

variable {Result Other : Type} {setup : Setup}

/-- Whatever the answers are, the outputs of the script are a beginning of `rest`, and
`post` holds of what is left of it in the end. -/
def Yields (setup : Setup) (post : Result → Ground → List Output → Prop) :
    Script Result → Ground → List Output → Prop
  | done result, ground, rest => post result ground rest
  | act action next, ground, rest =>
      action.IsOpen ground ∧ ∀ reply after, action.Leads setup ground reply after →
        ∃ left, rest = Happening.outputs ⟨0, action, some reply⟩ ++ left ∧
          Yields setup post (next reply) after left

/-- The script has exactly these outputs, one result, and one ground in the end. -/
def Does (setup : Setup) (script : Script Result) (ground : Ground) (outputs : List Output)
    (result : Result) (after : Ground) : Prop :=
  script.Yields setup (fun found stood left => found = result ∧ stood = after ∧ left = []) ground
    outputs

theorem Yields.mono {post weaker : Result → Ground → List Output → Prop}
    (weaken : ∀ result ground left, post result ground left → weaker result ground left)
    {script : Script Result} {ground : Ground} {rest : List Output}
    (yields : script.Yields setup post ground rest) : script.Yields setup weaker ground rest := by
  induction script generalizing ground rest with
  | done result => exact weaken result ground rest yields
  | act action next induction =>
      refine ⟨yields.1, fun reply after leads => ?_⟩
      obtain ⟨left, split, further⟩ := yields.2 reply after leads
      exact ⟨left, split, induction reply further⟩

theorem Does.bind {post : Other → Ground → List Output → Prop} {script : Script Result}
    {next : Result → Script Other} {ground after : Ground} {outputs rest : List Output}
    {result : Result} (does : script.Does setup ground outputs result after)
    (behind : (next result).Yields setup post after rest) :
    (script.bind next).Yields setup post ground (outputs ++ rest) := by
  unfold Does at does
  induction script generalizing ground outputs with
  | done found =>
      obtain ⟨rfl, rfl, rfl⟩ := does
      exact behind
  | act action rest' induction =>
      refine ⟨does.1, fun reply stood leads => ?_⟩
      obtain ⟨left, rfl, further⟩ := does.2 reply stood leads
      exact ⟨left ++ rest, List.append_assoc _ _ _, induction reply further⟩

theorem Does.unnoticed {post : Other → Ground → List Output → Prop} {script : Script Result}
    {next : Result → Script Other} {ground after : Ground} {rest : List Output} {result : Result}
    (does : script.Does setup ground [] result after)
    (behind : (next result).Yields setup post after rest) :
    (script.bind next).Yields setup post ground rest :=
  Does.bind does behind

theorem does_done (result : Result) (ground : Ground) :
    (done result).Does setup ground [] result ground := ⟨rfl, rfl, rfl⟩

theorem Does.yields {post : Result → Ground → List Output → Prop} {script : Script Result}
    {ground after : Ground} {outputs rest : List Output} {result : Result}
    (does : script.Does setup ground outputs result after) (holds : post result after rest) :
    script.Yields setup post ground (outputs ++ rest) := by
  have last : (done result).Yields setup post after rest := holds
  have whole := Does.bind does last
  rwa [bind_done] at whole

theorem Does.returns {script : Script Result} {next : Result → Script Other}
    {ground after : Ground} {outputs : List Output} {result : Result} {last : Other}
    (does : script.Does setup ground outputs result after) (returned : next result = done last) :
    (script.bind next).Does setup ground outputs last after := by
  rw [← List.append_nil outputs]
  apply Does.bind does
  rw [returned]
  exact does_done last after

theorem Yields.quiet {post : Result → Ground → List Output → Prop} {action : Action}
    {next : action.Reply → Script Result} {ground : Ground} {rest : List Output}
    (isOpen : action.IsOpen ground)
    (silent : ∀ reply, Happening.outputs ⟨0, action, some reply⟩ = [])
    (further : ∀ reply after, action.Leads setup ground reply after →
      (next reply).Yields setup post after rest) :
    (act action next).Yields setup post ground rest := by
  refine ⟨isOpen, fun reply after leads => ⟨rest, ?_, further reply after leads⟩⟩
  rw [silent reply, List.nil_append]

theorem Yields.perform {post : Result → Ground → List Output → Prop} {action : Action}
    {next : action.Reply → Script Result} {ground : Ground} {rest : List Output}
    (isOpen : action.IsOpen ground)
    (silent : ∀ reply, Happening.outputs ⟨0, action, some reply⟩ = [])
    (further : ∀ reply after, action.Leads setup ground reply after →
      (next reply).Yields setup post after rest) :
    (perform action >>= next).Yields setup post ground rest :=
  Yields.quiet isOpen silent further

end Script

namespace World

open Script

/-- The actors are alone: nobody else begins, and only time passes. -/
def alone : Setting := ⟨fun _ _ => False, fun hub next => next = hub.after 1⟩

/-- A run of actors that are alone, in which no transfer fails or comes too late. -/
structure Smooth (start : World) (history : History) (world : World) : Prop where
  run : start.RunIn alone history world
  fine : ∀ happening ∈ history, happening.isTrouble = false

namespace Smooth

variable {start middle world : World} {history later : History}

theorem refl (start : World) : start.Smooth [] start :=
  ⟨.refl, List.forall_mem_nil _⟩

theorem trans (smooth : start.Smooth history middle) (behind : middle.Smooth later world) :
    start.Smooth (history ++ later) world := by
  refine ⟨smooth.run.trans behind.run, fun happening among => ?_⟩
  rcases List.mem_append.mp among with earlier | further
  · exact smooth.fine happening earlier
  · exact behind.fine happening further

end Smooth

variable {setup : Setup}

theorem solo_of_act {hub : Hub} {script : Script (Option Task)} {index : Nat} {actor : Actor}
    {action : Action} {next : action.Reply → Script (Option Task)} {effect : Effect action.Reply}
    (here : (solo setup hub script).actors[index]? = some actor) (doing : actor.script = .act action next)
    (member : effect ∈ action.effects setup index hub) (notSpawn : ∀ task, action ≠ .spawn task) :
    index = 0 ∧ script = .act action next ∧
      (solo setup hub script).follow index action next effect =
        solo setup effect.hub (effect.reply.elim (act action next) next) := by
  cases index with
  | succ index => cases here
  | zero =>
      cases here
      subst doing
      have unspawned : effect.spawned = [] := by
        apply List.eq_nil_iff_forall_not_mem.mpr
        intro task inside
        exact notSpawn task (Action.spawned_of_effect member task inside)
      exact ⟨rfl, rfl, solo_follow unspawned⟩

theorem not_spawn_of_open {action : Action} {ground : Ground} (isOpen : action.IsOpen ground)
    (task : Task) : action ≠ .spawn task := by
  rintro rfl
  exact isOpen

/-- A run without trouble brings forth a beginning of what its script yields, and the
rest is still to come. -/
theorem yields_of_run {post : Option Task → Ground → List Output → Prop}
    (calm : ∀ observer ∈ setup.observers, ∀ event, observer.cancels event = false)
    (goesOn : ∀ task ground left, post (some task) ground left →
      (task.script setup).Yields setup post ground left)
    {hub : Hub} {script : Script (Option Task)} {rest : List Output}
    (yields : script.Yields setup post hub.ground rest) {history : History} {world : World}
    (smooth : (solo setup hub script).Smooth history world) :
    ∃ now remaining left, world = solo setup now remaining ∧
      rest = history.flatMap Happening.outputs ++ left ∧
      remaining.Yields setup post now.ground left := by
  obtain ⟨run, fine⟩ := smooth
  induction run with
  | refl => exact ⟨hub, script, rest, rfl, rfl, yields⟩
  | begin _ begins _ => exact begins.elim
  | drift _ drifts induction =>
      obtain ⟨now, remaining, left, rfl, split, yields⟩ := induction fine
      obtain rfl := drifts
      exact ⟨now.after 1, remaining, left, rfl, split, yields⟩
  | goOn _ here ended induction =>
      obtain ⟨now, remaining, left, rfl, split, yields⟩ := induction fine
      rename_i history world index actor task before
      cases index with
      | succ index => cases here
      | zero =>
          cases here
          subst ended
          exact ⟨now, task.script setup, left, rfl, split, goesOn task _ _ yields⟩
  | @act history world index actor action next effect _ here doing member induction =>
      obtain ⟨now, remaining, left, rfl, split, yields⟩ :=
        induction fun happening earlier => fine happening (List.mem_append_left _ earlier)
      have isOpen : action.IsOpen now.ground := by
        cases index with
        | succ index => cases here
        | zero =>
            cases here
            subst doing
            exact yields.1
      obtain ⟨rfl, rfl, moved⟩ := solo_of_act here doing member (not_spawn_of_open isOpen)
      obtain ⟨same, leads⟩ := Action.leads_of_effect calm member
        (fine _ (List.mem_append_right _ (List.mem_singleton_self _)))
      simp only [List.flatMap_append, List.flatMap_singleton, List.append_assoc]
      cases told : effect.reply with
      | none =>
          refine ⟨effect.hub, _, left, moved, ?_, ?_⟩
          · have silent : Happening.outputs ⟨0, action, none⟩ = [] := by cases action <;> rfl
            rw [silent, List.nil_append]
            exact split
          · rw [told, same told]
            exact yields
      | some reply =>
          obtain ⟨later, cut, further⟩ := yields.2 reply _ (leads reply told)
          refine ⟨effect.hub, _, later, moved, cut ▸ split, ?_⟩
          rw [told]
          exact further

section

variable {action : Action} {hub : Hub}

/-- The action has this answer ahead of it, and the answer is no trouble. -/
def Answers (setup : Setup) (action : Action) (hub : Hub) (reply : action.Reply) : Prop :=
  Happening.isTrouble ⟨0, action, some reply⟩ = false ∧
    ∃ later, Waiting setup action hub later ∧
      ∃ effect ∈ action.effects setup 0 later, effect.reply = some reply

theorem flows_of_waiting {later : Hub} (waiting : Waiting setup action hub later)
    (flows : hub.Flows) : later.Flows := by
  induction waiting with
  | refl => exact flows
  | tick _ induction => exact ⟨induction.writes, induction.flushes⟩
  | further _ member _ _ induction => exact Action.flows_of_effect induction member

theorem silent_of_waiting (action : Action) :
    Happening.outputs ⟨0, action, none⟩ = [] ∧ Happening.isTrouble ⟨0, action, none⟩ = false := by
  cases action <;> exact ⟨rfl, rfl⟩

theorem smooth_act (next : action.Reply → Script (Option Task)) {effect : Effect action.Reply}
    (member : effect ∈ action.effects setup 0 hub) (unspawned : effect.spawned = [])
    (fine : Happening.isTrouble ⟨0, action, effect.reply⟩ = false) :
    (solo setup hub (act action next)).Smooth [⟨0, action, effect.reply⟩]
      (solo setup effect.hub (effect.reply.elim (act action next) next)) := by
  have moved : (solo setup hub (act action next)).RunIn alone ([] ++ [⟨0, action, effect.reply⟩])
      ((solo setup hub (act action next)).follow 0 action next effect) :=
    .act .refl rfl rfl member
  rw [solo_follow unspawned] at moved
  refine ⟨moved, fun happening among => ?_⟩
  obtain rfl := List.mem_singleton.mp among
  exact fine

theorem smooth_of_waiting (next : action.Reply → Script (Option Task)) {later : Hub}
    (calm : ∀ observer ∈ setup.observers, ∀ event, observer.cancels event = false)
    (waiting : Waiting setup action hub later) :
    later.ground = hub.ground ∧ ∃ history,
      (solo setup hub (act action next)).Smooth history (solo setup later (act action next)) ∧
        history.flatMap Happening.outputs = [] := by
  induction waiting with
  | refl => exact ⟨rfl, [], .refl _, rfl⟩
  | tick _ induction =>
      obtain ⟨same, history, smooth, silent⟩ := induction
      exact ⟨same, history, ⟨.drift smooth.run rfl, smooth.fine⟩, silent⟩
  | @further now _ effect member told unspawned induction =>
      obtain ⟨same, history, smooth, silent⟩ := induction
      obtain ⟨unheard, fine⟩ := silent_of_waiting action
      rw [← told] at unheard fine
      have kept := (Action.leads_of_effect calm member fine).1 told
      have moved := smooth_act next member unspawned fine
      rw [told] at moved
      refine ⟨kept.trans same, _, smooth.trans moved, ?_⟩
      rw [List.flatMap_append, silent, List.flatMap_singleton, ← told]
      exact unheard

theorem smooth_of_answers (next : action.Reply → Script (Option Task)) {reply : action.Reply}
    (calm : ∀ observer ∈ setup.observers, ∀ event, observer.cancels event = false)
    (answers : Answers setup action hub reply) (isOpen : action.IsOpen hub.ground) (flows : hub.Flows) :
    ∃ history later,
      (solo setup hub (act action next)).Smooth history (solo setup later (next reply)) ∧
        later.Flows ∧ action.Leads setup hub.ground reply later.ground ∧
        history.flatMap Happening.outputs = Happening.outputs ⟨0, action, some reply⟩ := by
  obtain ⟨fine, later, waiting, effect, member, told⟩ := answers
  obtain ⟨same, history, smooth, silent⟩ := smooth_of_waiting next calm waiting
  have unspawned : effect.spawned = [] := by
    apply List.eq_nil_iff_forall_not_mem.mpr
    intro task inside
    exact not_spawn_of_open isOpen task (Action.spawned_of_effect member task inside)
  rw [← told] at fine
  have leads := (Action.leads_of_effect calm member fine).2 reply told
  have moved := smooth_act next member unspawned fine
  rw [told] at moved
  refine ⟨_, effect.hub, smooth.trans moved, ?_, same ▸ leads, ?_⟩
  · exact Action.flows_of_effect (flows_of_waiting waiting flows) member
  · rw [List.flatMap_append, silent, List.flatMap_singleton]
    rfl

theorem answers_of_answered (answered : Answered setup action hub)
    (fine : ∀ reply, Happening.isTrouble ⟨0, action, some reply⟩ = false) :
    ∃ reply, Answers setup action hub reply := by
  obtain ⟨later, waiting, effect, member, told⟩ := answered
  obtain ⟨reply, told⟩ := Option.isSome_iff_exists.mp told
  exact ⟨reply, fine reply, later, waiting, effect, member, told⟩

theorem answers_of_open (setup : Setup) (isOpen : action.IsOpen hub.ground) (flows : hub.Flows) :
    ∃ reply, Answers setup action hub reply := by
  cases action with
  | write bytes deadline =>
      obtain ⟨later, waiting, cue, next, turned⟩ :=
        plays_in_time setup (.write bytes deadline) (fun hub => hub.stream.writing) (fun _ _ => rfl)
          (fun hub next turned => by
            simp only [Action.effects]
            exact ⟨_, Hub.transfer_waits turned, rfl, rfl, rfl⟩) flows.writes.brings
      have through := (Side.works_of_plays (flows_of_waiting waiting flows).writes.works turned).2
      obtain ⟨count, written, taken⟩ :=
        Stream.write_works { later.stream with writing := next } isOpen through
      refine ⟨.done count, rfl, later, waiting, ?_⟩
      simp only [Action.effects]
      exact ⟨_, Hub.transfer_plays turned, congrArg (fun played => some played.1) taken⟩
  | flush deadline =>
      obtain ⟨later, waiting, cue, next, turned⟩ :=
        plays_in_time setup (.flush deadline) (fun hub => hub.stream.flushing) (fun _ _ => rfl)
          (fun hub next turned => by
            simp only [Action.effects]
            exact ⟨_, Hub.transfer_waits turned, rfl, rfl, rfl⟩) flows.flushes.brings
      have through := (Side.works_of_plays (flows_of_waiting waiting flows).flushes.works turned).2
      obtain ⟨flushes, flushed⟩ := Stream.flush_works { later.stream with flushing := next } through
      refine ⟨.done 0, rfl, later, waiting, ?_⟩
      simp only [Action.effects]
      exact ⟨_, Hub.transfer_plays turned, congrArg (fun played => some played.1) flushed⟩
  | shutdown deadline =>
      refine answers_of_answered (answered_of_turn (fun hub => hub.stream.closing) deadline
        (fun _ _ => rfl) ?_ ?_ ?_ hub) fun _ => rfl
      · intro hub turned late
        simp only [Action.effects]
        exact ⟨_, Hub.transfer_late turned late, rfl⟩
      · intro hub next turned
        simp only [Action.effects]
        exact ⟨_, Hub.transfer_waits turned, rfl, rfl, rfl⟩
      · intro hub cue next turned
        simp only [Action.effects]
        exact ⟨_, Hub.transfer_plays turned, rfl⟩
  | read room deadline isCancellable =>
      obtain rfl : isCancellable = true := isOpen
      exact answers_of_answered (Connection.answered_read room deadline hub) fun _ => rfl
  | sleep till deadline =>
      refine ⟨true, rfl, hub.after (till - hub.now), waiting_after setup _ hub _, ?_⟩
      have awake : till ≤ (hub.after (till - hub.now)).now := by
        simp only [Hub.after]
        omega
      simp only [Action.effects, if_pos awake, Hub.answer]
      exact ⟨_, List.mem_singleton_self _, rfl⟩
  | enterGate =>
      have turn : hub.gate.canEnter 0 = true := isOpen
      refine ⟨hub.hasWriter, rfl, hub, .refl, ?_⟩
      simp only [Action.effects, if_pos turn, Hub.answer]
      exact ⟨_, List.mem_singleton_self _, rfl⟩
  | movePhase source target =>
      by_cases there : hub.phase = source
      · refine ⟨true, rfl, hub, .refl, ?_⟩
        simp only [Action.effects, if_pos there, Hub.answer]
        exact ⟨_, List.mem_singleton_self _, rfl⟩
      · refine ⟨false, rfl, hub, .refl, ?_⟩
        simp only [Action.effects, if_neg there, Hub.answer]
        exact ⟨_, List.mem_singleton_self _, rfl⟩
  | spawn | awaitClosed | awaitTick | enterGuard => exact isOpen.elim
  | _ => exact ⟨_, rfl, hub, .refl, _, List.mem_singleton_self _, rfl⟩

theorem answers_read (setup : Setup) (room deadline : Nat) (brings : hub.ground.inflow ≠ ⟨[], false⟩) :
    ∃ reply, reply ≠ .timedOut ∧ Answers setup (.read room deadline true) hub reply := by
  obtain ⟨later, waiting, cue, next, turned⟩ :=
    plays_in_time setup (.read room deadline true) (fun hub => hub.stream.reading) (fun _ _ => rfl)
      (fun hub next turned =>
        ⟨_, List.mem_append_right _ (Hub.receive_waits turned), rfl, rfl, rfl⟩) brings
  have played : ∀ stream : Stream, (stream.read cue room).1 ≠ .timedOut := by
    intro stream
    unfold Stream.read
    split
    · nofun
    · dsimp only
      split <;> nofun
    · nofun
  let stream : Stream := { later.stream with reading := next }
  let effect : Effect Reading :=
    ⟨{ later with stream := (stream.read cue room).2 }, some (stream.read cue room).1, []⟩
  have member : effect ∈ later.receive room deadline := Hub.receive_plays turned
  exact ⟨_, played stream, rfl, later, waiting, effect, List.mem_append_right _ member, rfl⟩

theorem smooth_go_on (hub : Hub) (task : Task) :
    (solo setup hub (done (some task))).Smooth [] (solo setup hub (task.script setup)) := by
  have moved : (solo setup hub (done (some task))).RunIn alone []
      ((solo setup hub (done (some task))).putActor 0 (task.script setup)) := .goOn .refl rfl rfl
  exact ⟨moved, List.forall_mem_nil _⟩

theorem flows_of_run {script : Script (Option Task)} {history : History} {world : World}
    (run : (solo setup hub script).RunIn alone history world) (flows : hub.Flows) :
    world.hub.Flows := by
  induction run with
  | refl => exact flows
  | act _ _ _ member induction =>
      rw [follow_eq]
      exact Action.flows_of_effect induction member
  | goOn _ _ _ induction => exact induction
  | begin _ begins _ => exact begins.elim
  | drift _ drifts induction =>
      obtain rfl := drifts
      exact ⟨induction.writes, induction.flushes⟩

/-- Over such a stream a script can be brought to its end. -/
theorem finishes {post : Option Task → Ground → List Output → Prop}
    (calm : ∀ observer ∈ setup.observers, ∀ event, observer.cancels event = false)
    {script : Script (Option Task)} {rest : List Output}
    (yields : script.Yields setup post hub.ground rest) (flows : hub.Flows) :
    ∃ history now result left,
      (solo setup hub script).Smooth history (solo setup now (done result)) ∧ now.Flows ∧
        rest = history.flatMap Happening.outputs ++ left ∧ post result now.ground left := by
  induction script generalizing hub rest with
  | done result => exact ⟨[], hub, result, rest, .refl _, flows, rfl, yields⟩
  | act action next induction =>
      obtain ⟨isOpen, further⟩ := yields
      obtain ⟨reply, answers⟩ := answers_of_open setup isOpen flows
      obtain ⟨history, later, smooth, flowing, leads, same⟩ :=
        smooth_of_answers next calm answers isOpen flows
      obtain ⟨left, rfl, yields⟩ := further reply _ leads
      obtain ⟨more, now, result, last, behind, flowsOn, rfl, ended⟩ := induction reply yields flowing
      refine ⟨history ++ more, now, result, last, smooth.trans behind, flowsOn, ?_, ended⟩
      rw [List.flatMap_append, same, List.append_assoc]

end

end World

end WebSocket
