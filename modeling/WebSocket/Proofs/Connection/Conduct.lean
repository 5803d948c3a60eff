import Mathlib.Data.List.Induction
import WebSocket.Proofs.Connection.Routine

/-!
Rules of conduct. A conduct tells from an actor's own actions where the actor
stands and what it may do next. If all that can begin follows the conduct, then
so does every actor at every point of every run, and what the conduct preserves
in one step holds throughout the run.
-/

namespace WebSocket

structure Conduct (Stand : Type) where
  start : Stand
  permits : (actor : Nat) → Stand → Action → Prop
  after : Stand → (action : Action) → action.Reply → Stand

variable {Stand Result Other : Type}

/-- What a happening means to one actor. Only its own actions count, once they are answered. -/
def Conduct.advance (conduct : Conduct Stand) (actor : Nat) (stand : Stand)
    (happening : Happening) : Stand :=
  if happening.actor = actor then
    match happening.reply with
    | some reply => conduct.after stand happening.action reply
    | none => stand
  else stand

namespace History

def stand (history : History) (conduct : Conduct Stand) (actor : Nat) : Stand :=
  history.foldl (conduct.advance actor) conduct.start

variable {conduct : Conduct Stand}

theorem stand_append (history : History) (happening : Happening) (actor : Nat) :
    stand (history ++ [happening]) conduct actor =
      conduct.advance actor (history.stand conduct actor) happening := by
  rw [stand, List.foldl_append]
  rfl

theorem stand_own (history : History) (actor : Nat) (action : Action) (reply : action.Reply) :
    stand (history ++ [⟨actor, action, some reply⟩]) conduct actor =
      conduct.after (history.stand conduct actor) action reply := by
  rw [stand_append, Conduct.advance, if_pos rfl]

theorem stand_other {history : History} {happening : Happening} {actor : Nat}
    (other : happening.actor ≠ actor) :
    stand (history ++ [happening]) conduct actor = history.stand conduct actor := by
  rw [stand_append, Conduct.advance, if_neg other]

theorem stand_waiting (history : History) (index : Nat) (action : Action) (actor : Nat) :
    stand (history ++ [⟨index, action, none⟩]) conduct actor = history.stand conduct actor := by
  rw [stand_append, Conduct.advance, ite_self]

theorem stand_induction {actor : Nat} {motive : History → Stand → Prop} (first : motive [] conduct.start)
    (own : ∀ (history : History) (action : Action) (reply : action.Reply),
      motive history (history.stand conduct actor) → motive (history ++ [⟨actor, action, some reply⟩])
        (conduct.after (history.stand conduct actor) action reply))
    (idle : ∀ (history : History) (happening : Happening),
      (happening.actor = actor → happening.reply = none) → motive history (history.stand conduct actor) →
        motive (history ++ [happening]) (history.stand conduct actor))
    (history : History) : motive history (history.stand conduct actor) := by
  induction history using List.reverseRecOn with
  | nil => exact first
  | append_singleton history happening induction =>
      by_cases acts : happening.actor = actor
      · subst acts
        obtain ⟨actor, action, reply⟩ := happening
        cases reply with
        | none =>
            rw [stand_waiting]
            exact idle history _ (fun _ => rfl) induction
        | some reply =>
            rw [stand_own]
            exact own history action reply induction
      · rw [stand_other acts]
        exact idle history happening (fun same => absurd same acts) induction

theorem stand_unknown {history : History} {actor : Nat}
    (unknown : ∀ happening ∈ history, happening.actor ≠ actor) :
    history.stand conduct actor = conduct.start := by
  unfold stand
  generalize conduct.start = stand
  induction history generalizing stand with
  | nil => rfl
  | cons happening rest induction =>
      rw [List.foldl_cons, Conduct.advance, if_neg (unknown happening List.mem_cons_self)]
      exact induction (fun later member => unknown later (List.mem_cons_of_mem _ member)) stand

theorem place_of_mem {history : History} {till : Nat} {happening : Happening}
    (member : happening ∈ history.take till) :
    ∃ place, place < till ∧ history[place]? = some happening := by
  obtain ⟨place, found⟩ := List.mem_iff_getElem?.mp member
  exact ⟨place, of_take found⟩

theorem mem_take {history : History} {place till : Nat} {happening : Happening}
    (earlier : place < till) (found : history[place]? = some happening) :
    happening ∈ history.take till :=
  List.mem_of_getElem? ((List.getElem?_take_of_lt earlier).trans found)

end History

namespace Script

variable {conduct : Conduct Stand} {actor : Nat}

def Follows (conduct : Conduct Stand) (actor : Nat) (ends : Result → Stand → Prop) :
    Script Result → Stand → Prop
  | done result, stand => ends result stand
  | act action next, stand =>
      conduct.permits actor stand action ∧
        ∀ reply, Follows conduct actor ends (next reply) (conduct.after stand action reply)

theorem Follows.mono {ends weaker : Result → Stand → Prop}
    (weaken : ∀ result stand, ends result stand → weaker result stand) {script : Script Result}
    {stand : Stand} (follows : script.Follows conduct actor ends stand) :
    script.Follows conduct actor weaker stand := by
  induction script generalizing stand with
  | done result => exact weaken result stand follows
  | act action next induction => exact ⟨follows.1, fun reply => induction reply (follows.2 reply)⟩

theorem Follows.bind {ends : Result → Stand → Prop} {last : Other → Stand → Prop}
    {script : Script Result} {next : Result → Script Other} {stand : Stand}
    (follows : script.Follows conduct actor ends stand)
    (goesOn : ∀ result after, ends result after → (next result).Follows conduct actor last after) :
    (script.bind next).Follows conduct actor last stand := by
  induction script generalizing stand with
  | done result => exact goesOn result stand follows
  | act action rest induction => exact ⟨follows.1, fun reply => induction reply (follows.2 reply)⟩

theorem Follows.perform {ends : Result → Stand → Prop} {action : Action}
    {next : action.Reply → Script Result} {stand : Stand}
    (permitted : conduct.permits actor stand action)
    (goesOn : ∀ reply, (next reply).Follows conduct actor ends (conduct.after stand action reply)) :
    (perform action >>= next).Follows conduct actor ends stand :=
  ⟨permitted, goesOn⟩

end Script

def Conduct.both {Stands : Type} (first : Conduct Stand) (second : Conduct Stands) :
    Conduct (Stand × Stands) where
  start := (first.start, second.start)
  permits actor stand action :=
    first.permits actor stand.1 action ∧ second.permits actor stand.2 action
  after stand action reply := (first.after stand.1 action reply, second.after stand.2 action reply)

theorem History.stand_both {Stands : Type} (first : Conduct Stand) (second : Conduct Stands)
    (history : History) (actor : Nat) :
    history.stand (first.both second) actor = (history.stand first actor, history.stand second actor) := by
  unfold History.stand
  change List.foldl _ (first.start, second.start) history = _
  generalize first.start = stand
  generalize second.start = stands
  induction history generalizing stand stands with
  | nil => rfl
  | cons happening rest induction =>
      have advance : (first.both second).advance actor (stand, stands) happening =
          (first.advance actor stand happening, second.advance actor stands happening) := by
        obtain ⟨other, action, reply⟩ := happening
        unfold Conduct.advance
        split
        · cases reply <;> rfl
        · rfl
      rw [List.foldl_cons, List.foldl_cons, List.foldl_cons, advance]
      exact induction _ _

theorem Script.Follows.both {Stands : Type} {first : Conduct Stand} {second : Conduct Stands}
    {ends : Result → Stand → Prop} {endsToo : Result → Stands → Prop} {script : Script Result}
    {actor : Nat} {stand : Stand} {stands : Stands} (follows : script.Follows first actor ends stand)
    (followsToo : script.Follows second actor endsToo stands) :
    script.Follows (first.both second) actor
      (fun result after => ends result after.1 ∧ endsToo result after.2) (stand, stands) := by
  induction script generalizing stand stands with
  | done result => exact ⟨follows, followsToo⟩
  | act action next induction =>
      exact ⟨⟨follows.1, followsToo.1⟩, fun reply => induction reply (follows.2 reply) (followsToo.2 reply)⟩

open Script Connection

/-- The parts of which scripts are made follow the conduct, from one idle stand to another. -/
structure Conduct.Suits (conduct : Conduct Stand) (setup : Setup) (IsIdle : Stand → Prop) : Prop where
  start : IsIdle conduct.start
  aside : ∀ {actor stand} {action : Action}, action.isAside = true → IsIdle stand →
    conduct.permits actor stand action ∧ ∀ reply, IsIdle (conduct.after stand action reply)
  opens : ∀ {actor stand}, IsIdle stand →
    conduct.permits actor stand (.movePhase .handshaking .opened) ∧
      ∀ isMoved, IsIdle (conduct.after stand (.movePhase .handshaking .opened) isMoved)
  sends : ∀ {actor stand frame}, frame.opcode ≠ .close → IsIdle stand →
    (transmit setup frame).Follows conduct actor (fun _ after => IsIdle after) stand
  claims : ∀ {actor stand}, IsIdle stand →
    conduct.permits actor stand (.movePhase .opened .closing) ∧
      IsIdle (conduct.after stand (.movePhase .opened .closing) false)
  closes : ∀ {actor stand} (code : Option UInt16) (reason : String), IsIdle stand →
    (sendCloseOnce setup (.close code reason)).Follows conduct actor (fun _ after => IsIdle after)
      (conduct.after stand (.movePhase .opened .closing) true)
  tearsDown : ∀ {actor stand}, IsIdle stand →
    (teardown setup).Follows conduct actor (fun _ after => IsIdle after) stand

theorem Routine.follows {conduct : Conduct Stand} {setup : Setup} {IsIdle : Stand → Prop}
    (suits : conduct.Suits setup IsIdle) {script : Script Result} (routine : Routine setup script)
    (actor : Nat) {stand : Stand} (idle : IsIdle stand) :
    script.Follows conduct actor (fun _ after => IsIdle after) stand := by
  induction routine generalizing stand with
  | done result => exact idle
  | aside isAside _ induction =>
      obtain ⟨permitted, after⟩ := suits.aside isAside idle
      exact ⟨permitted, fun reply => induction reply (after reply)⟩
  | opens _ induction =>
      obtain ⟨permitted, after⟩ := suits.opens idle
      exact ⟨permitted, fun isMoved => induction isMoved (after isMoved)⟩
  | sends ordinary _ induction =>
      exact (suits.sends ordinary idle).bind fun status _ after => induction status after
  | closes code reason owner _ _ _ induction late =>
      obtain ⟨permitted, unmoved⟩ := suits.claims idle
      refine ⟨permitted, fun isOwner => ?_⟩
      cases isOwner with
      | false => exact late unmoved
      | true =>
          rw [owner]
          exact (suits.closes code reason idle).bind fun status _ after => induction status after
  | tearsDown _ induction => exact (suits.tearsDown idle).bind fun _ _ after => induction after

namespace World

/-- What may begin in the course of a run, and what may happen from outside. -/
structure Setting where
  begins : Setup → Script (Option Task) → Prop
  drifts : Hub → Hub → Prop

/-- All runs in a setting, and what happens in them. -/
inductive RunIn (setting : Setting) (start : World) : History → World → Prop where
  | refl : RunIn setting start [] start
  | act {history : History} {world : World} {index : Nat} {actor : Actor} {action : Action}
      {next : action.Reply → Script (Option Task)} {effect : Effect action.Reply}
      (before : RunIn setting start history world) (here : world.actors[index]? = some actor)
      (doing : actor.script = .act action next)
      (member : effect ∈ action.effects world.setup index world.hub) :
      RunIn setting start (history ++ [⟨index, action, effect.reply⟩])
        (world.follow index action next effect)
  | goOn {history : History} {world : World} {index : Nat} {actor : Actor} {task : Task}
      (before : RunIn setting start history world) (here : world.actors[index]? = some actor)
      (ended : actor.script = .done (some task)) :
      RunIn setting start history (world.putActor index (task.script world.setup))
  | begin {history : History} {world : World} {script : Script (Option Task)}
      (before : RunIn setting start history world) (begins : setting.begins world.setup script) :
      RunIn setting start history (world.addActor ⟨script, false⟩)
  | drift {history : History} {world : World} {hub : Hub}
      (before : RunIn setting start history world) (drifts : setting.drifts world.hub hub) :
      RunIn setting start history { world with hub }

/-- Every actor follows the conduct from where it stands. -/
structure Obeys (conduct : Conduct Stand) (ends : Option Task → Stand → Prop) (history : History)
    (world : World) : Prop where
  follows : ∀ (index : Nat) (actor : Actor), world.actors[index]? = some actor →
    actor.script.Follows conduct index ends (history.stand conduct index)
  known : ∀ happening ∈ history, happening.actor < world.actors.length

/-- Whoever comes in follows the conduct, at a beginning and when a task goes on. -/
structure Setting.Respects (setting : Setting) (conduct : Conduct Stand)
    (ends : Option Task → Stand → Prop) (setup : Setup) : Prop where
  begins : ∀ {script}, setting.begins setup script →
    ∀ actor, script.Follows conduct actor ends conduct.start
  spawns : ∀ {actor stand task}, conduct.permits actor stand (.spawn task) →
    ∀ other, (task.script setup).Follows conduct other ends conduct.start
  resumes : ∀ {actor stand task}, ends (some task) stand →
    (task.script setup).Follows conduct actor ends stand

variable {setting : Setting} {conduct : Conduct Stand} {ends : Option Task → Stand → Prop}
variable {start world : World} {history : History}

theorem RunIn.setup_eq (run : start.RunIn setting history world) : world.setup = start.setup := by
  induction run with
  | refl => rfl
  | act _ _ _ _ induction =>
      rw [follow_eq]
      exact induction
  | goOn _ _ _ induction => exact induction
  | begin _ _ induction => exact induction
  | drift _ _ induction => exact induction

namespace Obeys

theorem addActor (obeys : Obeys conduct ends history world) {actor : Actor}
    (follows : actor.script.Follows conduct world.actors.length ends conduct.start) :
    Obeys conduct ends history (world.addActor actor) := by
  refine ⟨fun index found here => ?_, fun happening member => ?_⟩
  · rw [World.addActor, List.getElem?_append] at here
    split at here
    · exact obeys.follows index found here
    · rename_i late
      have last : index = world.actors.length := by
        have within := (List.getElem?_eq_some_iff.mp here).1
        rw [List.length_singleton] at within
        omega
      obtain rfl := List.mem_singleton.mp (List.mem_of_getElem? here)
      subst last
      rw [History.stand_unknown fun happening member => Nat.ne_of_lt (obeys.known happening member)]
      exact follows
  · have before := obeys.known happening member
    rw [World.addActor, List.length_append]
    omega

theorem addTasks (obeys : Obeys conduct ends history world) (setup : Setup) (tasks : List Task)
    (follow : ∀ task ∈ tasks, ∀ other, (task.script setup).Follows conduct other ends conduct.start) :
    Obeys conduct ends history
      (tasks.foldl (fun grown task => grown.addActor ⟨task.script setup, false⟩) world) := by
  induction tasks generalizing world with
  | nil => exact obeys
  | cons task rest induction =>
      refine induction (obeys.addActor (follow task List.mem_cons_self _)) fun other member => ?_
      exact follow other (List.mem_cons_of_mem task member)

theorem putActor (obeys : Obeys conduct ends history world) {later : History} {hub : Hub} {index : Nat}
    {script : Script (Option Task)}
    (known : ∀ happening ∈ later, happening.actor < world.actors.length)
    (others : ∀ other, index ≠ other → later.stand conduct other = history.stand conduct other)
    (follows : script.Follows conduct index ends (later.stand conduct index)) :
    Obeys conduct ends later (World.putActor { world with hub } index script) := by
  refine ⟨fun other actor here => ?_, fun happening member => ?_⟩
  · by_cases same : index = other
    · subst same
      rw [World.putActor, List.getElem?_modify_eq] at here
      obtain ⟨before, _, rfl⟩ := Option.map_eq_some_iff.mp here
      exact follows
    · rw [World.putActor, List.getElem?_modify_ne _ _ same] at here
      rw [others other same]
      exact obeys.follows other actor here
  · rw [World.putActor, List.length_modify]
    exact known happening member

end Obeys

end World

theorem Action.spawned_of_effect {setup : Setup} {actor : Nat} {action : Action} {hub : Hub}
    {effect : Effect action.Reply} (member : effect ∈ action.effects setup actor hub) :
    ∀ task ∈ effect.spawned, action = .spawn task := by
  cases action with
  | spawn task =>
      obtain rfl := List.mem_singleton.mp member
      intro other inside
      rw [List.mem_singleton.mp inside]
  | write bytes deadline =>
      simp only [Action.effects, Hub.transfer, Hub.answer] at member
      grind
  | flush deadline =>
      simp only [Action.effects, Hub.transfer, Hub.answer] at member
      grind
  | shutdown deadline =>
      simp only [Action.effects, Hub.transfer, Hub.answer] at member
      grind
  | read room deadline isCancellable =>
      simp only [Action.effects, Hub.receive, Hub.answer] at member
      grind
  | _ =>
      simp only [Action.effects, Hub.answer] at member
      grind

namespace World

variable {setting : Setting} {conduct : Conduct Stand} {ends : Option Task → Stand → Prop}
variable {start world : World} {history : History}

theorem Obeys.act (obeys : Obeys conduct ends history world)
    (respects : setting.Respects conduct ends world.setup) {index : Nat} {actor : Actor}
    {action : Action} {next : action.Reply → Script (Option Task)} {effect : Effect action.Reply}
    (here : world.actors[index]? = some actor) (doing : actor.script = .act action next)
    (member : effect ∈ action.effects world.setup index world.hub) :
    Obeys conduct ends (history ++ [⟨index, action, effect.reply⟩])
      (world.follow index action next effect) := by
  obtain ⟨permitted, goesOn⟩ := doing ▸ obeys.follows index actor here
  have known : ∀ happening ∈ history ++ [⟨index, action, effect.reply⟩],
      happening.actor < world.actors.length := by
    intro happening member
    rcases List.mem_append.mp member with member | member
    · exact obeys.known happening member
    · obtain rfl := List.mem_singleton.mp member
      exact (List.getElem?_eq_some_iff.mp here).1
  refine addTasks ?_ world.setup effect.spawned fun task inside => ?_
  · cases told : effect.reply with
    | some reply =>
        rw [told] at known
        refine obeys.putActor known (fun other elsewhere => History.stand_other elsewhere) ?_
        rw [History.stand_own]
        exact goesOn reply
    | none =>
        rw [told] at known
        refine ⟨fun other found there => ?_, known⟩
        rw [History.stand_waiting]
        exact obeys.follows other found there
  · exact respects.spawns (Action.spawned_of_effect member task inside ▸ permitted)

theorem actor_of_follow {world : World} {other : Nat} {actor : Actor} {action : Action}
    (here : world.actors[other]? = some actor) (index : Nat) (next : action.Reply → Script (Option Task))
    (effect : Effect action.Reply) :
    (world.follow index action next effect).actors[other]? = some (effect.reply.elim actor fun reply =>
      if index = other then { actor with script := next reply } else actor) := by
  have within := (List.getElem?_eq_some_iff.mp here).1
  rw [follow_eq]
  cases effect.reply with
  | none => exact (List.getElem?_append_left within).trans here
  | some reply =>
      refine (List.getElem?_append_left (by rwa [Option.elim_some, List.length_modify])).trans ?_
      rw [Option.elim_some, List.getElem?_modify, here]
      rfl

namespace RunIn

theorem obeys (respects : setting.Respects conduct ends start.setup)
    (first : Obeys conduct ends [] start) (run : start.RunIn setting history world) :
    Obeys conduct ends history world := by
  induction run with
  | refl => exact first
  | act before here doing member induction =>
      exact induction.act (before.setup_eq ▸ respects) here doing member
  | @goOn history world index actor task before here ended induction =>
      have permitted := induction.follows index actor here
      rw [ended] at permitted
      exact induction.putActor induction.known (fun _ _ => rfl)
        (before.setup_eq ▸ respects.resumes permitted)
  | begin before begins induction =>
      exact induction.addActor (respects.begins (before.setup_eq ▸ begins) _)
  | drift _ _ induction => exact ⟨induction.follows, induction.known⟩

/-- What holds at first, is left alone from outside and is preserved by every
permitted action holds throughout. -/
theorem invariant (Holds : History → Hub → Prop)
    (respects : setting.Respects conduct ends start.setup) (obeys : Obeys conduct ends [] start) (first : Holds [] start.hub)
    (drifts : ∀ {history hub next}, Holds history hub → setting.drifts hub next → Holds history next)
    (steps : ∀ {history hub actor} {action : Action} {effect : Effect action.Reply},
      Holds history hub → conduct.permits actor (history.stand conduct actor) action →
      effect ∈ action.effects start.setup actor hub →
      Holds (history ++ [⟨actor, action, effect.reply⟩]) effect.hub)
    (run : start.RunIn setting history world) : Holds history world.hub := by
  induction run with
  | refl => exact first
  | @act history world index actor action next effect before here doing member induction =>
      have permitted := (before.obeys respects obeys).follows index actor here
      rw [doing] at permitted
      rw [follow_eq]
      exact steps induction permitted.1 (before.setup_eq ▸ member)
  | goOn _ _ _ induction => exact induction
  | begin _ _ induction => exact induction
  | drift _ outside induction => exact drifts induction outside

/-- What happened at a place of the history was one of the effects of the action
that its actor had come to. -/
theorem at_place (run : start.RunIn setting history world) {place : Nat} {happening : Happening}
    (found : history[place]? = some happening) :
    ∃ before actor next effect, start.RunIn setting (history.take place) before ∧
      before.actors[happening.actor]? = some actor ∧
      actor.script = .act happening.action next ∧
      effect ∈ happening.action.effects start.setup happening.actor before.hub ∧
      effect.reply = happening.reply := by
  induction run with
  | refl => cases found
  | @act history world index actor action next effect before here doing member induction =>
      rcases History.of_append found with ⟨earlier, found⟩ | ⟨rfl, rfl⟩
      · rw [List.take_append_of_le_length (Nat.le_of_lt earlier)]
        exact induction found
      · rw [List.take_left]
        exact ⟨world, actor, next, effect, before, here, doing, before.setup_eq ▸ member, rfl⟩
  | goOn _ _ _ induction => exact induction found
  | begin _ _ induction => exact induction found
  | drift _ _ induction => exact induction found

theorem act_once (run : start.RunIn setting history world) {index : Nat} {actor : Actor}
    {action : Action} {next : action.Reply → Script (Option Task)} {hub : Hub} {reply : action.Reply}
    (here : world.actors[index]? = some actor) (doing : actor.script = .act action next)
    (member : (⟨hub, some reply, []⟩ : Effect action.Reply) ∈
      action.effects world.setup index world.hub) :
    ∃ after, start.RunIn setting (history ++ [⟨index, action, some reply⟩]) after ∧
      after.hub = hub ∧ after.actors[index]? = some { actor with script := next reply } ∧
      ∀ other, index ≠ other → after.actors[other]? = world.actors[other]? := by
  have actors : (world.follow index action next ⟨hub, some reply, []⟩).actors =
      world.actors.modify index fun actor => { actor with script := next reply } := by
    rw [follow_eq]
    exact List.append_nil _
  refine ⟨_, .act run here doing member, by rw [follow_eq], ?_, fun other elsewhere => ?_⟩
  · rw [actors, List.getElem?_modify_eq, here]
    rfl
  · rw [actors, List.getElem?_modify_ne _ _ elsewhere]

theorem trans {middle : World} {later : History} (run : start.RunIn setting history middle)
    (behind : middle.RunIn setting later world) : start.RunIn setting (history ++ later) world := by
  induction behind with
  | refl => rwa [List.append_nil]
  | act _ here doing member induction =>
      rw [← List.append_assoc]
      exact .act induction here doing member
  | goOn _ here ended induction => exact .goOn induction here ended
  | begin _ begins induction => exact .begin induction begins
  | drift _ drifts induction => exact .drift induction drifts

/-- An actor that leaves nothing to a task follows the conduct from its beginning on,
whatever the others do. -/
theorem follows_from {index : Nat} {script : Script (Option Task)} {isAbortable : Bool}
    (here : start.actors[index]? = some ⟨script, isAbortable⟩)
    (follows : script.Follows conduct index ends conduct.start)
    (leaves : ∀ task stand, ¬ends (some task) stand) (run : start.RunIn setting history world) :
    ∃ rest, world.actors[index]? = some ⟨rest, isAbortable⟩ ∧
      rest.Follows conduct index ends (history.stand conduct index) := by
  induction run with
  | refl => exact ⟨script, here, follows⟩
  | @act history world other doer action next effect before there doing member induction =>
      obtain ⟨rest, found, follows⟩ := induction
      have after := actor_of_follow found other next effect
      cases told : effect.reply with
      | none =>
          rw [told] at after
          rw [History.stand_waiting]
          exact ⟨rest, after, follows⟩
      | some reply =>
          rw [told, Option.elim_some] at after
          by_cases own : other = index
          · subst own
            cases there.symm.trans found
            subst doing
            rw [if_pos rfl] at after
            rw [History.stand_own]
            exact ⟨next reply, after, follows.2 reply⟩
          · rw [if_neg own] at after
            rw [History.stand_other own]
            exact ⟨rest, after, follows⟩
  | @goOn history world other doer task before there ended induction =>
      obtain ⟨rest, found, follows⟩ := induction
      by_cases own : other = index
      · subst own
        cases there.symm.trans found
        subst ended
        exact absurd follows (leaves task _)
      · exact ⟨rest, by rwa [putActor, List.getElem?_modify_ne _ _ own], follows⟩
  | begin _ _ induction =>
      obtain ⟨rest, found, follows⟩ := induction
      have within := (List.getElem?_eq_some_iff.mp found).1
      exact ⟨rest, (List.getElem?_append_left within).trans found, follows⟩
  | drift _ _ induction => exact induction

end RunIn

end World

end WebSocket
