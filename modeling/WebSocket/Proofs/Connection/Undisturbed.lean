import WebSocket.Connection.World

/-!
Runs of one actor that nobody disturbs. `Safe` says of a script that it keeps a
condition at every action, that every action is answered some time, and that the
script's result satisfies a postcondition. Both halves carry over to the runs of
a world that holds nothing but this actor.
-/

namespace WebSocket

/-- The hub some time later. -/
def Hub.after (hub : Hub) (time : Nat) : Hub := { hub with now := hub.now + time }

namespace World

/-- Runs in which nothing comes from outside. Time may pass at any moment. -/
inductive Undisturbed (start : World) : World → Prop where
  | refl : Undisturbed start start
  | move {world next : World} (before : Undisturbed start world) (index : Nat)
      (member : next ∈ world.moves index) : Undisturbed start next
  | tick {world : World} (before : Undisturbed start world) :
      Undisturbed start { world with hub := world.hub.after 1 }

theorem Undisturbed.trans {first second third : World} (before : Undisturbed first second)
    (behind : Undisturbed second third) : Undisturbed first third := by
  induction behind with
  | refl => exact before
  | move _ index member induction => exact induction.move index member
  | tick _ induction => exact induction.tick

/-- A world of one actor. -/
def solo (setup : Setup) (hub : Hub) (script : Script (Option Task)) : World :=
  ⟨setup, hub, [⟨script, false⟩]⟩

end World

namespace Script

variable {Result Other : Type} (setup : Setup) (during : Action → Hub → Prop)

/-- What becomes of the hub while an action waits for its answer: time passes, or
the action gets further without one. -/
inductive Waiting (action : Action) (hub : Hub) : Hub → Prop where
  | refl : Waiting action hub hub
  | tick {now : Hub} (before : Waiting action hub now) : Waiting action hub (now.after 1)
  | further {now : Hub} (before : Waiting action hub now) {effect : Effect action.Reply}
      (member : effect ∈ action.effects setup 0 now) (silent : effect.reply = none)
      (alone : effect.spawned = []) : Waiting action hub effect.hub

def Answered (action : Action) (hub : Hub) : Prop :=
  ∃ later, Waiting setup action hub later ∧
    ∃ effect ∈ action.effects setup 0 later, effect.reply.isSome

/-- At every action of the script `during` holds, at its end `post` does, and it
cannot get stuck. While an action waits, `holds` describes the hub. -/
def Safe (post : Result → Hub → Prop) : Script Result → Hub → Prop
  | done result, hub => post result hub
  | act action next, hub =>
      ∃ holds : Hub → Prop, holds hub ∧ ∀ now, holds now →
        during action now ∧ holds (now.after 1) ∧ Answered setup action now ∧
        ∀ effect ∈ action.effects setup 0 now, effect.spawned = [] ∧
          (effect.reply = none → holds effect.hub) ∧
          ∀ reply, effect.reply = some reply → Safe post (next reply) effect.hub

variable {setup during}

theorem safe_mono {post weaker : Result → Hub → Prop}
    (weaken : ∀ result hub, post result hub → weaker result hub) {script : Script Result}
    {hub : Hub} (safe : script.Safe setup during post hub) : script.Safe setup during weaker hub := by
  induction script generalizing hub with
  | done result => exact weaken result hub safe
  | act action next induction =>
      obtain ⟨holds, start, steady⟩ := safe
      refine ⟨holds, start, fun now held => ?_⟩
      obtain ⟨kept, later, answered, effects⟩ := steady now held
      refine ⟨kept, later, answered, fun effect member => ?_⟩
      obtain ⟨alone, silent, answer⟩ := effects effect member
      exact ⟨alone, silent, fun reply told => induction reply (answer reply told)⟩

theorem safe_bind {post : Other → Hub → Prop} {script : Script Result}
    {next : Result → Script Other} {hub : Hub}
    (safe : script.Safe setup during (fun result => (next result).Safe setup during post) hub) :
    (script.bind next).Safe setup during post hub := by
  induction script generalizing hub with
  | done result => exact safe
  | act action rest induction =>
      obtain ⟨holds, start, steady⟩ := safe
      refine ⟨holds, start, fun now held => ?_⟩
      obtain ⟨kept, later, answered, effects⟩ := steady now held
      refine ⟨kept, later, answered, fun effect member => ?_⟩
      obtain ⟨alone, silent, answer⟩ := effects effect member
      exact ⟨alone, silent, fun reply told => induction reply (answer reply told)⟩

theorem safe_answer {post : Result → Hub → Prop} {action : Action}
    {next : action.Reply → Script Result} {hub : Hub} (holds : Hub → Prop) (start : holds hub)
    (later : ∀ now, holds now → holds (now.after 1)) (kept : ∀ now, holds now → during action now)
    (answer : ∀ now, holds now → ∃ reply hub, action.effects setup 0 now = [⟨hub, some reply, []⟩] ∧
      (next reply).Safe setup during post hub) :
    (act action next).Safe setup during post hub := by
  refine ⟨holds, start, fun now held => ⟨kept now held, later now held, ?_, ?_⟩⟩
  · obtain ⟨reply, answered, effects, _⟩ := answer now held
    exact ⟨now, .refl, _, effects ▸ List.mem_singleton_self _, rfl⟩
  · intro effect member
    obtain ⟨reply, answered, effects, safe⟩ := answer now held
    rw [effects, List.mem_singleton] at member
    subst member
    refine ⟨rfl, fun absent => (Option.some_ne_none _ absent).elim, fun told same => ?_⟩
    cases same
    exact safe

theorem Waiting.trans {action : Action} {first second third : Hub}
    (before : Waiting setup action first second) (behind : Waiting setup action second third) :
    Waiting setup action first third := by
  induction behind with
  | refl => exact before
  | tick _ induction => exact induction.tick
  | further _ member silent alone induction => exact induction.further member silent alone

theorem waiting_after (setup : Setup) (action : Action) (hub : Hub) (time : Nat) :
    Waiting setup action hub (hub.after time) := by
  induction time with
  | zero => exact .refl
  | succ time induction => exact induction.tick

theorem Answered.of_waiting {action : Action} {hub now : Hub}
    (waiting : Waiting setup action hub now) (answered : Answered setup action now) :
    Answered setup action hub := by
  obtain ⟨later, behind, answer⟩ := answered
  exact ⟨later, waiting.trans behind, answer⟩

theorem safe_after {post : Result → Hub → Prop}
    (later : ∀ result hub, post result hub → post result (hub.after 1)) {script : Script Result}
    {hub : Hub} (safe : script.Safe setup during post hub) :
    script.Safe setup during post (hub.after 1) := by
  cases script with
  | done result => exact later result hub safe
  | act action next =>
      obtain ⟨holds, start, steady⟩ := safe
      exact ⟨holds, (steady hub start).2.1, steady⟩

end Script

namespace World

open Script

variable {setup : Setup} {during : Action → Hub → Prop}

theorem solo_follow {hub : Hub} {action : Action} {next : action.Reply → Script (Option Task)}
    {effect : Effect action.Reply} (alone : effect.spawned = []) :
    (solo setup hub (act action next)).follow 0 action next effect =
      solo setup effect.hub (effect.reply.elim (act action next) next) := by
  cases told : effect.reply <;> simp [follow, solo, putActor, alone, told]

theorem mem_solo_moves_act {hub : Hub} {action : Action}
    {next : action.Reply → Script (Option Task)} {index : Nat} {world : World}
    (member : world ∈ (solo setup hub (act action next)).moves index) :
    index = 0 ∧ ∃ effect ∈ action.effects setup 0 hub,
      (solo setup hub (act action next)).follow 0 action next effect = world := by
  cases index with
  | zero =>
      refine ⟨rfl, ?_⟩
      simp only [moves, solo, List.getElem?_cons_zero] at member
      cases effects : action.effects setup 0 hub with
      | nil => simp [effects] at member
      | cons effect more =>
          rw [effects] at member
          exact List.mem_map.mp member
  | succ index => simp [moves, solo] at member

theorem solo_moves_of_effect {hub : Hub} {action : Action}
    (next : action.Reply → Script (Option Task)) {effect : Effect action.Reply}
    (member : effect ∈ action.effects setup 0 hub) (alone : effect.spawned = []) :
    solo setup effect.hub (effect.reply.elim (act action next) next) ∈
      (solo setup hub (act action next)).moves 0 := by
  rw [← solo_follow alone]
  simp only [moves, solo, List.getElem?_cons_zero]
  cases effects : action.effects setup 0 hub with
  | nil => simp [effects] at member
  | cons first more =>
      rw [effects] at member
      exact List.mem_map_of_mem member

theorem mem_solo_moves_done {hub : Hub} {result : Option Task} {index : Nat} {world : World}
    (member : world ∈ (solo setup hub (done result)).moves index) :
    ∃ task, result = some task ∧ world = solo setup hub (task.script setup) := by
  cases index with
  | zero =>
      cases result with
      | none => simp [moves, solo] at member
      | some task =>
          refine ⟨task, rfl, ?_⟩
          simpa [moves, solo, putActor] using member
  | succ index => simp [moves, solo] at member

theorem Undisturbed.answer {start : World} {hub later : Hub} {action : Action}
    {next : action.Reply → Script (Option Task)} {reply : action.Reply}
    (before : Undisturbed start (solo setup hub (act action next)))
    (effects : action.effects setup 0 hub = [⟨later, some reply, []⟩]) :
    Undisturbed start (solo setup later (next reply)) :=
  before.move 0 (solo_moves_of_effect next (effects ▸ List.mem_singleton_self _) rfl)

theorem solo_moves_of_done (hub : Hub) (task : Task) :
    solo setup hub (task.script setup) ∈ (solo setup hub (done (some task))).moves 0 := by
  simp [moves, solo, putActor]

/-- A safe actor stays safe, from task to task, as long as nobody disturbs it. -/
theorem safe_of_undisturbed {post : Option Task → Hub → Prop}
    (later : ∀ result hub, post result hub → post result (hub.after 1))
    (goesOn : ∀ task hub, post (some task) hub → (task.script setup).Safe setup during post hub)
    {hub : Hub} {script : Script (Option Task)} (safe : script.Safe setup during post hub)
    {world : World} (run : Undisturbed (solo setup hub script) world) :
    ∃ now rest, world = solo setup now rest ∧ rest.Safe setup during post now := by
  induction run with
  | refl => exact ⟨hub, script, rfl, safe⟩
  | tick _ induction =>
      obtain ⟨now, rest, rfl, safe⟩ := induction
      exact ⟨now.after 1, rest, rfl, safe_after later safe⟩
  | move _ index member induction =>
      obtain ⟨now, rest, rfl, safe⟩ := induction
      cases rest with
      | done result =>
          obtain ⟨task, rfl, rfl⟩ := mem_solo_moves_done member
          exact ⟨now, _, rfl, goesOn task now safe⟩
      | act action next =>
          obtain ⟨_, effect, possible, rfl⟩ := mem_solo_moves_act member
          obtain ⟨holds, start, steady⟩ := safe
          obtain ⟨alone, silent, answer⟩ := (steady now start).2.2.2 effect possible
          refine ⟨_, _, solo_follow alone, ?_⟩
          cases told : effect.reply with
          | none => exact ⟨holds, silent told, steady⟩
          | some reply => exact answer reply told

theorem undisturbed_of_waiting {action : Action} {next : action.Reply → Script (Option Task)}
    {hub later : Hub} (waiting : Waiting setup action hub later) :
    Undisturbed (solo setup hub (act action next)) (solo setup later (act action next)) := by
  induction waiting with
  | refl => exact .refl
  | tick _ induction => exact induction.tick
  | further _ member silent alone induction =>
      have moved := solo_moves_of_effect next member alone
      rw [silent] at moved
      exact induction.move 0 moved

/-- A safe script can always be brought to its end. -/
theorem undisturbed_to_done {post : Option Task → Hub → Prop} {hub : Hub}
    {script : Script (Option Task)} (safe : script.Safe setup during post hub) :
    ∃ result now, Undisturbed (solo setup hub script) (solo setup now (done result)) ∧
      post result now := by
  induction script generalizing hub with
  | done result => exact ⟨result, hub, .refl, safe⟩
  | act action next induction =>
      obtain ⟨holds, start, steady⟩ := safe
      obtain ⟨later, waiting, effect, member, told⟩ := (steady hub start).2.2.1
      have held : holds later := by
        clear member told
        induction waiting with
        | refl => exact start
        | tick _ kept => exact (steady _ kept).2.1
        | further _ member silent _ kept => exact ((steady _ kept).2.2.2 _ member).2.1 silent
      obtain ⟨alone, _, answer⟩ := (steady later held).2.2.2 effect member
      obtain ⟨reply, told⟩ := Option.isSome_iff_exists.mp told
      obtain ⟨result, now, run, satisfied⟩ := induction reply (answer reply told)
      have moved := solo_moves_of_effect next member alone
      rw [told] at moved
      exact ⟨result, now, ((undisturbed_of_waiting waiting).move 0 moved).trans run, satisfied⟩

end World

end WebSocket
