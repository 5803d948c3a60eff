import WebSocket.Proofs.Connection.Release
import WebSocket.Proofs.Connection.Sending
import WebSocket.Proofs.Connection.Yields

/-!
Runs of one actor from stage to stage. As long as an actor is alone, its run either is still
within the first part of its script or has come to what follows on it, and a safe part can always
be brought to its end. An actor that gives up once the token is cancelled does so where an action
has no effect. Behind its last prompt actions nobody can keep it from its report.
-/

namespace WebSocket

def Action.IsPrompt : Action → Prop
  | spawn _ | openScheduler | attachScheduler _ => True
  | _ => False

/-- The conduct of an actor that has nothing to wait for until it has reported. -/
def Conduct.concluding (id : Nat) (content : Report) : Conduct Prop where
  start := False
  permits _ _ action := action.IsPrompt ∨ action = .report id content
  after isReported action _ := isReported ∨ action = .report id content

theorem History.reported_of_stand {id index : Nat} {content : Report} {history : History}
    (reported : history.stand (.concluding id content) index) :
    ⟨index, .report id content, some ()⟩ ∈ history := by
  revert reported
  refine stand_induction (motive := fun history isReported =>
    isReported → ⟨index, .report id content, some ()⟩ ∈ history) ?_ ?_ ?_ history
  · exact False.elim
  · rintro history action reply before (reported | rfl)
    · exact List.mem_append_left _ (before reported)
    · exact List.mem_append_right _ (List.mem_singleton_self _)
  · exact fun history happening _ before reported => List.mem_append_left _ (before reported)

namespace Script

/-- All that is done is prompt, and at the end this has been reported. -/
def Concludes (id : Nat) (content : Report) (index : Nat) (isReported : Prop)
    (script : Script (Option Task)) : Prop :=
  script.Follows (.concluding id content) index (fun task isReported => task = none ∧ isReported)
    isReported

theorem concludes_bind {Result : Type} {id index : Nat} {content : Report} {isReported : Prop}
    {script : Script Result} {next : Result → Script (Option Task)}
    (prompt : script.All Action.IsPrompt)
    (concludes : ∀ result isReported, (next result).Concludes id content index isReported) :
    (script.bind next).Concludes id content index isReported := by
  induction script generalizing isReported with
  | done result => exact concludes result isReported
  | act action rest induction =>
      exact ⟨.inl prompt.1, fun reply => induction reply (prompt.2 reply)⟩

/-- What holds at the end of a safe script, and that the script comes to its end there when it is
followed by something else. -/
theorem safe_reached {Result : Type} {setup : Setup} {during : Action → Hub → Prop}
    {post : Result → Hub → Prop} {script : Script Result} {hub : Hub}
    (safe : script.Safe setup during post hub) (next : Result → Script (Option Task)) :
    script.Safe setup during
      (fun result now => post result now ∧ ∃ history,
        (World.solo setup hub (script.bind next)).RunIn World.alone history
          (World.solo setup now (next result))) hub := by
  suffices reached : ∀ start : World,
      (∃ history, start.RunIn World.alone history (World.solo setup hub (script.bind next))) →
      script.Safe setup during
        (fun result now => post result now ∧ ∃ history,
          start.RunIn World.alone history (World.solo setup now (next result))) hub from
    reached _ ⟨[], .refl⟩
  intro start came
  induction script generalizing hub with
  | done result => exact ⟨safe, came⟩
  | act action rest induction =>
      obtain ⟨holds, first, steady⟩ := safe
      refine ⟨fun now => holds now ∧ ∃ history, start.RunIn World.alone history
          (World.solo setup now (act action fun reply => (rest reply).bind next)),
        ⟨first, came⟩, ?_⟩
      rintro now ⟨held, history, run⟩
      obtain ⟨met, kept, answered, effects⟩ := steady now held
      refine ⟨met, ⟨kept, history, .drift run rfl⟩, answered, fun effect member => ?_⟩
      obtain ⟨unspawned, silent, answer⟩ := effects effect member
      have moved := World.RunIn.act run rfl rfl member
      rw [World.solo_follow unspawned] at moved
      refine ⟨unspawned, fun told => ⟨silent told, _, told ▸ moved⟩, fun reply told => ?_⟩
      rw [told] at moved
      exact induction reply (answer reply told) ⟨_, moved⟩

end Script

namespace World

open Script

variable {setting : Setting} {start world : World} {history : History}

def lone (setup : Setup) (hub : Hub) (script : Script (Option Task)) : World :=
  ⟨setup, hub, [⟨script, true⟩]⟩

/-- The actor can do nothing more than to give up. -/
def GivesUp (world : World) (index : Nat) : Prop :=
  ∃ action next, world.actors[index]? = some ⟨.act action next, true⟩ ∧
    action.effects world.setup index world.hub = [] ∧ world.hub.isCancelled = true

theorem moves_of_gives_up {index : Nat} (givesUp : world.GivesUp index) :
    world.moves index = [world.abort index] := by
  obtain ⟨action, next, here, stuck, cancelled⟩ := givesUp
  simp [moves, here, stuck, cancelled]

instance (world : World) (index : Nat) : Decidable (world.GivesUp index) :=
  match here : world.actors[index]? with
  | some ⟨.act action next, true⟩ =>
      decidable_of_iff
        ((action.effects world.setup index world.hub).isEmpty = true ∧ world.hub.isCancelled = true)
        ⟨fun ⟨stuck, cancelled⟩ => ⟨action, next, here, List.isEmpty_iff.mp stuck, cancelled⟩,
          fun ⟨_, _, there, stuck, cancelled⟩ => by
            cases here.symm.trans there
            exact ⟨List.isEmpty_iff.mpr stuck, cancelled⟩⟩
  | some ⟨.act _ _, false⟩ => .isFalse fun ⟨_, _, there, _⟩ => nomatch here.symm.trans there
  | some ⟨.done _, _⟩ => .isFalse fun ⟨_, _, there, _⟩ => nomatch here.symm.trans there
  | none => .isFalse fun ⟨_, _, there, _⟩ => nomatch here.symm.trans there

def HasReturned (world : World) (index : Nat) : Prop :=
  world.actors[index]? = some ⟨.done none, true⟩

instance (world : World) (index : Nat) : Decidable (world.HasReturned index) :=
  match here : world.actors[index]? with
  | some ⟨.done none, true⟩ => .isTrue here
  | some ⟨.done none, false⟩ => .isFalse fun there => nomatch here.symm.trans there
  | some ⟨.done (some _), _⟩ => .isFalse fun there => nomatch here.symm.trans there
  | some ⟨.act _ _, _⟩ => .isFalse fun there => nomatch here.symm.trans there
  | none => .isFalse fun there => nomatch here.symm.trans there

variable {setup : Setup} {hub : Hub}

theorem lone_follow {action : Action} {next : action.Reply → Script (Option Task)}
    {effect : Effect action.Reply} (unspawned : effect.spawned = []) :
    (lone setup hub (act action next)).follow 0 action next effect =
      lone setup effect.hub (effect.reply.elim (act action next) next) := by
  cases told : effect.reply <;> simp [follow, lone, putActor, unspawned, told]

theorem starts_alone (setup : Setup) (hub : Hub) (script : Script (Option Task)) :
    (lone setup hub script).actors[0]? = some ⟨script, true⟩ :=
  rfl

theorem of_lone {script : Script (Option Task)} {index : Nat} {actor : Actor}
    (here : (lone setup hub script).actors[index]? = some actor) :
    index = 0 ∧ actor = ⟨script, true⟩ := by
  cases index with
  | zero => exact ⟨rfl, (Option.some.inj here).symm⟩
  | succ index => cases here

section

variable {Result : Type} {during : Action → Hub → Prop} {post : Result → Hub → Prop}
variable {first : Script Result} {next : Result → Script (Option Task)}

/-- A run that is within the first part of the script. -/
def IsWithin (setup : Setup) (during : Action → Hub → Prop) (post : Result → Hub → Prop)
    (next : Result → Script (Option Task)) (world : World) : Prop :=
  ∃ now action rest, world = lone setup now (act action fun reply => (rest reply).bind next) ∧
    (act action rest).Safe setup during post now

def IsBehind (setup : Setup) (post : Result → Hub → Prop) (next : Result → Script (Option Task))
    (start : World) (history : History) (world : World) : Prop :=
  ∃ before behind now result, history = before ++ behind ∧ post result now ∧
    start.RunIn alone before (lone setup now (next result)) ∧
    (lone setup now (next result)).RunIn alone behind world

theorem within_or_behind (safe : first.Safe setup during post hub)
    (run : start.RunIn alone history (lone setup hub (first.bind next))) :
    IsWithin setup during post next (lone setup hub (first.bind next)) ∨
      IsBehind setup post next start history (lone setup hub (first.bind next)) := by
  cases first with
  | done result =>
      exact .inr ⟨history, [], hub, result, (List.append_nil _).symm, safe, run, .refl⟩
  | act action rest => exact .inl ⟨hub, action, rest, rfl, safe⟩

/-- A run of a script in two parts of which the first one is safe. -/
theorem stage_of_run (safe : first.Safe setup during post hub)
    (run : (lone setup hub (first.bind next)).RunIn alone history world) :
    IsWithin setup during post next world ∨
      IsBehind setup post next (lone setup hub (first.bind next)) history world := by
  induction run with
  | refl => exact within_or_behind safe .refl
  | begin _ begins _ => exact begins.elim
  | drift run drifts induction =>
      rcases induction with ⟨now, action, rest, rfl, holds, held, steady⟩ |
        ⟨before, behind, now, result, rfl, ends, came, further⟩
      · obtain rfl := drifts
        exact .inl ⟨_, action, rest, rfl, holds, (steady now held).2.1, steady⟩
      · exact .inr ⟨before, behind, now, result, rfl, ends, came, .drift further drifts⟩
  | goOn run here ended induction =>
      rcases induction with ⟨now, action, rest, rfl, -⟩ |
        ⟨before, behind, now, result, rfl, ends, came, further⟩
      · obtain ⟨rfl, rfl⟩ := of_lone here
        cases ended
      · exact .inr ⟨before, behind, now, result, rfl, ends, came, .goOn further here ended⟩
  | act run here doing member induction =>
      rcases induction with ⟨now, action, rest, rfl, holds, held, steady⟩ |
        ⟨before, behind, now, result, rfl, ends, came, further⟩
      · obtain ⟨rfl, rfl⟩ := of_lone here
        cases doing
        obtain ⟨unspawned, silent, answer⟩ := (steady now held).2.2.2 _ member
        have moved := RunIn.act run here rfl member
        rw [lone_follow unspawned] at moved ⊢
        generalize replied : Effect.reply _ = reply at moved silent answer ⊢
        cases reply with
        | none => exact .inl ⟨_, _, rest, rfl, holds, silent rfl, steady⟩
        | some reply => exact within_or_behind (answer reply rfl) moved
      · refine .inr ⟨before, _, now, result, List.append_assoc _ _ _, ends, came, ?_⟩
        exact .act further here doing member

theorem begins_of_run {action : Action} {next : action.Reply → Script (Option Task)}
    (replies : ∀ now, ∀ effect ∈ action.effects setup 0 now, ∃ reply, effect.reply = some reply)
    (run : (lone setup hub (act action next)).RunIn alone history world) :
    (history = [] ∧ ∃ now, world = lone setup now (act action next)) ∨
      ∃ reply more, history = ⟨0, action, some reply⟩ :: more := by
  induction run with
  | refl => exact .inl ⟨rfl, hub, rfl⟩
  | begin _ begins _ => exact begins.elim
  | drift _ drifts induction =>
      rcases induction with ⟨rfl, now, rfl⟩ | begun
      · exact .inl ⟨rfl, _, rfl⟩
      · exact .inr begun
  | goOn _ here ended induction =>
      rcases induction with ⟨rfl, now, rfl⟩ | begun
      · obtain ⟨rfl, rfl⟩ := of_lone here
        cases ended
      · exact .inr begun
  | act _ here doing member induction =>
      rcases induction with ⟨rfl, now, rfl⟩ | ⟨reply, more, rfl⟩
      · obtain ⟨rfl, rfl⟩ := of_lone here
        cases doing
        obtain ⟨reply, told⟩ := replies now _ member
        exact .inr ⟨reply, [], by rw [told]; rfl⟩
      · exact .inr ⟨reply, _, rfl⟩

theorem idle_of_run (run : (lone setup hub (done none)).RunIn alone history world) :
    ∃ time, world = lone setup (hub.after time) (done none) := by
  induction run with
  | refl => exact ⟨0, rfl⟩
  | begin _ begins _ => exact begins.elim
  | drift _ drifts induction =>
      obtain ⟨time, rfl⟩ := induction
      obtain rfl := drifts
      exact ⟨time + 1, rfl⟩
  | goOn _ here ended induction =>
      obtain ⟨time, rfl⟩ := induction
      obtain ⟨rfl, rfl⟩ := of_lone here
      cases ended
  | act _ here doing _ induction =>
      obtain ⟨time, rfl⟩ := induction
      obtain ⟨rfl, rfl⟩ := of_lone here
      cases doing

theorem lone_of_waiting {action : Action} {later : Hub} (waiting : Waiting setup action hub later)
    (next : action.Reply → Script (Option Task)) :
    ∃ history, (lone setup hub (act action next)).RunIn alone history
      (lone setup later (act action next)) := by
  induction waiting with
  | refl => exact ⟨[], .refl⟩
  | tick _ induction =>
      obtain ⟨history, run⟩ := induction
      exact ⟨history, .drift run rfl⟩
  | further _ member silent unspawned induction =>
      obtain ⟨history, run⟩ := induction
      have moved := RunIn.act run rfl rfl member
      rw [lone_follow unspawned, silent] at moved
      exact ⟨_, moved⟩

theorem comes_through (safe : first.Safe setup during post hub)
    (next : Result → Script (Option Task)) :
    ∃ later now result, (lone setup hub (first.bind next)).RunIn alone later
      (lone setup now (next result)) ∧ post result now := by
  induction first generalizing hub with
  | done result => exact ⟨[], hub, result, .refl, safe⟩
  | act action rest induction =>
      obtain ⟨holds, held, steady⟩ := safe
      obtain ⟨later, waiting, effect, member, told⟩ := (steady hub held).2.2.1
      have heldThen : holds later := by
        clear member told
        induction waiting with
        | refl => exact held
        | tick _ kept => exact (steady _ kept).2.1
        | further _ member silent _ kept => exact ((steady _ kept).2.2.2 _ member).2.1 silent
      obtain ⟨unspawned, -, answer⟩ := (steady later heldThen).2.2.2 effect member
      obtain ⟨reply, told⟩ := Option.isSome_iff_exists.mp told
      obtain ⟨waits, waited⟩ := lone_of_waiting waiting fun reply => (rest reply).bind next
      obtain ⟨behind, now, result, run, ends⟩ := induction reply (answer reply told)
      have moved := RunIn.act waited rfl rfl member
      rw [lone_follow unspawned, told] at moved
      exact ⟨_, now, result, moved.trans run, ends⟩

end

theorem effect_of_concluding {id : Nat} {content : Report} {action : Action}
    (permitted : action.IsPrompt ∨ action = .report id content) (setup : Setup) (actor : Nat)
    (hub : Hub) :
    ∃ effect reply, action.effects setup actor hub = [effect] ∧ effect.reply = some reply := by
  rcases permitted with prompt | rfl
  · cases action with
    | spawn | openScheduler | attachScheduler => exact ⟨_, _, rfl, rfl⟩
    | _ => exact prompt.elim
  · exact ⟨_, (), rfl, rfl⟩

/-- What an actor does that concludes, whatever the others do meanwhile. -/
theorem concludes_of_run {id index : Nat} {content : Report} {script : Script (Option Task)}
    (here : start.actors[index]? = some ⟨script, true⟩)
    (concludes : script.Concludes id content index False)
    (run : start.RunIn setting history world) :
    (∀ happening ∈ history, happening.actor = index →
      happening.action.IsPrompt ∨ happening.action = .report id content) ∧
    (∃ rest isReported, world.actors[index]? = some ⟨rest, true⟩ ∧
      rest.Concludes id content index isReported) ∧
    (world.HasReturned index → ⟨index, .report id content, some ()⟩ ∈ history) := by
  have leaves : ∀ (task : Task) isReported, ¬(some task = none ∧ isReported) := nofun
  obtain ⟨rest, found, follows⟩ := run.follows_from here concludes leaves
  refine ⟨?_, ⟨rest, _, found, follows⟩, fun returned => ?_⟩
  · intro happening member own
    obtain ⟨place, found⟩ := List.mem_iff_getElem?.mp member
    obtain ⟨before, actor, next, effect, earlier, there, doing, -⟩ := run.at_place found
    obtain ⟨rest, same, follows⟩ := earlier.follows_from here concludes leaves
    subst own
    cases there.symm.trans same
    subst doing
    exact follows.1
  · cases returned.symm.trans found
    exact History.reported_of_stand follows.2

/-- Nobody can keep an actor that concludes from its end. -/
theorem concludes_to_end {id index : Nat} {content : Report} {isReported : Prop}
    {script : Script (Option Task)} (here : world.actors[index]? = some ⟨script, true⟩)
    (concludes : script.Concludes id content index isReported) :
    ∃ later final, world.RunIn setting later final ∧ final.HasReturned index := by
  induction script generalizing world isReported with
  | done result =>
      obtain ⟨rfl, -⟩ := concludes
      exact ⟨[], world, .refl, here⟩
  | act action next induction =>
      obtain ⟨effect, reply, effects, told⟩ :=
        effect_of_concluding concludes.1 world.setup index world.hub
      have moved : world.RunIn setting _ (world.follow index action next effect) :=
        .act .refl here rfl (effects ▸ List.mem_singleton_self _)
      have after := actor_of_follow here index next effect
      rw [told, Option.elim_some, if_pos rfl] at after
      obtain ⟨later, final, run, returned⟩ := induction reply after (concludes.2 reply)
      exact ⟨_, final, moved.trans run, returned⟩

end World

end WebSocket
