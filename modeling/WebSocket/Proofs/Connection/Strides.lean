import WebSocket.Proofs.Connection.Lockstep
import Mathlib.Data.List.Forall2

/-!
One action on two connections in step. Their hubs differ in nothing but the bytes on the wire, the
journal and the callbacks that have failed; so whatever an action can do on one of them, the
corresponding action can do on the other, and it leaves the same behind, but for the keys.
-/

namespace WebSocket

open Script

variable {twins : Twins} {Result : Type} {hub copy next other : Hub}

/-- The callbacks do not act on the connection. -/
def Observers.ArePassive (observers : Observers) : Prop :=
  ∀ observer ∈ observers, ∀ event, observer.cancels event = false

namespace Hub

def retold (hub : Hub) (written : Bytes) (journal : List Entry) (failed : List (Nat × Event)) : Hub :=
  { hub with stream := { hub.stream with written }, journal, failedCallbacks := failed }

/-- The hubs differ in the bytes on the wire, the journal and the failures at most. -/
def IsRetold (hub copy : Hub) : Prop := ∃ written journal failed, copy = hub.retold written journal failed

/-- A step of both hubs at once: the same gets onto the wire and into the journal, each time with
the keys of the connection. -/
structure Strides (twins : Twins) (stretches : List Stretch) (notes : List Note)
    (hub copy next other : Hub) : Prop where
  rest : next.IsRetold other
  wire : next.stream.written =
    hub.stream.written ++ stretches.flatMap (·.bytes twins.mine.maskKey)
  wireToo : other.stream.written = copy.stream.written ++ stretches.flatMap (·.bytes twins.keys)
  journal : next.journal = hub.journal ++ notes.map (·.entry twins.mine.maskKey)
  journalToo : other.journal = copy.journal ++ notes.map (·.entry twins.keys)

theorem Strides.silent (rest : next.IsRetold other) (wire : next.stream.written = hub.stream.written)
    (wireToo : other.stream.written = copy.stream.written) (journal : next.journal = hub.journal)
    (journalToo : other.journal = copy.journal) : Strides twins [] [] hub copy next other :=
  ⟨rest, by rw [wire, List.flatMap_nil, List.append_nil],
    by rw [wireToo, List.flatMap_nil, List.append_nil], by rw [journal, List.map_nil, List.append_nil],
    by rw [journalToo, List.map_nil, List.append_nil]⟩

theorem IsRetold.log (retold : hub.IsRetold copy) (twins : Twins) (note : Note) (failed failedToo : List (Nat × Event)) :
    Strides twins [] [note] hub copy
      { hub.log (note.entry twins.mine.maskKey) with failedCallbacks := failed }
      { copy.log (note.entry twins.keys) with failedCallbacks := failedToo } := by
  obtain ⟨written, journal, failures, rfl⟩ := retold
  exact ⟨⟨_, _, _, rfl⟩, (List.append_nil _).symm, (List.append_nil _).symm, rfl, rfl⟩

theorem tell_passive {observers : Observers} (passive : observers.ArePassive) {index : Nat}
    (within : index < observers.length) (hub : Hub) (event : Event) :
    ∃ failed, hub.tell observers index event =
      { hub.log (.told index event hub.phase) with failedCallbacks := failed } := by
  have idle : observers[index].cancels event = false := passive _ (List.getElem_mem within) event
  unfold tell
  rw [List.getElem?_eq_getElem within]
  dsimp only
  rw [idle, Bool.and_false, Bool.or_false]
  split
  · exact ⟨_, rfl⟩
  · exact ⟨_, rfl⟩

end Hub

def Effect.retold {Reply : Type} (effect : Effect Reply) (written : Bytes) (journal : List Entry)
    (failed : List (Nat × Event)) : Effect Reply :=
  { effect with hub := effect.hub.retold written journal failed }

section

variable (hub) (written : Bytes) (journal : List Entry) (failed : List (Nat × Event))

theorem Hub.transfer_retold (side : Side) (deadline : Nat) (store : Stream → Side → Stream)
    (play : Stream → Option Cue → Transfer × Stream)
    (stores : ∀ stream side, store { stream with written } side = { store stream side with written })
    (plays : ∀ stream cue, play { stream with written } cue =
      ((play stream cue).1, { (play stream cue).2 with written })) :
    (hub.retold written journal failed).transfer side deadline store play =
      (hub.transfer side deadline store play).map (·.retold written journal failed) := by
  have turn : (hub.retold written journal failed).now = hub.now := rfl
  unfold Hub.transfer
  rw [turn]
  split
  · split <;> rfl
  · simp [Hub.retold, Effect.retold, stores]
  · simp [Hub.retold, Effect.retold, Hub.answer, stores, plays]

theorem Hub.receive_retold (room deadline : Nat) :
    (hub.retold written journal failed).receive room deadline =
      (hub.receive room deadline).map (·.retold written journal failed) := by
  have turn : (hub.retold written journal failed).stream.reading.turn
      (hub.retold written journal failed).now = hub.stream.reading.turn hub.now := rfl
  unfold Hub.receive
  rw [turn]
  split
  · have due : (hub.retold written journal failed).now = hub.now := rfl
    rw [due]
    split <;> rfl
  · rfl
  · rename_i cue side plays
    have reads : ({ (hub.retold written journal failed).stream with reading := side }).read cue room =
        ((({ hub.stream with reading := side } : Stream).read cue room).1,
          { (({ hub.stream with reading := side } : Stream).read cue room).2 with written }) := by
      unfold Stream.read
      split
      · rfl
      · dsimp only
        split <;> rfl
      · rfl
    rw [reads]
    rfl

/-- What a keyless action can do depends neither on the observers nor on the keys, nor on what has
been left behind so far. -/
theorem Action.effects_retold {action : Action} (keyless : action.isKeyless = true)
    (first second : Setup) (actor : Nat) :
    action.effects second actor (hub.retold written journal failed) =
      (action.effects first actor hub).map (·.retold written journal failed) := by
  cases action with
  | tell | queueForGate | write | drawKey | report => cases keyless
  | flush deadline =>
      refine hub.transfer_retold written journal failed hub.stream.flushing deadline
        (fun stream side => { stream with flushing := side }) Stream.flush (fun _ _ => rfl)
        fun stream cue => ?_
      unfold Stream.flush
      split <;> rfl
  | shutdown deadline =>
      refine hub.transfer_retold written journal failed hub.stream.closing deadline
        (fun stream side => { stream with closing := side }) Stream.shutdown (fun _ _ => rfl)
        fun stream cue => ?_
      unfold Stream.shutdown
      split <;> rfl
  | read room deadline isCancellable =>
      simp only [effects, Hub.receive_retold, List.map_append, apply_ite (List.map _)]
      rfl
  | attachScheduler scheduler =>
      have same : (hub.retold written journal failed).attached = hub.attached := rfl
      simp only [effects, same]
      cases hub.attached <;> rfl
  | _ =>
      simp only [effects, List.map_append, apply_ite (List.map _)]
      rfl

end

theorem Action.silent_of_keyless {action : Action} (keyless : action.isKeyless = true) {setup : Setup}
    {actor : Nat} {effect : Effect action.Reply} (member : effect ∈ action.effects setup actor hub) :
    effect.hub.stream.written = hub.stream.written ∧ effect.hub.journal = hub.journal := by
  have same := Action.effects_retold hub hub.stream.written hub.journal hub.failedCallbacks keyless setup setup actor
  have unchanged : ∀ effect ∈ action.effects setup actor hub,
      effect.retold hub.stream.written hub.journal hub.failedCallbacks = effect :=
    List.map_inj_left.mp (same.symm.trans (List.map_id _).symm)
  rw [← unchanged effect member]
  exact ⟨rfl, rfl⟩

/-! ### The order of the observers -/

def Notice.toAll (count : Nat) (notice : Notice) : List (Nat × Notice) :=
  (List.range count).map (·, notice)

/-- Every notice has been told to all observers in the order of their registration, but for one that
may be underway. -/
def TellsInTurn (count : Nat) (telling : Option (Notice × Nat)) (told : List (Nat × Notice)) : Prop :=
  ∃ notices : List Notice, told = notices.flatMap (Notice.toAll count) ++
    telling.elim [] fun (notice, reached) => (notice.toAll count).take reached

theorem TellsInTurn.nil (count : Nat) : TellsInTurn count none [] := ⟨[], rfl⟩

theorem TellsInTurn.tell {count observer : Nat} {notice : Notice} {told : List (Nat × Notice)}
    (within : observer < count) (inTurn : TellsInTurn count (notice.underway count observer) told) :
    TellsInTurn count (notice.underway count (observer + 1)) (told ++ [(observer, notice)]) := by
  obtain ⟨notices, rfl⟩ := inTurn
  have before : ((notice.underway count observer).elim [] fun (notice, reached) =>
      (notice.toAll count).take reached) = (notice.toAll count).take observer := by
    rw [Notice.underway]
    split
    · rfl
    · obtain rfl : observer = 0 := by omega
      rfl
  have further : (notice.toAll count).take observer ++ [(observer, notice)] =
      (notice.toAll count).take (observer + 1) := by
    rw [List.take_add_one, Notice.toAll, List.getElem?_map, List.getElem?_range within]
    rfl
  rw [before, List.append_assoc, further, Notice.underway]
  split
  · exact ⟨notices, rfl⟩
  · have whole : (notice.toAll count).take (observer + 1) = notice.toAll count := by
      apply List.take_of_length_le
      rw [Notice.toAll, List.length_map, List.length_range]
      omega
    refine ⟨notices ++ [notice], ?_⟩
    rw [whole, List.flatMap_append, List.flatMap_singleton, Option.elim_none, List.append_nil]

/-! ### What an actor can do next -/

structure Sequel (Result : Type) where
  hub : Hub
  script : Script Result
  spawned : List Task

def Script.sequels (setup : Setup) (actor : Nat) (hub : Hub) : Script Result → List (Sequel Result)
  | done _ => []
  | act action next =>
      (action.effects setup actor hub).map fun effect =>
        ⟨effect.hub, effect.reply.elim (act action next) next, effect.spawned⟩

/-- Corresponding sequels: what is left behind is the same but for the keys, and what is told to the
observers is told in turn. -/
def Sequel.Matches (twins : Twins) (telling : Option (Notice × Nat)) (hub copy : Hub)
    (sequel other : Sequel Result) : Prop :=
  ∃ stretches notes after, Hub.Strides twins stretches notes hub copy sequel.hub other.hub ∧
    other.spawned = sequel.spawned ∧ Script.InStep twins after sequel.script other.script ∧
    ∀ told, TellsInTurn twins.count telling told →
      TellsInTurn twins.count after (told ++ notes.filterMap Note.telling?)

theorem Sequel.Matches.untold {sequel other : Sequel Result} {stretches : List Stretch}
    {notes : List Note} (strides : Hub.Strides twins stretches notes hub copy sequel.hub other.hub)
    (nobody : notes.filterMap Note.telling? = []) (spawned : other.spawned = sequel.spawned)
    (inStep : Script.InStep twins none sequel.script other.script) :
    sequel.Matches twins none hub copy other := by
  refine ⟨stretches, notes, none, strides, spawned, inStep, fun told inTurn => ?_⟩
  rwa [nobody, List.append_nil]

theorem Sequel.Matches.silent {sequel other : Sequel Result} (rest : sequel.hub.IsRetold other.hub)
    (wire : sequel.hub.stream.written = hub.stream.written)
    (wireToo : other.hub.stream.written = copy.stream.written)
    (journal : sequel.hub.journal = hub.journal) (journalToo : other.hub.journal = copy.journal)
    (spawned : other.spawned = sequel.spawned)
    (inStep : Script.InStep twins none sequel.script other.script) :
    sequel.Matches twins none hub copy other :=
  .untold (.silent rest wire wireToo journal journalToo) rfl spawned inStep

theorem Stream.write_of_length (cue : Option Cue) (size : Nat) :
    ∃ result taken, ∀ (stream : Stream) (bytes : Bytes), bytes.length = size →
      stream.write cue bytes =
        (result, { stream with written := stream.written ++ bytes.take taken }) := by
  cases roomy : Stream.room cue size with
  | error failure =>
      refine ⟨.failed failure, 0, fun stream bytes length => ?_⟩
      rw [write, length, roomy, List.take_zero, List.append_nil]
  | ok count =>
      cases count with
      | zero =>
          refine ⟨.failed writeZero, 0, fun stream bytes length => ?_⟩
          rw [write, length, roomy, List.take_zero, List.append_nil]
          rfl
      | succ count =>
          refine ⟨.done (count + 1), count + 1, fun stream bytes length => ?_⟩
          rw [write, length, roomy]
          rfl

theorem sequels_write (stretch : Stretch) (deadline actor : Nat)
    {first second : Transfer → Script Result}
    (rest : ∀ reply, Script.InStep twins none (first reply) (second reply)) (retold : hub.IsRetold copy) :
    List.Forall₂ (Sequel.Matches twins none hub copy)
      ((act (.write (stretch.bytes twins.mine.maskKey) deadline) first).sequels twins.mine actor hub)
      ((act (.write (stretch.bytes twins.keys) deadline) second).sequels twins.yours actor copy) := by
  obtain ⟨written, journal, failed, rfl⟩ := retold
  have waiting := Script.InStep.write stretch deadline rest
  have turn : (hub.retold written journal failed).stream.writing.turn
      (hub.retold written journal failed).now = hub.stream.writing.turn hub.now := rfl
  have due : (hub.retold written journal failed).now = hub.now := rfl
  simp only [Script.sequels, Action.effects, Hub.transfer]
  rw [turn, due]
  cases hub.stream.writing.turn hub.now with
  | blocked =>
      dsimp only
      split
      · exact .cons (.silent ⟨_, _, _, rfl⟩ rfl rfl rfl rfl rfl (rest .timedOut)) .nil
      · exact .nil
  | waiting side => exact .cons (.silent ⟨_, _, _, rfl⟩ rfl rfl rfl rfl rfl waiting) .nil
  | plays cue side =>
      have length := stretch.bytes_length_eq twins.mine.maskKey twins.keys
      obtain ⟨result, taken, writes⟩ :=
        Stream.write_of_length cue (stretch.bytes twins.mine.maskKey).length
      dsimp only
      rw [writes _ _ rfl, writes _ _ length, ← Stretch.bytes_take, ← Stretch.bytes_take]
      have strides : Hub.Strides twins [stretch.take taken] [] hub (hub.retold written journal failed)
          { hub with stream := { hub.stream with
              writing := side
              written := hub.stream.written ++ (stretch.take taken).bytes twins.mine.maskKey } }
          { hub.retold written journal failed with stream := { hub.stream with
              writing := side, written := written ++ (stretch.take taken).bytes twins.keys } } :=
        ⟨⟨_, _, _, rfl⟩, congrArg _ (List.flatMap_singleton _ _).symm,
          congrArg _ (List.flatMap_singleton _ _).symm, (List.append_nil _).symm,
          (List.append_nil _).symm⟩
      exact .cons (.untold strides rfl rfl (rest result)) .nil

theorem Script.InStep.sequels {telling : Option (Notice × Nat)} {script copyScript : Script Result}
    (inStep : InStep twins telling script copyScript) (passive : twins.mine.observers.ArePassive)
    (passiveToo : twins.observers.ArePassive) (actor : Nat) (retold : hub.IsRetold copy) :
    List.Forall₂ (Sequel.Matches twins telling hub copy) (script.sequels twins.mine actor hub)
      (copyScript.sequels twins.yours actor copy) := by
  cases inStep with
  | done result => exact .nil
  | write stretch deadline rest => exact sequels_write stretch deadline actor rest retold
  | @keyless action first second keyless rest =>
      have waiting := Script.InStep.keyless keyless rest
      obtain ⟨written, journal, failed, rfl⟩ := retold
      dsimp only [Script.sequels]
      rw [Action.effects_retold hub written journal failed keyless twins.mine twins.yours,
        List.map_map, List.forall₂_map_left_iff, List.forall₂_map_right_iff, List.forall₂_same]
      intro effect member
      obtain ⟨wire, unwritten⟩ := Action.silent_of_keyless keyless member
      obtain ⟨next, reply, spawned⟩ := effect
      refine .silent ⟨_, _, _, rfl⟩ wire rfl unwritten rfl rfl ?_
      cases reply with
      | none => exact waiting
      | some reply => exact rest reply
  | report id content rest =>
      have strides := retold.log twins (.reported id content hub.phase)
        hub.failedCallbacks copy.failedCallbacks
      obtain ⟨written, journal, failed, rfl⟩ := retold
      exact .cons (.untold strides rfl rfl rest) .nil
  | queue content copy rest =>
      obtain ⟨written, journal, failed, rfl⟩ := retold
      exact .cons (.silent ⟨_, _, _, rfl⟩ rfl rfl rfl rfl rfl rest) .nil
  | draw rest =>
      obtain ⟨written, journal, failed, rfl⟩ := retold
      exact .cons (.silent ⟨_, _, _, rfl⟩ rfl rfl rfl rfl rfl (rest hub.keysDrawn)) .nil
  | tell notice observer turn within rest =>
      subst turn
      have withinToo : observer < twins.observers.length := twins.same.symm ▸ within
      obtain ⟨failures, tells⟩ :=
        Hub.tell_passive passive within hub (notice.event twins.mine.maskKey)
      obtain ⟨failuresToo, tellsToo⟩ :=
        Hub.tell_passive passiveToo withinToo copy (notice.event twins.keys)
      have strides := retold.log twins (.told observer notice hub.phase)
        failures failuresToo
      obtain ⟨written, journal, failed, rfl⟩ := retold
      refine .cons ⟨[], [.told observer notice hub.phase], _, ?_, rfl, rest, ?_⟩ .nil
      · change Hub.Strides _ _ _ _ _ (hub.tell twins.mine.observers observer _)
          ((hub.retold written journal failed).tell twins.observers observer _)
        rw [tells, tellsToo]
        exact strides
      · intro told inTurn
        exact inTurn.tell within

def Sequel.orGiveUp (isAbortable : Bool) (index : Nat) (hub : Hub) :
    List (Sequel (Option Task)) → List (Sequel (Option Task))
  | [] =>
      if isAbortable && hub.isCancelled then
        [⟨hub.log (.reported index (.connected (.error .cancelled)) hub.phase), .done none, []⟩]
      else []
  | sequels => sequels

theorem Sequel.give_up_matches (retold : hub.IsRetold copy) (isAbortable : Bool) (index : Nat)
    {sequels others : List (Sequel (Option Task))}
    (pairs : List.Forall₂ (Sequel.Matches twins none hub copy) sequels others) :
    List.Forall₂ (Sequel.Matches twins none hub copy) (orGiveUp isAbortable index hub sequels)
      (orGiveUp isAbortable index copy others) := by
  cases pairs with
  | cons first rest => exact .cons first rest
  | nil =>
      have strides := retold.log twins
        (.reported index (.connected (.error .cancelled)) hub.phase)
        hub.failedCallbacks copy.failedCallbacks
      obtain ⟨written, journal, failed, rfl⟩ := retold
      have cancelled : (hub.retold written journal failed).isCancelled = hub.isCancelled := rfl
      unfold orGiveUp
      dsimp only
      rw [cancelled]
      split
      · exact .cons (.untold strides rfl rfl (.done none)) .nil
      · exact .nil

def Actor.sequels (setup : Setup) (index : Nat) (hub : Hub) (actor : Actor) :
    List (Sequel (Option Task)) :=
  match actor.script with
  | .done none => []
  | .done (some task) => [⟨hub, task.script setup, []⟩]
  | .act action next =>
      Sequel.orGiveUp actor.isAbortable index hub ((act action next).sequels setup index hub)

/-- What can become of two actors with scripts in step corresponds, one by one. -/
theorem Actor.sequels_match {telling : Option (Notice × Nat)} {script : Script (Option Task)}
    {actor : Actor} (inStep : actor.script.InStep twins telling script)
    (passive : twins.mine.observers.ArePassive) (passiveToo : twins.observers.ArePassive)
    (retold : hub.IsRetold copy) (index : Nat) :
    List.Forall₂ (Sequel.Matches twins telling hub copy) (actor.sequels twins.mine index hub)
      (Actor.sequels twins.yours index copy { actor with script }) := by
  have next := inStep.sequels passive passiveToo index retold
  obtain ⟨doing, isAbortable⟩ := actor
  dsimp only at inStep next
  cases inStep with
  | done result =>
      cases result with
      | none => exact .nil
      | some task =>
          obtain ⟨written, journal, failed, rfl⟩ := retold
          exact .cons (.silent ⟨_, _, _, rfl⟩ rfl rfl rfl rfl rfl (task.in_step twins)) .nil
  -- nobody gives up in the middle of a notification: a callback never has to wait
  | tell => exact next
  | _ => exact Sequel.give_up_matches retold isAbortable index next

end WebSocket
