import WebSocket.Proofs.Connection.Handover

/-!
Connections in ordinary use: receive loops come from an opening, timers from a scheduler, and all
else is called by the application. Then all that is handed on is sound at all times, and so a
connection keeps little of what a peer sends, whatever that is and however it arrives.
-/

namespace WebSocket

open Script Connection

namespace Script

/-- What is read next comes behind some bytes that are held already. -/
structure Holds (pending : Bytes) (assembler : Assembler)
    (next : Reading → Script (Option Task)) : Prop where
  grows : ∀ bytes, next (.data bytes) = .done (some (.receive (pending ++ bytes) assembler))
  keeps : next .timedOut = .done (some (.receive pending assembler))

/-- All that is handed on is sound, and who is about to read holds few bytes. -/
inductive Serves (limits : Limits) : Script (Option Task) → Prop where
  | done {result : Option Task} (sound : ∀ task ∈ result, task.IsSound limits) :
      Serves limits (.done result)
  | acts {action : Action} {next : action.Reply → Script (Option Task)}
      (sound : action.IsSound limits) (rest : ∀ reply, Serves limits (next reply)) :
      Serves limits (.act action next)
  | reads {room deadline : Nat} {isCancellable : Bool} {next : Reading → Script (Option Task)}
      {pending : Bytes} {assembler : Assembler} (holds : Holds pending assembler next)
      (short : pending.length < limits.frameSize + Frame.Header.largest)
      (arises : assembler.Arises limits) (rest : ∀ reading, Serves limits (next reading)) :
      Serves limits (.act (.read room deadline isCancellable) next)

inductive MayEnd {Result : Type} (result : Result) : Script Result → Prop where
  | here : MayEnd result (.done result)
  | later {action : Action} {next : action.Reply → Script Result} (reply : action.Reply)
      (ends : MayEnd result (next reply)) : MayEnd result (.act action next)

variable {limits : Limits} {script : Script (Option Task)}

theorem Serves.bind {Result : Type} {ends : Result → Prop} {first : Script Result}
    {next : Result → Script (Option Task)} (hands : first.Hands limits ends)
    (rest : ∀ result, ends result → (next result).Serves limits) : (first.bind next).Serves limits := by
  induction first with
  | done result => exact rest result hands
  | act action goesOn induction => exact .acts hands.1 fun reply => induction reply (hands.2 reply)

theorem Serves.reply {action : Action} {next : action.Reply → Script (Option Task)}
    (serves : (Script.act action next).Serves limits) (reply : action.Reply) :
    (next reply).Serves limits := by
  cases serves with
  | acts _ rest => exact rest reply
  | reads _ _ _ rest => exact rest reply

theorem Serves.sound {action : Action} {next : action.Reply → Script (Option Task)}
    (serves : (Script.act action next).Serves limits)
    (notRead : ∀ room deadline isCancellable, action ≠ .read room deadline isCancellable) :
    action.IsSound limits := by
  cases serves with
  | acts sound _ => exact sound
  | reads => exact absurd rfl (notRead _ _ _)

theorem Serves.reading {room deadline : Nat} {isCancellable : Bool}
    {next : Reading → Script (Option Task)}
    (serves : (Script.act (.read room deadline isCancellable) next).Serves limits) :
    ∃ pending assembler, Holds pending assembler next ∧
      pending.length < limits.frameSize + Frame.Header.largest ∧ assembler.Arises limits := by
  cases serves with
  | acts sound _ => exact sound.elim
  | reads holds short arises _ => exact ⟨_, _, holds, short, arises⟩

theorem Serves.ending {task : Task} (serves : script.Serves limits)
    (ends : script.MayEnd (some task)) : task.IsSound limits := by
  induction ends with
  | here =>
      cases serves with
      | done sound => exact sound task rfl
  | later reply _ induction => exact induction (serves.reply reply)

end Script

namespace Connection

variable {setup : Setup} {assembler : Assembler}

theorem serves_resumes {script : Script (Option Task)} (resumes : Resumes setup script) :
    script.Serves setup.config.limits := by
  rw [← bind_done script]
  exact .bind resumes fun _ sound => .done sound

theorem serves_ends {script : Script Unit} (clean : Clean setup script) :
    (script.bind fun _ => .done none : Script (Option Task)).Serves setup.config.limits :=
  .bind clean fun _ _ => .done nofun

theorem serves_next {pending : Bytes} (arises : assembler.Arises setup.config.limits) :
    (Script.done (some (.receive pending assembler))).Serves setup.config.limits := by
  apply Serves.done
  rintro _ ⟨⟩
  exact arises

theorem serves_read_more {pending : Bytes} (arises : assembler.Arises setup.config.limits)
    (waits : Frame.Waits (.serverFrames setup.config.limits) pending) :
    (readMore setup pending assembler).Serves setup.config.limits := by
  refine .acts trivial fun isCancelled => ?_
  cases isCancelled with
  | true => exact serves_ends clean_teardown
  | false =>
      refine .acts trivial fun start => ?_
      refine .reads ⟨fun bytes => rfl, rfl⟩ (Frame.length_of_waits waits) arises fun reading => ?_
      cases reading with
      | data bytes => exact serves_next arises
      | timedOut => exact serves_next arises
      | _ => exact serves_ends clean_teardown

theorem serves_receive (pending : Bytes) (arises : assembler.Arises setup.config.limits) :
    (receive setup pending assembler).Serves setup.config.limits := by
  unfold receive
  split
  · exact serves_ends (clean_fail _ (Error.sendable_close_code _))
  · rename_i needed missing
    exact serves_read_more arises ⟨needed, missing⟩
  · exact .bind (clean_skip_unexpected _) fun _ _ => serves_next arises
  · refine .bind (carries_dispatch _ arises) fun next carried => .done ?_
    intro task member
    obtain ⟨assembler, found, rfl⟩ := Option.mem_map.mp member
    exact carried assembler found

theorem serves_task {task : Task} (sound : task.IsSound setup.config.limits) :
    (task.script setup).Serves setup.config.limits := by
  cases task with
  | receive pending assembler => exact serves_receive pending sound
  | watchdog => exact serves_resumes resumes_watchdog
  | keepalive scheduler due count => exact serves_resumes (resumes_keepalive scheduler due count)
  | maintenance scheduler due => exact serves_resumes (resumes_maintenance scheduler due)

end Connection

namespace World

/-- Who begins on a connection that is opened and used. Tasks are begun by others only. -/
inductive Uses (setup : Setup) : Script (Option Task) → Prop where
  | opening (isOpen : Bool) (leftover : Bytes) :
      Uses setup ((proceed setup isOpen leftover).bind fun _ => .done none)
  | call (call : Call) (id : Nat) :
      Uses setup ((call.script setup).bind fun result => .act (.report id result) fun _ => .done none)
  | errand (errand : Errand) : Uses setup ((errand.script setup).bind fun _ => .done none)

def usage : Setting := ⟨Uses, Hub.Drift⟩

variable {setting : Setting} {start world : World} {history : History}

theorem session_of_usage (run : start.RunIn usage history world) :
    start.RunIn session history world := by
  induction run with
  | refl => exact .refl
  | act _ here doing member induction => exact .act induction here doing member
  | goOn _ here ended induction => exact .goOn induction here ended
  | begin _ uses induction =>
      cases uses with
      | opening isOpen leftover => exact .begin induction (.opening isOpen leftover)
      | call call id => exact .begin induction (.call call id)
      | errand errand => exact .begin induction (.errand errand)
  | drift _ drifts induction => exact .drift induction drifts

theorem serves_uses {setup : Setup} {script : Script (Option Task)} (uses : Uses setup script) :
    script.Serves setup.config.limits := by
  cases uses with
  | opening isOpen leftover => exact serves_ends (clean_proceed isOpen leftover)
  | call call id => exact .bind (clean_call call) fun _ _ => .acts trivial fun _ => .done nofun
  | errand errand => exact serves_ends (clean_errand errand)

/-- What holds of all who come in, and of a script whatever it is replied, holds of all actors. -/
theorem RunIn.scripts {holds : Script (Option Task) → Prop}
    (begins : ∀ {script}, setting.begins start.setup script → holds script)
    (replies : ∀ {action} {next : Action.Reply action → Script (Option Task)},
      holds (.act action next) → ∀ reply, holds (next reply))
    (spawns : ∀ {task} {next : Unit → Script (Option Task)},
      holds (.act (.spawn task) next) → holds (task.script start.setup))
    (resumes : ∀ {task}, holds (.done (some task)) → holds (task.script start.setup))
    (first : ∀ actor ∈ start.actors, holds actor.script) (run : start.RunIn setting history world) :
    ∀ actor ∈ world.actors, holds actor.script := by
  have put {actors : List Actor} (all : ∀ actor ∈ actors, holds actor.script) (index : Nat)
      {script : Script (Option Task)} (held : holds script) :
      ∀ actor ∈ actors.modify index fun actor => { actor with script }, holds actor.script := by
    intro actor member
    obtain ⟨place, found⟩ := List.mem_iff_getElem?.mp member
    rw [List.getElem?_modify] at found
    split at found
    · obtain ⟨before, -, rfl⟩ := Option.map_eq_some_iff.mp found
      exact held
    · obtain ⟨before, there, rfl⟩ := Option.map_eq_some_iff.mp found
      exact all before (List.mem_of_getElem? there)
  induction run with
  | refl => exact first
  | @act history world index actor action next effect before here doing member induction =>
      have held := induction actor (List.mem_of_getElem? here)
      rw [doing] at held
      rw [follow_eq]
      intro other among
      rcases List.mem_append.mp among with old | new
      · cases told : effect.reply with
        | none =>
            rw [told] at old
            exact induction other old
        | some reply =>
            rw [told] at old
            exact put induction index (replies held reply) other old
      · obtain ⟨task, spawned, rfl⟩ := List.mem_map.mp new
        obtain rfl := Action.spawned_of_effect member task spawned
        rw [before.setup_eq]
        exact spawns held
  | @goOn history world index actor task before here ended induction =>
      have held := induction actor (List.mem_of_getElem? here)
      rw [ended] at held
      rw [before.setup_eq]
      exact put induction index (resumes held)
  | begin before uses induction =>
      intro actor among
      rcases List.mem_append.mp among with old | new
      · exact induction actor old
      · obtain rfl := List.mem_singleton.mp new
        exact begins (before.setup_eq ▸ uses)
  | drift _ _ induction => exact induction

theorem serves_of_run (empty : start.actors = []) (run : start.RunIn usage history world) :
    ∀ actor ∈ world.actors, actor.script.Serves start.setup.config.limits := by
  have first : ∀ actor ∈ start.actors, actor.script.Serves start.setup.config.limits := by
    rw [empty]
    exact List.forall_mem_nil _
  exact run.scripts serves_uses (fun serves reply => serves.reply reply)
    (fun serves => serves_task (serves.sound (by simp))) (fun serves => serves_task (serves.ending .here))
    first

theorem sound_of_run (empty : start.actors = []) (run : start.RunIn usage history world)
    {happening : Happening} (member : happening ∈ history)
    (notRead : ∀ room deadline isCancellable, happening.action ≠ .read room deadline isCancellable) :
    happening.action.IsSound start.setup.config.limits := by
  obtain ⟨place, found⟩ := List.mem_iff_getElem?.mp member
  obtain ⟨before, actor, next, effect, earlier, here, doing, -, -⟩ := run.at_place found
  have serves := serves_of_run empty earlier actor (List.mem_of_getElem? here)
  rw [doing] at serves
  exact serves.sound notRead

/-- Whoever is about to read holds fewer bytes than the largest frame has with its header, and
an assembler within its limits. At all times the assembler of a receive loop is one that was given
some frames, and that is within its limits whether it took them or not; and the messages that are
given to the observers are not too large. -/
theorem inbound_memory (empty : start.actors = []) (run : start.RunIn usage history world) :
    let limits := start.setup.config.limits
    (∀ (index : Nat) (actor : Actor), world.actors[index]? = some actor →
      (∀ room deadline isCancellable next,
        actor.script = .act (.read room deadline isCancellable) next →
        ∃ pending assembler, Script.Holds pending assembler next ∧
          pending.length < limits.frameSize + 14 ∧ assembler.IsWithin limits) ∧
      ∀ pending assembler, actor.script.MayEnd (some (.receive pending assembler)) →
        ∃ frames, assembler = Assembler.after { limits } frames) ∧
      (∀ frames, (Assembler.after { limits } frames).IsWithin limits) ∧
      ∀ happening ∈ history, ∀ observer,
        (∀ content, happening.action = .tell observer (.text content) →
          (Utf8.encode content).length ≤ limits.messageSize) ∧
        ∀ content, happening.action = .tell observer (.binary content) →
          content.length ≤ limits.messageSize := by
  intro limits
  refine ⟨fun index actor here => ⟨?_, ?_⟩, fun frames => Assembler.Arises.within ⟨frames, rfl⟩, ?_⟩
  · intro room deadline isCancellable next doing
    have serves := serves_of_run empty run actor (List.mem_of_getElem? here)
    rw [doing] at serves
    obtain ⟨pending, assembler, holds, short, arises⟩ := serves.reading
    exact ⟨pending, assembler, holds, short, arises.within⟩
  · intro pending assembler ends
    exact (serves_of_run empty run actor (List.mem_of_getElem? here)).ending ends
  · intro happening member observer
    constructor
    · intro content told
      have sound := sound_of_run empty run member (by simp [told])
      rw [told] at sound
      exact sound
    · intro content told
      have sound := sound_of_run empty run member (by simp [told])
      rw [told] at sound
      exact sound

/-- A connection whose peer sends frames and messages of at most two bytes. -/
def sparing : World :=
  { setup := { config := { limits := { frameSize := 2, messageSize := 2 } }, observers := [{}] } }

/-- A whole message is there when the connection is opened, and behind it one byte less than
another one. -/
def cutMessage : History × World :=
  play [0, 0, 0, 1, 1, 1, 1]
    ([], sparing.addActor
      ⟨(proceed sparing.setup true [0x82, 2, 1, 2, 0x82, 2, 3]).bind fun _ => .done none, false⟩)

theorem inbound_memory_of_cut_message :
    (∃ actor room deadline isCancellable next pending assembler,
      cutMessage.2.actors[1]? = some actor ∧
        actor.script = .act (.read room deadline isCancellable) next ∧
        Script.Holds pending assembler next ∧ pending.length < 2 + 14 ∧
        assembler.IsWithin sparing.setup.config.limits) ∧
      cutMessage.1[3]? = some ⟨1, .tell 0 (.binary [1, 2]), some ()⟩ ∧ [(1 : Byte), 2].length ≤ 2 := by
  have run : sparing.RunIn usage cutMessage.1 cutMessage.2 := by
    apply run_in_of_play
    exact .begin .refl (.opening true _)
  obtain ⟨actors, -, told⟩ := inbound_memory rfl run
  have happening : cutMessage.1[3]? = some ⟨1, .tell 0 (.binary [1, 2]), some ()⟩ := rfl
  refine ⟨?_, happening, (told _ (List.mem_of_getElem? happening) 0).2 _ rfl⟩
  obtain ⟨actor, here⟩ : ∃ actor, cutMessage.2.actors[1]? = some actor := ⟨_, rfl⟩
  have reads : actor.action? = some (.read 8192 60000 true) := by
    have known : cutMessage.2.actors[1]?.bind Actor.action? = some (.read 8192 60000 true) := rfl
    rw [here] at known
    exact known
  unfold Actor.action? at reads
  split at reads
  · cases reads
  · rename_i action next doing
    cases reads
    obtain ⟨pending, assembler, holds, short, within⟩ := (actors 1 actor here).1 _ _ _ next doing
    exact ⟨actor, _, _, _, next, pending, assembler, here, doing, holds, short, within⟩

end World

end WebSocket
