import WebSocket.Proofs.Connection.Teardown
import WebSocket.Proofs.Connection.Usage

/-!
A closing connection has somebody to finish it. Whoever moves the phase to closing owes a teardown
from then on: he gets to one himself, or he leaves it to a watchdog, which gets to one unless the
end has been announced by then.
-/

namespace WebSocket

open Script Connection

namespace Script

variable {Result : Type}

/-- What may be left of a script after some of its actions have been answered. -/
inductive LeadsTo (script : Script Result) : Script Result → Prop where
  | refl : LeadsTo script script
  | reply {action : Action} {next : action.Reply → Script Result}
      (before : LeadsTo script (.act action next)) (reply : action.Reply) : LeadsTo script (next reply)

theorem All.of_leads_to {holds : Action → Prop} {script rest : Script Result} (all : script.All holds)
    (leads : script.LeadsTo rest) : rest.All holds := by
  induction leads with
  | refl => exact all
  | reply _ reply induction => exact induction.2 reply

end Script

/-- The answer shows that the connection has come to its end. -/
def Action.Relieves : (action : Action) → action.Reply → Prop
  | awaitClosed _, isClosed => isClosed = true
  | _, _ => False

def Action.BeginsClosing : (action : Action) → action.Reply → Prop
  | movePhase _ target, isMoved => target = .closing ∧ isMoved = true
  | _, _ => False

/-- The script waits for the end of the connection, and if that has not been announced by the deadline,
it tears the connection down. -/
def Script.IsArmed (setup : Setup) (deadline : Nat) (script : Script (Option Task)) : Prop :=
  ∃ next : Bool → Script (Option Task), script = act (.awaitClosed (some deadline)) next ∧
    ∃ rest, next false = (teardown setup).bind rest

/-- The script looks at the clock, and gives the close handshake its time from then on. -/
def Script.IsWatch (setup : Setup) (script : Script (Option Task)) : Prop :=
  ∃ next : Nat → Script (Option Task), script = act .readClock next ∧
    ∀ now, (next now).IsArmed setup (now + setup.config.timeouts.close)

/-- The script begins with a teardown, or with the start of a task that watches. -/
inductive Script.SeesToEnd (setup : Setup) : Script (Option Task) → Prop where
  | tearsDown (rest : Unit → Script (Option Task)) : SeesToEnd setup ((teardown setup).bind rest)
  | handsOn {task : Task} (next : Unit → Script (Option Task)) (watch : (task.script setup).IsWatch setup) :
      SeesToEnd setup (.act (.spawn task) next)

/-- Whatever it is told, the script does not end before it has seen to the end of the connection, and it
does not just wait for somebody else to do so. Only the end of the connection relieves it of that. -/
def Script.Finishes (setup : Setup) : Script (Option Task) → Prop
  | done _ => False
  | act action next => SeesToEnd setup (act action next) ∨
      action ≠ .awaitClosed none ∧ ∀ reply, ¬action.Relieves reply → (next reply).Finishes setup

/-- What the script looks like of somebody who has moved the phase to closing: the Close frame is under
way or dealt with, but he has not come to his teardown or to the start of a watch. -/
inductive Script.IsOwing (setup : Setup) : Script (Option Task) → Prop where
  | sending (code : Option UInt16) (reason : String) {sending : Script SendStatus}
      {after : SendStatus → Script (Option Task)}
      (underWay : (sendCloseOnce setup (.close code reason)).LeadsTo sending)
      (concludes : ∀ status, (after status).SeesToEnd setup) : IsOwing setup (sending.bind after)

/-- What the scripts look like of those who have yet to see to the end of a closing connection, by the
number of the actor, what has happened so far and what time it is. -/
inductive Finisher (setup : Setup) (history : History) (now index : Nat) : Script (Option Task) → Prop where
  | owing {script : Script (Option Task)} (owes : script.IsOwing setup) :
      Finisher setup history now index script
  | watching {script : Script (Option Task)} (watch : script.IsWatch setup) :
      Finisher setup history now index script
  /-- He has looked at the clock, and the time of the close handshake runs from then on. -/
  | armed {script : Script (Option Task)} {begun : Nat} (past : begun ≤ now)
      (looked : ⟨index, .readClock, some begun⟩ ∈ history)
      (armed : script.IsArmed setup (begun + setup.config.timeouts.close)) :
      Finisher setup history now index script
  | overdue (rest : Unit → Script (Option Task)) :
      Finisher setup history now index ((teardown setup).bind rest)

namespace Connection

variable {setup : Setup} {after : SendStatus → Script (Option Task)}

theorem watch_of_watchdog (setup : Setup) : (watchdog setup).IsWatch setup :=
  ⟨_, rfl, fun _ => ⟨_, rfl, _, rfl⟩⟩

theorem sees_to_end (concludes : Concludes setup after) (status : SendStatus) :
    (after status).SeesToEnd setup := by
  rcases concludes with ⟨rest, same⟩ | ⟨rest, same⟩
  · rw [same]
    split
    · exact .tearsDown _
    · exact .handsOn _ (watch_of_watchdog setup)
  · rw [same]
    exact .tearsDown _

theorem send_close_once_unwaiting (frame : Frame) :
    (sendCloseOnce setup frame).All fun action => action ≠ .awaitClosed none := by
  refine ⟨nofun, fun isFirst => ?_⟩
  cases isFirst with
  | false => exact trivial
  | true =>
      apply (transmit_sends setup frame).mono
      rintro _ sending rfl
      exact sending.elim

end Connection

namespace Script

variable {setup : Setup} {script : Script (Option Task)}

theorem SeesToEnd.finishes (sees : script.SeesToEnd setup) : script.Finishes setup := by
  cases sees with
  | tearsDown rest => exact .inl (.tearsDown rest)
  | handsOn next watch => exact .inl (.handsOn next watch)

theorem IsOwing.finishes (owes : script.IsOwing setup) : script.Finishes setup := by
  obtain @⟨code, reason, sending, after, underWay, concludes⟩ := owes
  have sends := (send_close_once_unwaiting _).of_leads_to underWay
  clear underWay
  induction sending with
  | done status => exact (concludes status).finishes
  | act action next induction => exact .inr ⟨sends.1, fun reply _ => induction reply (sends.2 reply)⟩

theorem IsArmed.finishes {deadline : Nat} (armed : script.IsArmed setup deadline) :
    script.Finishes setup := by
  obtain ⟨next, rfl, rest, late⟩ := armed
  refine .inr ⟨nofun, fun isClosed unrelieved => ?_⟩
  cases isClosed with
  | false => exact late ▸ (SeesToEnd.tearsDown rest).finishes
  | true => exact absurd rfl unrelieved

end Script

namespace Finisher

variable {setup : Setup} {history : History} {now index : Nat} {script : Script (Option Task)}

theorem finishes (finisher : Finisher setup history now index script) : script.Finishes setup := by
  cases finisher with
  | owing owes => exact owes.finishes
  | watching watch =>
      obtain ⟨next, rfl, armed⟩ := watch
      exact .inr ⟨nofun, fun now _ => (armed now).finishes⟩
  | armed past looked armed => exact armed.finishes
  | overdue rest => exact (SeesToEnd.tearsDown rest).finishes

theorem later (finisher : Finisher setup history now index script) {time : Nat} (onwards : now ≤ time)
    (more : History) : Finisher setup (history ++ more) time index script := by
  cases finisher with
  | owing owes => exact .owing owes
  | watching watch => exact .watching watch
  | armed past looked armed =>
      exact .armed (Nat.le_trans past onwards) (List.mem_append_left more looked) armed
  | overdue rest => exact .overdue rest

/-- What one answer makes of an actor who has yet to finish: the connection is closed, or a new
watch takes over, or he goes on as somebody who has yet to finish. -/
theorem step {hub : Hub} {action : Action} {next : action.Reply → Script (Option Task)}
    {effect : Effect action.Reply} (finisher : Finisher setup history hub.now index (.act action next))
    (ended : hub.closedAnnounced = true → hub.phase = .closed)
    (member : effect ∈ action.effects setup index hub) :
    effect.hub.phase = .closed ∨ (∃ task ∈ effect.spawned, (task.script setup).IsWatch setup) ∨
      ∀ reply, effect.reply = some reply →
        Finisher setup (history ++ [⟨index, action, some reply⟩]) hub.now index (next reply) := by
  generalize same : Script.act action next = script at finisher
  -- A teardown begins with the end of the phase.
  have tears {rest : Unit → Script (Option Task)} (tearsDown : .act action next = (teardown setup).bind rest) :
      effect.hub.phase = .closed := by
    cases tearsDown
    obtain rfl := List.mem_singleton.mp member
    rfl
  cases finisher with
  | owing owes =>
      obtain @⟨code, reason, sending, after, underWay, concludes⟩ := owes
      cases sending with
      | act sent rest =>
          cases same
          exact .inr (.inr fun reply _ => .owing (.sending code reason (underWay.reply reply) concludes))
      | done status =>
          have sees := concludes status
          rw [← show Script.act action next = after status from same] at sees
          generalize again : Script.act action next = begun at sees
          cases sees with
          | tearsDown rest => exact .inl (tears again)
          | handsOn rest watch =>
              cases again
              obtain rfl := List.mem_singleton.mp member
              exact .inr (.inl ⟨_, List.mem_cons_self, watch⟩)
  | watching watch =>
      obtain ⟨goesOn, looks, armed⟩ := watch
      cases same.trans looks
      obtain rfl := List.mem_singleton.mp member
      refine .inr (.inr fun begun told => ?_)
      obtain rfl := Option.some.inj told
      exact .armed (Nat.le_refl _) (List.mem_append_right _ List.mem_cons_self) (armed _)
  | armed past looked armed =>
      obtain ⟨goesOn, waits, rest, late⟩ := armed
      cases same.trans waits
      simp only [Action.effects, Hub.answer] at member
      rcases List.mem_append.mp member with announced | overdue
      · split at announced
        · obtain rfl := List.mem_singleton.mp announced
          exact .inl (ended ‹_›)
        · cases announced
      · split at overdue
        · obtain rfl := List.mem_singleton.mp overdue
          refine .inr (.inr fun reply told => ?_)
          cases told
          exact late ▸ .overdue rest
        · cases overdue
  | overdue rest => exact .inl (tears same)

end Finisher

/-- Whoever moves the phase to closing, now or later, owes the end from then on. -/
def IsDutiful (setup : Setup) : Script (Option Task) → Prop
  | .done _ => True
  | .act action next => ∀ reply,
      (action.BeginsClosing reply → (next reply).IsOwing setup) ∧ IsDutiful setup (next reply)

namespace IsDutiful

variable {setup : Setup} {Result : Type}

theorem of_bind {script : Script Result} {next : Result → Script (Option Task)}
    (leaves : script.All fun action => ∀ reply, ¬action.BeginsClosing reply)
    (rest : ∀ result, IsDutiful setup (next result)) : IsDutiful setup (script.bind next) := by
  induction script with
  | done result => exact rest result
  | act action goesOn induction =>
      exact fun reply => ⟨fun begins => absurd begins (leaves.1 reply), induction reply (leaves.2 reply)⟩

theorem leaves_transmit (frame : Frame) :
    (transmit setup frame).All fun action => ∀ reply, ¬action.BeginsClosing reply := by
  apply (transmit_sends setup frame).mono
  intro action sending
  cases action <;> first | exact fun _ => id | exact sending.elim

theorem leaves_teardown : (teardown setup).All fun action => ∀ reply, ¬action.BeginsClosing reply := by
  apply (teardown_tears setup).mono
  intro action tearing
  cases action <;> first | exact fun _ => id | exact tearing.elim

theorem of_routine {script : Script (Option Task)} (routine : Routine setup script) :
    IsDutiful setup script := by
  induction routine with
  | done task => exact trivial
  | @aside action next isAside _ induction =>
      refine fun reply => ⟨fun begins => ?_, induction reply⟩
      cases action with
      | movePhase => cases isAside
      | _ => exact begins.elim
  | opens _ induction => exact fun isMoved => ⟨fun begins => (nomatch begins.1), induction isMoved⟩
  | sends _ _ induction => exact of_bind (leaves_transmit _) induction
  | closes code reason owner concludes _ _ induction late =>
      intro isMoved
      cases isMoved with
      | false => exact ⟨fun begins => (nomatch begins.2), late⟩
      | true =>
          rw [owner]
          refine ⟨fun _ => .sending code reason .refl (sees_to_end concludes), ?_⟩
          refine of_bind ⟨fun _ => id, fun isFirst => ?_⟩ induction
          cases isFirst with
          | true => exact leaves_transmit _
          | false => exact trivial
  | tearsDown _ induction => exact of_bind leaves_teardown fun _ => induction

end IsDutiful

namespace World

variable {setting : Setting} {start world : World} {history : History}

theorem dutiful_of_run (usual : setting.IsUsual) (empty : start.actors = [])
    (run : start.RunIn setting history world) :
    ∀ actor ∈ world.actors, IsDutiful start.setup actor.script := by
  have tasks (task : Task) : IsDutiful start.setup (task.script start.setup) := .of_routine (.of_task task)
  have first : ∀ actor ∈ start.actors, IsDutiful start.setup actor.script := by
    rw [empty]
    exact List.forall_mem_nil _
  exact run.scripts (fun begins => .of_routine (usual.begins begins))
    (fun dutiful reply => (dutiful reply).2) (fun _ => tasks _) (fun _ => tasks _) first

def HasFinisher (world : World) (history : History) : Prop :=
  ∃ (index : Nat) (actor : Actor), world.actors[index]? = some actor ∧
    Finisher world.setup history world.hub.now index actor.script

/-- If a connection is not closed by what one actor does, there still is somebody to finish it. -/
theorem has_finisher_of_act {index : Nat} {actor : Actor} {action : Action}
    {next : action.Reply → Script (Option Task)} {effect : Effect action.Reply}
    (before : world.HasFinisher history) (here : world.actors[index]? = some actor)
    (doing : actor.script = .act action next)
    (member : effect ∈ action.effects world.setup index world.hub)
    (ended : world.hub.closedAnnounced = true → world.hub.phase = .closed)
    (goesOn : effect.hub.phase ≠ .closed) :
    (world.follow index action next effect).HasFinisher (history ++ [⟨index, action, effect.reply⟩]) := by
  obtain ⟨place, other, there, finisher⟩ := before
  have after := actor_of_follow there index next effect
  have same : (world.follow index action next effect).setup = world.setup ∧
      (world.follow index action next effect).hub.now = world.hub.now := by
    rw [follow_eq]
    exact ⟨rfl, Action.now_of_effect member⟩
  unfold HasFinisher
  rw [same.1, same.2]
  by_cases own : index = place
  · subst own
    cases here.symm.trans there
    rcases (doing ▸ finisher : Finisher _ _ _ _ (.act action next)).step ended member with
      closed | ⟨task, spawned, watch⟩ | stays
    · exact absurd closed goesOn
    · have grown : ⟨task.script world.setup, false⟩ ∈ (world.follow index action next effect).actors := by
        rw [follow_eq]
        exact List.mem_append_right _ (List.mem_map_of_mem spawned)
      obtain ⟨place, there⟩ := List.mem_iff_getElem?.mp grown
      exact ⟨place, _, there, .watching watch⟩
    · cases told : effect.reply with
      | none =>
          rw [told] at after
          exact ⟨index, actor, after, finisher.later (Nat.le_refl _) _⟩
      | some reply =>
          rw [told, Option.elim_some, if_pos rfl] at after
          exact ⟨index, _, after, stays reply told⟩
  · have same : effect.reply.elim other (fun reply =>
        if index = place then { other with script := next reply } else other) = other := by
      cases effect.reply with
      | none => rfl
      | some reply => exact if_neg own
    rw [same] at after
    exact ⟨place, other, after, finisher.later (Nat.le_refl _) _⟩

theorem has_finisher_of_run (usual : setting.IsUsual) (unended : start.Unended)
    (calm : start.hub.phase ≠ .closing) (run : start.RunIn setting history world)
    (closing : world.hub.phase = .closing) : world.HasFinisher history := by
  induction run with
  | refl => exact absurd closing calm
  | @act history world index actor action next effect before here doing member induction =>
      have reached : effect.hub.phase = .closing := by rwa [follow_eq] at closing
      have goesOn : effect.hub.phase ≠ .closed := by rw [reached]; decide
      rcases Action.phase_of_effect member with same | ⟨-, closed⟩ | ⟨source, target, moved, -, moves⟩
      · have ended : world.hub.closedAnnounced = true → world.hub.phase = .closed := by
          intro announced
          rcases ending_of_run usual unended before with unreleased | ⟨winner, releasing⟩
          · rw [unreleased.announced] at announced
            cases announced
          · exact releasing.fits.closed
        exact has_finisher_of_act (induction (same.symm.trans reached)) here doing member ended goesOn
      · exact absurd closed goesOn
      · -- this actor is the one who has moved the phase
        obtain ⟨hub, reply, spawned⟩ := effect
        cases moved
        have dutiful := dutiful_of_run usual unended.actors before actor (List.mem_of_getElem? here)
        rw [doing] at dutiful
        have after := actor_of_follow here index next ⟨hub, some true, spawned⟩
        rw [Option.elim_some, if_pos rfl] at after
        refine ⟨index, _, after, .owing ?_⟩
        have owes := (dutiful true).1 ⟨moves.symm.trans reached, rfl⟩
        rwa [follow_eq, before.setup_eq]
  | @goOn history world index actor task before here ended induction =>
      obtain ⟨place, other, there, finisher⟩ := induction closing
      have apart : index ≠ place := by
        rintro rfl
        cases here.symm.trans there
        exact (ended ▸ finisher).finishes
      refine ⟨place, other, ?_, finisher⟩
      rw [putActor, List.getElem?_modify_ne _ _ apart]
      exact there
  | begin before begins induction =>
      obtain ⟨place, other, there, finisher⟩ := induction closing
      have within := (List.getElem?_eq_some_iff.mp there).1
      exact ⟨place, other, (List.getElem?_append_left within).trans there, finisher⟩
  | @drift history world hub before drifts induction =>
      have drifts := usual.drifts drifts
      have onwards : world.hub.now ≤ hub.now := drifts.now_le
      have still : world.hub.phase = .closing := by cases drifts <;> exact closing
      obtain ⟨place, other, there, finisher⟩ := induction still
      have later := finisher.later onwards []
      rw [List.append_nil] at later
      exact ⟨place, other, there, later⟩

/-- Whatever opens, sends, closes, receives or waits on a connection, as long as it is closing there
is somebody who has yet to finish it: he has moved the phase and not come to his teardown or to the
start of a watch, or he watches, with a deadline as long after his look at the clock as a close
handshake may take, and with a teardown behind it. And whatever he is told, he does not stop before
he begins a teardown or starts a watch, unless the end of the connection comes first. -/
theorem closing_has_finisher (unended : start.Unended) (calm : start.hub.phase ≠ .closing)
    (run : start.RunIn operations history world) (closing : world.hub.phase = .closing) :
    ∃ (index : Nat) (actor : Actor), world.actors[index]? = some actor ∧
      Finisher start.setup history world.hub.now index actor.script ∧
      actor.script.Finishes start.setup := by
  obtain ⟨index, actor, there, finisher⟩ := has_finisher_of_run operations_usual unended calm run closing
  rw [run.setup_eq] at finisher
  exact ⟨index, actor, there, finisher, finisher.finishes⟩

/-- An open connection whose next write fails, though not for good. -/
def unlucky : World :=
  { setup := {}
    hub := { phase := .opened
             stream := { writing := { cues := [.fail ⟨.other "Other", "scripted"⟩] } } } }

/-- A call closes it. The Close frame is not written, and the call waits for the watchdog. -/
def leftToWatchdog : History × World :=
  play (List.replicate 12 0 ++ [1])
    ([], unlucky.addActor ⟨((Call.close .normal "bye").script unlucky.setup).bind fun result =>
      .act (.report 0 result) fun _ => .done none, false⟩)

theorem closing_has_finisher_of_failed_write :
    leftToWatchdog.2.hub.phase = .closing ∧ leftToWatchdog.2.hub.stream.written = [] ∧
      leftToWatchdog.2.actors[0]?.bind Actor.action? = some (.awaitClosed none) ∧
      ∃ (index : Nat) (actor : Actor), leftToWatchdog.2.actors[index]? = some actor ∧
        Finisher {} leftToWatchdog.1 0 index actor.script ∧ actor.script.Finishes {} := by
  have unended : unlucky.Unended := ⟨rfl, by decide, rfl, rfl⟩
  have run : unlucky.RunIn operations leftToWatchdog.1 leftToWatchdog.2 :=
    run_in_of_play _ (.begin .refl (.joins (.call (.close .normal "bye") 0)))
  have closing : leftToWatchdog.2.hub.phase = .closing := rfl
  exact ⟨closing, rfl, rfl, closing_has_finisher unended (by decide) run closing⟩

end World

end WebSocket
