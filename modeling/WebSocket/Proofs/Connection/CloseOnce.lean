import WebSocket.Proofs.Connection.CloseFrame
import WebSocket.Proofs.Connection.Session

/-!
Who may send the Close frame. Moving the phase from open to closing succeeds only
once, and an actor puts a Close frame in line only if it is the one that has done
it. So a session has at most one Close frame, and none if it was never open.
-/

namespace WebSocket

theorem not_closing_nil : ¬IsClosing [] := by
  rintro ⟨code, reason, key, same⟩
  exact Frame.serialize_nonempty _ _ same.symm

namespace Happening

def IsOpening (happening : Happening) : Prop :=
  ∃ actor, happening = ⟨actor, .movePhase .handshaking .opened, some true⟩

def IsHandover (happening : Happening) : Prop :=
  ∃ actor content, IsClosing content ∧ happening = ⟨actor, .queueForGate content, some ()⟩

end Happening

namespace Duty

/-- The duties of all actors of a session. Besides them the opening, which has
begun nothing yet, may move the phase from handshaking to open. -/
def conduct : Conduct Duty where
  start := free
  permits _ duty action :=
    duty.permits action ∨ duty.IsIdle ∧ action = .movePhase .handshaking .opened
  after duty
    | .movePhase .handshaking .opened, _ => duty
    | action, reply => duty.after action reply

/-- The actor is the one who closes and has not put its Close frame in line yet. -/
def HoldsClose : Duty → Prop
  | owner | claimant => True
  | _ => False

theorem after_of_permits {duty : Duty} {action : Action} (permitted : duty.permits action)
    (reply : action.Reply) : conduct.after duty action reply = duty.after action reply := by
  cases action with
  | movePhase source target =>
      obtain ⟨-, rfl, rfl⟩ := permitted
      rfl
  | _ => rfl

theorem may_queue_of_permits {actor : Nat} {duty : Duty} {content : Bytes}
    (permitted : conduct.permits actor duty (.queueForGate content)) : duty.mayQueue content := by
  rcases permitted with mayQueue | ⟨-, opening⟩
  · exact mayQueue
  · cases opening

theorem owner_of_permits {actor : Nat} {duty : Duty}
    (permitted : conduct.permits actor duty .claimClose) : duty = owner := by
  rcases permitted with owner | ⟨-, opening⟩
  · exact owner
  · cases opening

theorem holds_before {actor : Nat} {duty : Duty} {action : Action} {reply : action.Reply}
    (permitted : conduct.permits actor duty action)
    (holds : (conduct.after duty action reply).HoldsClose) :
    duty.HoldsClose ∨ Happening.IsMove ⟨actor, action, some reply⟩ := by
  rcases permitted with permitted | ⟨-, rfl⟩
  · rw [after_of_permits permitted] at holds
    cases action with
    | readPhase => cases reply <;> exact holds.elim
    | movePhase source target =>
        obtain ⟨-, rfl, rfl⟩ := permitted
        cases reply with
        | true => exact .inr ⟨actor, rfl⟩
        | false => exact .inl holds
    | claimClose =>
        obtain rfl : duty = owner := permitted
        exact .inl trivial
    | queueForGate content => exact holds.elim
    | enterGate =>
        obtain ⟨content, rfl⟩ := permitted
        exact holds.elim
    | leaveGate => exact holds.elim
    | _ => exact .inl holds
  · exact .inl holds

end Duty

theorem Duty.kinds_of_may_queue {duty : Duty} {content : Bytes} (mayQueue : duty.mayQueue content) :
    content = [] ∨ IsOrdinary content ∨ IsClosing content := by
  cases duty with
  | free => exact .inl mayQueue
  | checked => exact mayQueue.imp_right .inl
  | claimant => exact .inr (.inr mayQueue)
  | _ => exact mayQueue.elim

theorem Script.Keeps.follows {Result : Type} {post : Result → Duty → Prop} {script : Script Result}
    {duty : Duty} (keeps : script.Keeps post duty) (actor : Nat) :
    script.Follows Duty.conduct actor post duty := by
  induction script generalizing duty with
  | done result => exact keeps
  | act action next induction =>
      refine ⟨.inl keeps.1, fun reply => ?_⟩
      rw [Duty.after_of_permits keeps.1]
      exact induction reply (keeps.2 reply)

namespace Connection

open Script

theorem proceed_follows (setup : Setup) (isOpen : Bool) (leftover : Bytes) (actor : Nat) :
    (proceed setup isOpen leftover).Follows Duty.conduct actor (fun _ after => after.IsIdle)
      .free := by
  have idle : Duty.free.IsIdle := trivial
  cases isOpen with
  | false => exact (keeps_teardown setup idle).follows actor
  | true =>
      refine Follows.perform (.inr ⟨trivial, rfl⟩) fun isMoved => ?_
      cases isMoved with
      | false => exact trivial
      | true =>
          have starts := keeps_bind (keeps_notify setup .opened .free)
            fun _ _ same => keeps_start setup leftover (same ▸ idle)
          exact starts.follows actor

end Connection

namespace World

open Script

theorem joins_follows {setup : Setup} {script : Script (Option Task)} (joins : Joins setup script)
    (actor : Nat) :
    script.Follows Duty.conduct actor (fun _ duty => duty.IsIdle) .free := by
  have idle : Duty.free.IsIdle := trivial
  cases joins with
  | opening isOpen leftover =>
      exact (Connection.proceed_follows setup isOpen leftover actor).bind fun _ _ idle => idle
  | call call id =>
      exact ((call.keeps setup idle).follows actor).bind
        fun _ _ idle => ⟨.inl trivial, fun _ => idle⟩
  | task task => exact (task.keeps setup idle).follows actor
  | errand errand => exact ((errand.keeps setup idle).follows actor).bind fun _ _ idle => idle

theorem session_respects_duty (setup : Setup) :
    session.Respects Duty.conduct (fun _ duty => duty.IsIdle) setup where
  begins := joins_follows
  spawns _ other := joins_follows (.task _) other
  resumes idle := (Task.keeps setup _ idle).follows _

end World

theorem Action.phase_of_effect {setup : Setup} {actor : Nat} {action : Action} {hub : Hub}
    {effect : Effect action.Reply} (member : effect ∈ action.effects setup actor hub) :
    effect.hub.phase = hub.phase ∨ action = .closePhase ∧ effect.hub.phase = .closed ∨
      ∃ source target, (⟨actor, action, effect.reply⟩ : Happening) =
        ⟨actor, .movePhase source target, some true⟩ ∧ hub.phase = source ∧
          effect.hub.phase = target := by
  cases plain : action.isPlain with
  | true => exact .inl (Action.agrees_of_plain plain member).phase
  | false =>
      cases action with
      | movePhase source target =>
          simp only [Action.effects] at member
          split at member
          · rename_i there
            obtain rfl := List.mem_singleton.mp member
            exact .inr (.inr ⟨source, target, rfl, there, rfl⟩)
          · obtain rfl := List.mem_singleton.mp member
            exact .inl rfl
      | closePhase =>
          obtain rfl := List.mem_singleton.mp member
          exact .inr (.inl ⟨rfl, rfl⟩)
      | enterGate =>
          simp only [Action.effects] at member
          split at member
          · obtain rfl := List.mem_singleton.mp member
            exact .inl rfl
          · cases member
      | readPhase | claimClose | queueForGate content | leaveGate =>
          obtain rfl := List.mem_singleton.mp member
          exact .inl rfl
      | _ => cases plain

/-- Who moved the phase, who holds the close, and who has put a Close frame in line. -/
structure Mandated (start : Hub) (history : History) (hub : Hub) : Prop where
  early : hub.phase = .handshaking ∨ hub.phase = .opened →
    ∀ happening ∈ history, ¬happening.IsMove
  opened : hub.phase = .opened →
    start.phase = .opened ∨ ∃ happening ∈ history, happening.IsOpening
  mover : ∀ actor, (history.stand Duty.conduct actor).HoldsClose →
    ⟨actor, .movePhase .opened .closing, some true⟩ ∈ history
  single : ∀ actor other, ⟨actor, .movePhase .opened .closing, some true⟩ ∈ history →
    ⟨other, .movePhase .opened .closing, some true⟩ ∈ history → actor = other
  moved : ∀ happening ∈ history, happening.IsHandover → ∃ earlier ∈ history, earlier.IsMove
  spent : ∀ happening ∈ history, happening.IsHandover →
    ∀ actor, ¬(history.stand Duty.conduct actor).HoldsClose

namespace Mandated

variable {start hub : Hub} {history : History} {setup : Setup} {actor : Nat} {action : Action}
variable {effect : Effect action.Reply}

theorem first (start : Hub) : Mandated start [] start where
  early _ _ absent := absurd absent List.not_mem_nil
  opened := .inl
  mover _ holds := holds.elim
  single _ _ absent := absurd absent List.not_mem_nil
  moved _ absent := absurd absent List.not_mem_nil
  spent _ absent := absurd absent List.not_mem_nil

theorem mem_of_append {happening newest : Happening} {Kind : Happening → Prop}
    (member : happening ∈ history ++ [newest]) (kind : Kind happening) (other : ¬Kind newest) :
    happening ∈ history := by
  rcases List.mem_append.mp member with member | member
  · exact member
  · exact absurd (List.mem_singleton.mp member ▸ kind) other

theorem move (mandated : Mandated start history hub) (there : hub.phase = .opened) :
    Mandated start (history ++ [⟨actor, .movePhase .opened .closing, some true⟩])
      { hub with phase := .closing } := by
  have none : ∀ happening ∈ history, ¬happening.IsMove := mandated.early (.inr there)
  have notHandover : ¬Happening.IsHandover ⟨actor, .movePhase .opened .closing, some true⟩ := by
    rintro ⟨_, _, _, same⟩
    cases same
  have newest : ∀ other, ⟨other, .movePhase .opened .closing, some true⟩ ∈
      history ++ [⟨actor, .movePhase .opened .closing, some true⟩] → other = actor := by
    intro other member
    rcases List.mem_append.mp member with member | member
    · exact absurd ⟨other, rfl⟩ (none _ member)
    · cases List.mem_singleton.mp member
      rfl
  have unspent : ∀ happening ∈ history ++ [⟨actor, .movePhase .opened .closing, some true⟩],
      ¬happening.IsHandover := by
    intro happening member handover
    obtain ⟨earlier, found, isMove⟩ :=
      mandated.moved happening (mem_of_append member handover notHandover) handover
    exact none earlier found isMove
  refine ⟨nofun, nofun, fun other holds => ?_, fun first second member memberToo => ?_, ?_, ?_⟩
  · by_cases own : actor = other
    · subst own
      exact List.mem_append_right _ List.mem_cons_self
    · rw [History.stand_other own] at holds
      exact List.mem_append_left _ (mandated.mover other holds)
  · rw [newest first member, newest second memberToo]
  · exact fun happening member handover => absurd handover (unspent happening member)
  · exact fun happening member handover => absurd handover (unspent happening member)

theorem phase_of_permitted
    (permitted : Duty.conduct.permits actor (history.stand Duty.conduct actor) action)
    (member : effect ∈ action.effects setup actor hub)
    (notMove : ¬Happening.IsMove ⟨actor, action, effect.reply⟩) :
    effect.hub.phase = hub.phase ∨ effect.hub.phase = .closed ∨
      hub.phase = .handshaking ∧ Happening.IsOpening ⟨actor, action, effect.reply⟩ := by
  rcases Action.phase_of_effect member with same | ⟨-, closed⟩ | ⟨source, target, same, there, reached⟩
  · exact .inl same
  · exact .inr (.inl closed)
  · rw [same] at notMove ⊢
    obtain rfl : action = .movePhase source target := by cases effect; cases same; rfl
    rcases permitted with ⟨-, rfl, rfl⟩ | ⟨-, opening⟩
    · exact absurd ⟨actor, rfl⟩ notMove
    · cases opening
      exact .inr (.inr ⟨there, actor, rfl⟩)

theorem held_before
    (permitted : Duty.conduct.permits actor (history.stand Duty.conduct actor) action)
    {reply : Option action.Reply} (notMove : ¬Happening.IsMove ⟨actor, action, reply⟩) {other : Nat}
    (holds : (History.stand (history ++ [⟨actor, action, reply⟩]) Duty.conduct other).HoldsClose) :
    (history.stand Duty.conduct other).HoldsClose := by
  by_cases own : actor = other
  · subst own
    cases reply with
    | none => rwa [History.stand_waiting] at holds
    | some reply =>
        rw [History.stand_own] at holds
        exact (Duty.holds_before permitted holds).resolve_right notMove
  · rwa [History.stand_other own] at holds

theorem of_handover
    (permitted : Duty.conduct.permits actor (history.stand Duty.conduct actor) action)
    (reply : Option action.Reply) (handover : Happening.IsHandover ⟨actor, action, reply⟩) :
    (history.stand Duty.conduct actor).HoldsClose ∧
      ¬(History.stand (history ++ [⟨actor, action, reply⟩]) Duty.conduct actor).HoldsClose := by
  obtain ⟨_, content, closing, same⟩ := handover
  cases same
  have nonempty : content ≠ [] := fun empty => not_closing_nil (empty ▸ closing)
  have mayQueue := Duty.may_queue_of_permits permitted
  rw [Duty.claimant_of_closing mayQueue nonempty closing, History.stand_own]
  exact ⟨trivial, id⟩

theorem pass (mandated : Mandated start history hub)
    (permitted : Duty.conduct.permits actor (history.stand Duty.conduct actor) action)
    (member : effect ∈ action.effects setup actor hub)
    (notMove : ¬Happening.IsMove ⟨actor, action, effect.reply⟩) :
    Mandated start (history ++ [⟨actor, action, effect.reply⟩]) effect.hub := by
  have changes := phase_of_permitted permitted member notMove
  have older : ∀ {happening : Happening}, happening.IsMove →
      happening ∈ history ++ [⟨actor, action, effect.reply⟩] → happening ∈ history :=
    fun isMove member => mem_of_append member isMove notMove
  refine ⟨fun before happening member isMove => ?_, fun opened => ?_, fun other holds => ?_,
    fun first second member memberToo => ?_, fun happening member handover => ?_,
    fun happening member handover other holds => ?_⟩
  · refine mandated.early ?_ happening (older isMove member) isMove
    rcases changes with same | closed | ⟨there, -⟩
    · exact same ▸ before
    · rw [closed] at before
      exact absurd before (by decide)
    · exact .inl there
  · rcases changes with same | closed | ⟨-, opening⟩
    · rcases mandated.opened (same ▸ opened) with first | ⟨happening, found, opening⟩
      · exact .inl first
      · exact .inr ⟨happening, List.mem_append_left _ found, opening⟩
    · cases closed.symm.trans opened
    · exact .inr ⟨_, List.mem_append_right _ List.mem_cons_self, opening⟩
  · exact List.mem_append_left _ (mandated.mover other (held_before permitted notMove holds))
  · exact mandated.single first second (older ⟨first, rfl⟩ member) (older ⟨second, rfl⟩ memberToo)
  · rcases List.mem_append.mp member with member | newest
    · obtain ⟨earlier, found, isMove⟩ := mandated.moved happening member handover
      exact ⟨earlier, List.mem_append_left _ found, isMove⟩
    · obtain rfl := List.mem_singleton.mp newest
      have mover := mandated.mover actor (of_handover permitted _ handover).1
      exact ⟨_, List.mem_append_left _ mover, actor, rfl⟩
  · have before := held_before permitted notMove holds
    rcases List.mem_append.mp member with member | newest
    · exact mandated.spent happening member handover other before
    · obtain rfl := List.mem_singleton.mp newest
      obtain ⟨held, gone⟩ := of_handover permitted _ handover
      obtain rfl := mandated.single _ _ (mandated.mover other before) (mandated.mover actor held)
      exact gone holds

theorem drift {next : Hub} (mandated : Mandated start history hub) (drifts : hub.Drift next) :
    Mandated start history next := by
  cases drifts <;>
    exact ⟨mandated.early, mandated.opened, mandated.mover, mandated.single, mandated.moved,
      mandated.spent⟩

theorem step (mandated : Mandated start history hub)
    (permitted : Duty.conduct.permits actor (history.stand Duty.conduct actor) action)
    (member : effect ∈ action.effects setup actor hub) :
    Mandated start (history ++ [⟨actor, action, effect.reply⟩]) effect.hub := by
  by_cases isMove : Happening.IsMove ⟨actor, action, effect.reply⟩
  · obtain ⟨mover, same⟩ := isMove
    obtain ⟨hub, reply, spawned⟩ := effect
    cases same
    simp only [Action.effects] at member
    split at member
    · rename_i there
      cases List.mem_singleton.mp member
      exact mandated.move there
    · cases List.mem_singleton.mp member
  · exact mandated.pass permitted member isMove

end Mandated

namespace World

variable {start world : World} {history : History} {place actor : Nat}

theorem mandated_of_run (empty : start.actors = []) (run : start.RunIn session history world) :
    Mandated start.hub history world.hub :=
  run.invariant (Mandated start.hub) (session_respects_duty start.setup) (obeys_of_empty empty _)
    (Mandated.first start.hub) Mandated.drift Mandated.step

theorem mandated_at (empty : start.actors = []) (run : start.RunIn session history world)
    {happening : Happening} (found : history[place]? = some happening) :
    Duty.conduct.permits happening.actor
        (History.stand (history.take place) Duty.conduct happening.actor) happening.action ∧
      ∃ hub, Mandated start.hub (history.take place) hub ∧
        ∃ effect ∈ happening.action.effects start.setup happening.actor hub,
          effect.reply = happening.reply := by
  obtain ⟨before, stood, next, effect, earlier, here, doing, member, reply⟩ := run.at_place found
  have follows := (earlier.obeys (session_respects_duty start.setup)
    (obeys_of_empty empty _)).follows _ stood here
  rw [doing] at follows
  exact ⟨follows.1, before.hub, mandated_of_run empty earlier, effect, member, reply⟩

theorem opened_of_move (empty : start.actors = []) (run : start.RunIn session history world)
    (moves : history[place]? = some ⟨actor, .movePhase .opened .closing, some true⟩) :
    (∀ happening ∈ history.take place, ¬happening.IsMove) ∧
      (start.hub.phase = .opened ∨ ∃ opening opener, opening < place ∧
        history[opening]? = some ⟨opener, .movePhase .handshaking .opened, some true⟩) := by
  obtain ⟨-, hub, mandated, effect, member, reply⟩ := mandated_at empty run moves
  have there : hub.phase = .opened := by
    simp only [Action.effects] at member
    split at member
    · assumption
    · obtain rfl := List.mem_singleton.mp member
      cases reply
  refine ⟨mandated.early (.inr there), (mandated.opened there).imp_right ?_⟩
  rintro ⟨_, member, opener, rfl⟩
  obtain ⟨opening, earlier, found⟩ := History.place_of_mem member
  exact ⟨opening, opener, earlier, found⟩

theorem move_unique (empty : start.actors = []) (run : start.RunIn session history world)
    {move : Nat} {happening : Happening}
    (moves : history[move]? = some ⟨actor, .movePhase .opened .closing, some true⟩)
    (found : history[place]? = some happening) (isMove : happening.IsMove) : place = move := by
  obtain ⟨mover, rfl⟩ := isMove
  rcases Nat.lt_trichotomy place move with earlier | same | later
  · have none := (opened_of_move empty run moves).1
    exact absurd ⟨mover, rfl⟩ (none _ (History.mem_take earlier found))
  · exact same
  · have none := (opened_of_move empty run found).1
    exact absurd ⟨actor, rfl⟩ (none _ (History.mem_take later moves))

theorem not_later_handover (empty : start.actors = []) (run : start.RunIn session history world)
    {queue other : Nat} {content frame : Bytes} {index : Nat}
    (queues : history[queue]? = some ⟨actor, .queueForGate content, some ()⟩)
    (closing : IsClosing content)
    (again : history[other]? = some ⟨index, .queueForGate frame, some ()⟩)
    (closingToo : IsClosing frame) : ¬queue < other := by
  intro later
  obtain ⟨permitted, hub, mandated, -⟩ := mandated_at empty run again
  have handover : Happening.IsHandover ⟨actor, .queueForGate content, some ()⟩ :=
    ⟨actor, content, closing, rfl⟩
  have spent := mandated.spent _ (History.mem_take later queues) handover index
  exact spent (Mandated.of_handover permitted (some ()) ⟨index, frame, closingToo, rfl⟩).1

/-- What an actor puts in the gate's line is nothing, an ordinary frame or a Close
frame. There is at most one Close frame in a session. The one who puts it in line
is the one who has moved the connection from open to closing, and the connection
was open before that. -/
theorem one_close_frame (empty : start.actors = []) (run : start.RunIn session history world)
    {queue : Nat} {content : Bytes}
    (queues : history[queue]? = some ⟨actor, .queueForGate content, some ()⟩) :
    (content = [] ∨ IsOrdinary content ∨ IsClosing content) ∧
    (IsClosing content →
      (∀ other index frame, history[other]? = some ⟨index, .queueForGate frame, some ()⟩ →
        IsClosing frame → other = queue) ∧
      ∃ move, move < queue ∧
        history[move]? = some ⟨actor, .movePhase .opened .closing, some true⟩ ∧
        (∀ place happening, history[place]? = some happening → happening.IsMove → place = move) ∧
        (start.hub.phase = .opened ∨ ∃ opening opener, opening < move ∧
          history[opening]? = some ⟨opener, .movePhase .handshaking .opened, some true⟩)) := by
  obtain ⟨permitted, hub, mandated, -⟩ := mandated_at empty run queues
  refine ⟨?_, fun closing => ⟨fun other index frame again closingToo => ?_, ?_⟩⟩
  · exact Duty.kinds_of_may_queue (Duty.may_queue_of_permits permitted)
  · have notLater := not_later_handover empty run queues closing again closingToo
    have notEarlier := not_later_handover empty run again closingToo queues closing
    omega
  · have holds := (Mandated.of_handover permitted (some ()) ⟨actor, content, closing, rfl⟩).1
    obtain ⟨move, earlier, moves⟩ := History.place_of_mem (mandated.mover actor holds)
    refine ⟨move, earlier, moves, fun place happening found isMove => ?_,
      (opened_of_move empty run moves).2⟩
    exact move_unique empty run moves found isMove

/-- A handshake that has just succeeded, and a call that closes. -/
def closedAtOnce : History × World :=
  play [0, 1, 1, 1, 1, 1]
    ([], (World.addActor { setup := {} }
      ⟨(Connection.proceed {} true []).bind fun _ => .done none, false⟩).begin
        (Call.script {} (.close .normal "")) false)

theorem run_closed_at_once :
    RunIn session { setup := {} } closedAtOnce.1 closedAtOnce.2 :=
  run_in_of_play _ (.begin (.begin .refl (.opening true [])) (.call (.close .normal "") 1))

theorem one_close_frame_of_closed_at_once :
    closedAtOnce.1[5]? = some ⟨1, .queueForGate
        ((Frame.close (some 1000) "").serialize (some ⟨0, 0, 0, 0⟩)), some ()⟩ ∧
      (∀ other index frame,
        closedAtOnce.1[other]? = some ⟨index, .queueForGate frame, some ()⟩ →
          IsClosing frame → other = 5) ∧
      ∃ move, move < 5 ∧
        closedAtOnce.1[move]? = some ⟨1, .movePhase .opened .closing, some true⟩ := by
  have found : closedAtOnce.1[5]? = some ⟨1, .queueForGate
      ((Frame.close (some 1000) "").serialize (some ⟨0, 0, 0, 0⟩)), some ()⟩ := rfl
  obtain ⟨only, move, earlier, moves, -⟩ :=
    (one_close_frame rfl run_closed_at_once found).2 ⟨some 1000, "", ⟨0, 0, 0, 0⟩, rfl⟩
  exact ⟨found, only, move, earlier, moves⟩

end World

end WebSocket
