import WebSocket.Proofs.Connection.Teardown

/-!
Who does what on a connection. Only the receive loop looks at the token, reads, and tells what has
come in; only the timers wait for ticks and guards. Everything else is common: whoever sends,
closes or tears down, and whoever only begins the loop and the timers, leaves their business alone.
-/

namespace WebSocket

/-- What the observers are told of the peer's frames. -/
def Event.isInbound : Event → Bool
  | text _ | binary _ | ping _ | pong _ | close _ | unexpected _ => true
  | _ => false

namespace Action

/-- The actions by which the receive loop gets hold of the peer's frames and hands them on. -/
def isOfLoop : Action → Bool
  | readToken | read .. => true
  | tell _ event => event.isInbound
  | _ => false

/-- The actions by which a timer waits for its turn and ends it. -/
def isOfTimer : Action → Bool
  | awaitTick .. | queueForGuard _ | enterGuard .. | leaveGuard _ | countSkip _ => true
  | _ => false

def isCommon (action : Action) : Bool := !action.isOfLoop && !action.isOfTimer

variable {action : Action}

theorem not_of_loop (common : action.isCommon = true) : action.isOfLoop = false :=
  (Bool.not_eq_true' _).mp (Bool.and_eq_true_iff.mp common).1

theorem not_of_timer (common : action.isCommon = true) : action.isOfTimer = false :=
  (Bool.not_eq_true' _).mp (Bool.and_eq_true_iff.mp common).2

end Action

open Script Connection

def Script.IsCommon {Result : Type} (script : Script Result) : Prop :=
  script.All fun action => action.isCommon = true

def Script.IsPassing (script : Script (Option Task)) : Prop :=
  ∃ (Result : Type) (part : Script Result), part.IsCommon ∧ script = part.bind fun _ => .done none

namespace Script.IsCommon

variable {setup : Setup}

theorem of_notify {event : Event} (own : event.isInbound = false) : (notify setup event).IsCommon :=
  notify_tells setup fun _ => by simp [Action.isCommon, Action.isOfLoop, Action.isOfTimer, own]

theorem of_is_open : isOpen.IsCommon := ⟨rfl, fun _ => trivial⟩

theorem of_transmit (frame : Frame) : (transmit setup frame).IsCommon := by
  apply (transmit_sends setup frame).mono
  intro action sending
  cases action with
  | tell observer event => cases event <;> first | rfl | exact sending.elim
  | _ => first | rfl | exact sending.elim

theorem of_teardown : (teardown setup).IsCommon := by
  apply (teardown_tears setup).mono
  intro action tearing
  cases action with
  | tell observer event => cases event <;> first | rfl | exact tearing.elim
  | _ => first | rfl | exact tearing.elim

theorem of_send_close_once (frame : Frame) : (sendCloseOnce setup frame).IsCommon :=
  All.perform rfl fun _ => All.ite (of_transmit frame) trivial

theorem of_begin_close (code : Option UInt16) (reason : String) :
    (beginClose setup code reason).IsCommon := by
  refine All.perform rfl fun _ => All.ite (All.bind (of_send_close_once _) fun status => ?_) trivial
  exact All.ite (All.bind of_teardown fun _ => trivial) (All.perform rfl fun _ => trivial)

theorem of_handle_peer_close (frame : Option CloseFrame) :
    (handlePeerClose setup frame).IsCommon := by
  refine All.perform rfl fun _ => All.perform rfl fun _ => All.ite ?_ of_teardown
  exact All.bind (of_send_close_once _) fun _ => of_teardown

theorem of_fail (code : UInt16) (reason : String) : (fail setup code reason).IsCommon :=
  All.perform rfl fun _ => All.ite (All.bind (of_send_close_once _) fun _ => of_teardown) of_teardown

theorem of_send_frame (frame : Frame) : (sendFrame setup frame).IsCommon := by
  refine All.perform rfl fun phase => All.ite (All.perform rfl fun _ => trivial) ?_
  cases frame.validate with
  | error failure => exact trivial
  | ok _ =>
      dsimp only
      split
      · split
        · exact trivial
        · exact All.bind (of_begin_close _ _) fun _ => trivial
      · exact All.bind (of_transmit frame) fun _ => All.ite (All.bind of_teardown fun _ => trivial) trivial

theorem of_await_closed : awaitClosed.IsCommon := All.perform rfl fun _ => trivial

theorem of_close (code : CloseCode) (reason : String) :
    (Connection.close setup code reason).IsCommon := by
  have awaits : (awaitClosed.bind fun _ => .done (.ok () : Except Error Unit)).IsCommon :=
    All.bind of_await_closed fun _ => trivial
  refine All.ite trivial (All.perform rfl fun phase => ?_)
  cases phase with
  | opened => exact All.bind (of_begin_close _ _) fun _ => awaits
  | closing => exact awaits
  | handshaking => exact All.bind of_teardown fun _ => awaits
  | closed => exact trivial

theorem of_watchdog : (watchdog setup).IsCommon :=
  All.perform rfl fun _ => All.perform rfl fun _ => All.ite (All.bind of_teardown fun _ => trivial) trivial

theorem of_start_scheduler : (startScheduler setup).IsCommon := by
  have maintained (scheduler : Nat) :
      (if isRunning setup.config.maintenance then do
        Script.perform (.spawn (.maintenance scheduler none))
        return scheduler
      else return scheduler : Script Nat).IsCommon :=
    All.ite (All.perform rfl fun _ => trivial) trivial
  refine All.perform rfl fun scheduler => All.ite ?_ (maintained scheduler)
  exact All.perform rfl fun _ => maintained scheduler

theorem of_start (leftover : Bytes) : (start setup leftover).IsCommon := by
  refine All.perform rfl fun _ => All.ite (All.bind of_start_scheduler fun _ => ?_) trivial
  exact All.perform rfl fun _ => trivial

theorem of_proceed (isOpen : Bool) (leftover : Bytes) : (proceed setup isOpen leftover).IsCommon := by
  refine All.ite of_teardown (All.perform rfl fun _ => All.ite ?_ trivial)
  exact All.bind (of_notify rfl) fun _ => of_start leftover

theorem of_call (call : Call) : (call.script setup).IsCommon := by
  cases call with
  | send frame => exact All.bind (of_send_frame frame) fun _ => trivial
  | close code reason => exact All.bind (of_close code reason) fun _ => trivial
  | awaitClosed => exact All.bind of_await_closed fun _ => trivial

theorem of_errand (errand : Errand) : (errand.script setup).IsCommon := by
  cases errand with
  | start leftover => exact of_start leftover
  | schedule => exact All.bind of_start_scheduler fun _ => trivial
  | stop scheduler => exact All.perform rfl fun _ => trivial

theorem of_send_keepalive (count : Nat) : (sendKeepalive setup count).IsCommon :=
  All.perform rfl fun _ => All.perform rfl fun _ => All.bind (of_send_frame _) fun _ => trivial

theorem of_run_hook : (runHook setup).IsCommon := by
  have lasts : (Script.perform .readClock >>= fun start =>
      if 0 < setup.hook.lasts start then do
        let _ ← Script.perform (.sleep (start + setup.hook.lasts start) none)
        if setup.hook.isAnnounced then Script.perform (.report 0 .hookEnded)
      else pure () : Script Unit).IsCommon := by
    refine All.perform rfl fun _ => All.ite (All.perform rfl fun _ => All.ite ?_ trivial) trivial
    exact All.perform rfl fun _ => trivial
  unfold runHook
  cases setup.hook.sends with
  | none => exact All.ite (All.perform rfl fun _ => lasts) lasts
  | some content =>
      have sends : (sendFrame setup (.text content)).IsCommon := of_send_frame _
      have sent := All.bind sends fun _ => lasts
      exact All.ite (All.perform rfl fun _ => sent) sent

end Script.IsCommon

theorem Connection.await_turn_waits (setup : Setup) (scheduler period : Nat) (due : Option Nat) :
    (awaitTurn setup scheduler period due).All fun action =>
      action = .readClock ∨ action.isOfTimer = true := by
  refine ⟨.inl rfl, fun _ => ⟨.inr rfl, fun isTick => ?_⟩⟩
  cases isTick with
  | false => exact trivial
  | true =>
      refine ⟨.inl rfl, fun _ => ⟨.inr rfl, fun _ => ⟨.inr rfl, fun isHeld => ?_⟩⟩⟩
      cases isHeld with
      | false => exact ⟨.inr rfl, fun _ => trivial⟩
      | true => exact trivial

namespace World

variable {setup : Setup}

theorem Joins.passes {script : Script (Option Task)} (joins : Joins setup script) :
    script.IsPassing ∨ ∃ task : Task, script = task.script setup := by
  cases joins with
  | opening isOpen leftover => exact .inl ⟨_, _, .of_proceed isOpen leftover, rfl⟩
  | call call id =>
      refine .inl ⟨_, (call.script setup).bind fun result => Script.perform (.report id result), ?_, ?_⟩
      · exact All.bind (IsCommon.of_call call) fun _ => ⟨rfl, fun _ => trivial⟩
      · rw [Script.bind_assoc]
        rfl
  | task task => exact .inr ⟨task, rfl⟩
  | errand errand => exact .inl ⟨_, _, .of_errand errand, rfl⟩

theorem Operates.passes {script : Script (Option Task)} (operates : Operates setup script) :
    script.IsPassing ∨ ∃ task : Task, script = task.script setup := by
  cases operates with
  | joins joins => exact joins.passes
  | markOpen =>
      exact .inl ⟨_, Script.perform (.movePhase .handshaking .opened), ⟨rfl, fun _ => trivial⟩, rfl⟩
  | beginClose code reason => exact .inl ⟨_, _, .of_begin_close code reason, rfl⟩
  | handlePeerClose frame => exact .inl ⟨_, _, .of_handle_peer_close frame, rfl⟩
  | fail code reason => exact .inl ⟨_, _, .of_fail code reason, rfl⟩
  | teardown => exact .inl ⟨_, _, .of_teardown, rfl⟩

end World

end WebSocket
