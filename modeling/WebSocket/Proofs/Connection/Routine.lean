import WebSocket.Proofs.Connection.Runs

/-!
What the scripts of a connection are made of. Apart from actions that only look
around, wait or tell somebody, a script opens the connection, sends ordinary
frames, tries to become the one who closes, and tears down. Whatever is to hold
of all scripts follows from what holds of these few parts.
-/

namespace WebSocket

/-- The action leaves alone what the actors settle among themselves: the phase,
the claim, the gate, what goes onto the wire, and the end of the connection. -/
def Action.isAside : Action → Bool
  | movePhase .. | closePhase | claimClose | cancelToken | announceClosed | queueForGate _ | enterGate
  | leaveGate | takeWriter | write .. | flush _ | shutdown _ | takeScheduler | tell _ .closed => false
  | _ => true

open Script Connection

/-- What the one who has moved the phase to closing comes to behind his Close frame: he tears the
connection down, or he leaves that to a watchdog. -/
inductive Concludes (setup : Setup) {Result : Type} (after : SendStatus → Script Result) : Prop where
  | watched (rest : SendStatus → Script Result)
      (same : ∀ status, after status = Script.bind
        (if status = .fatalError then teardown setup else perform (.spawn .watchdog)) fun _ => rest status)
  | tearsDown (rest : SendStatus → Script Result)
      (same : ∀ status, after status = (teardown setup).bind fun _ => rest status)

theorem Concludes.bind {setup : Setup} {Result Other : Type} {after : SendStatus → Script Result}
    (concludes : Concludes setup after) (next : Result → Script Other) :
    Concludes setup fun status => (after status).bind next := by
  rcases concludes with ⟨rest, same⟩ | ⟨rest, same⟩
  · refine .watched (fun status => (rest status).bind next) fun status => ?_
    rw [same, Script.bind_assoc]
  · refine .tearsDown (fun status => (rest status).bind next) fun status => ?_
    rw [same, Script.bind_assoc]

/-- A script that is put together from the parts that a connection knows. -/
inductive Routine (setup : Setup) {Result : Type} : Script Result → Prop where
  | done (result : Result) : Routine setup (.done result)
  | aside {action : Action} {next : action.Reply → Script Result} (aside : action.isAside = true)
      (rest : ∀ reply, Routine setup (next reply)) : Routine setup (.act action next)
  | opens {next : Bool → Script Result} (rest : ∀ isMoved, Routine setup (next isMoved)) :
      Routine setup (.act (.movePhase .handshaking .opened) next)
  | sends {frame : Frame} {next : SendStatus → Script Result} (ordinary : frame.opcode ≠ .close)
      (rest : ∀ status, Routine setup (next status)) : Routine setup ((transmit setup frame).bind next)
  | closes (code : Option UInt16) (reason : String) {next : Bool → Script Result}
      {after : SendStatus → Script Result}
      (owner : next true = (sendCloseOnce setup (.close code reason)).bind after)
      (concludes : Concludes setup after)
      (rest : ∀ status, Routine setup (after status)) (late : Routine setup (next false)) :
      Routine setup (.act (.movePhase .opened .closing) next)
  | tearsDown {next : Unit → Script Result} (rest : Routine setup (next ())) :
      Routine setup ((teardown setup).bind next)

namespace Routine

variable {setup : Setup} {Result Other : Type}

theorem bind {script : Script Result} {next : Result → Script Other} (first : Routine setup script)
    (rest : ∀ result, Routine setup (next result)) : Routine setup (script.bind next) := by
  induction first with
  | done result => exact rest result
  | aside isAside _ induction => exact .aside isAside induction
  | opens _ induction => exact .opens induction
  | sends ordinary _ induction =>
      rw [Script.bind_assoc]
      exact .sends ordinary induction
  | @closes code reason _ _ owner concludes _ _ induction late =>
      refine .closes code reason ?_ (concludes.bind next) induction late
      rw [owner, Script.bind_assoc]
  | tearsDown _ induction =>
      rw [Script.bind_assoc]
      exact .tearsDown induction

theorem ite {condition : Prop} [Decidable condition] {first second : Script Result}
    (yes : Routine setup first) (no : Routine setup second) :
    Routine setup (if condition then first else second) := by
  split
  · exact yes
  · exact no

theorem perform {action : Action} {next : action.Reply → Script Result}
    (isAside : action.isAside = true) (rest : ∀ reply, Routine setup (next reply)) :
    Routine setup (Script.perform action >>= next) := .aside isAside rest

theorem of_teardown : Routine setup (teardown setup) := by
  rw [← bind_done (teardown setup)]
  exact .tearsDown (.done ())

theorem of_transmit {frame : Frame} (ordinary : frame.opcode ≠ .close) :
    Routine setup (transmit setup frame) := by
  rw [← bind_done (transmit setup frame)]
  exact .sends ordinary .done

theorem of_notify {event : Event} (goesOn : event ≠ .closed) : Routine setup (notify setup event) := by
  have isAside : ∀ index, (Action.tell index event).isAside = true := by
    intro index
    cases event with
    | closed => exact absurd rfl goesOn
    | _ => rfl
  unfold notify
  induction List.range setup.observers.length with
  | nil => exact .done ()
  | cons index rest induction => exact .aside (isAside index) fun _ => induction

theorem of_is_open : Routine setup isOpen := .aside rfl fun _ => .done _

theorem of_begin_close (code : Option UInt16) (reason : String) :
    Routine setup (beginClose setup code reason) := by
  have watched (status : SendStatus) :
      (if status = .fatalError then (teardown setup).bind fun _ => .done status
        else (Script.perform (.spawn .watchdog)).bind fun _ => .done status) =
        Script.bind (if status = .fatalError then teardown setup else Script.perform (.spawn .watchdog))
          fun _ => .done status := by
    split <;> rfl
  refine .closes code reason rfl (.watched .done watched) (fun status => ?_) (.done SendStatus.error)
  exact ite (bind of_teardown fun _ => .done _) (perform rfl fun _ => .done _)

theorem of_handle_peer_close (frame : Option CloseFrame) :
    Routine setup (handlePeerClose setup frame) :=
  perform rfl fun _ => .closes _ _ rfl (.tearsDown (fun _ => .done ()) fun _ => (bind_done _).symm)
    (fun _ => of_teardown) of_teardown

theorem of_fail (code : UInt16) (reason : String) : Routine setup (fail setup code reason) :=
  .closes _ _ rfl (.tearsDown (fun _ => .done ()) fun _ => (bind_done _).symm)
    (fun _ => of_teardown) of_teardown

theorem of_refuse : Routine setup refuse := .aside rfl fun _ => .done _

theorem of_send_frame (frame : Frame) : Routine setup (sendFrame setup frame) := by
  refine perform rfl fun phase => ite of_refuse ?_
  cases frame.validate with
  | error failure => exact .done _
  | ok _ =>
      dsimp only
      split
      · split
        · exact .done _
        · exact bind (of_begin_close _ _) fun _ => .done _
      · rename_i ordinary
        exact bind (of_transmit ordinary) fun _ => ite (bind of_teardown fun _ => .done _) (.done _)

theorem of_await_closed : Routine setup awaitClosed := .aside rfl fun _ => .done ()

theorem of_close (code : CloseCode) (reason : String) :
    Routine setup (Connection.close setup code reason) := by
  have awaits : Routine setup (awaitClosed.bind fun _ => .done (.ok () : Except Error Unit)) :=
    bind of_await_closed fun _ => .done _
  refine ite (.done _) (perform rfl fun phase => ?_)
  cases phase with
  | opened => exact bind (of_begin_close _ _) fun _ => awaits
  | closing => exact awaits
  | handshaking => exact bind of_teardown fun _ => awaits
  | closed => exact .done _

theorem of_watchdog : Routine setup (watchdog setup) := by
  refine perform rfl fun _ => perform rfl fun isClosed => ?_
  exact ite (bind of_teardown fun _ => .done _) (.done _)

theorem of_protocol_failure (failure : Error) : Routine setup (protocolFailure setup failure) :=
  bind (of_fail _ _) fun _ => .done _

theorem of_deliver (message : Message) (assembler : Assembler) :
    Routine setup (deliver setup message assembler) := by
  unfold deliver
  split
  · exact of_protocol_failure _
  · exact bind (of_notify nofun) fun _ => .done _
  · exact bind (of_notify nofun) fun _ => .done _

theorem of_answer_ping (payload : Bytes) (assembler : Assembler) :
    Routine setup (answerPing setup payload assembler) := by
  refine bind (of_notify nofun) fun _ => bind of_is_open fun _ => ite (.done _) ?_
  have ordinary : (Frame.pong payload).opcode ≠ .close := nofun
  exact bind (of_transmit ordinary) fun _ => ite (bind (of_fail _ _) fun _ => .done _) (.done _)

theorem of_dispatch (assembler : Assembler) (frame : Frame) :
    Routine setup (dispatch setup assembler frame) := by
  unfold dispatch
  split
  · exact of_protocol_failure _
  · split
    · exact of_answer_ping _ assembler
    · exact bind (of_notify nofun) fun _ => .done _
    · split
      · exact of_protocol_failure _
      · exact bind (of_notify nofun) fun _ => bind (of_handle_peer_close _) fun _ => .done _
    · split
      · exact of_protocol_failure _
      · exact .done _
      · exact of_deliver _ _

theorem of_skip_unexpected (opcode : Byte) : Routine setup (skipUnexpected setup opcode) := by
  refine bind (of_notify nofun) fun _ => ite (bind of_is_open fun _ => ite ?_ (.done ())) (.done ())
  exact bind (of_begin_close _ _) fun _ => .done ()

theorem of_read_more (pending : Bytes) (assembler : Assembler) :
    Routine setup (readMore setup pending assembler) := by
  refine perform rfl fun _ => ite (bind of_teardown fun _ => .done _) ?_
  refine perform rfl fun _ => perform rfl fun reading => ?_
  cases reading with
  | data bytes => exact .done _
  | timedOut => exact .done _
  | _ => exact bind of_teardown fun _ => .done _

theorem of_receive (pending : Bytes) (assembler : Assembler) :
    Routine setup (receive setup pending assembler) := by
  unfold receive
  split
  · exact bind (of_fail _ _) fun _ => .done _
  · exact of_read_more pending assembler
  · exact bind (of_skip_unexpected _) fun _ => .done _
  · exact bind (of_dispatch assembler _) fun _ => .done _

theorem of_await_turn (scheduler period : Nat) (due : Option Nat) :
    Routine setup (awaitTurn setup scheduler period due) := by
  refine perform rfl fun _ => perform rfl fun _ => ite (.done _) ?_
  refine perform rfl fun _ => perform rfl fun _ => perform rfl fun _ => ?_
  exact ite (perform rfl fun _ => .done _) (.done _)

theorem of_send_keepalive (count : Nat) : Routine setup (sendKeepalive setup count) :=
  perform rfl fun _ => perform rfl fun _ => bind (of_send_frame _) fun _ => .done _

theorem of_keepalive (scheduler : Nat) (due : Option Nat) (count : Nat) :
    Routine setup (keepalive setup scheduler due count) := by
  refine bind (of_await_turn scheduler _ due) fun tick => ?_
  cases tick with
  | none => exact .done _
  | some tick =>
      have body : Routine setup
          (isOpen.bind fun isOpen => if isOpen then sendKeepalive setup (count + 1) else pure false) :=
        bind of_is_open fun _ => ite (of_send_keepalive _) (.done _)
      refine ite (.done _) (bind body fun _ => perform rfl fun _ => ?_)
      exact ite (.done _) (.done _)

theorem of_run_hook : Routine setup (runHook setup) := by
  have lasts : Routine setup
      (Script.perform .readClock >>= fun start =>
        if 0 < setup.hook.lasts start then do
          let _ ← Script.perform (.sleep (start + setup.hook.lasts start) none)
          if setup.hook.isAnnounced then Script.perform (.report 0 .hookEnded)
        else pure () : Script Unit) := by
    refine perform rfl fun _ => ite (perform rfl fun _ => ite ?_ (.done ())) (.done ())
    exact .aside rfl fun _ => .done ()
  unfold runHook
  cases setup.hook.sends with
  | none => exact ite (perform rfl fun _ => lasts) lasts
  | some content =>
      have sent := bind (of_send_frame (.text content)) fun _ => lasts
      exact ite (perform rfl fun _ => sent) sent

theorem of_maintenance (scheduler : Nat) (due : Option Nat) :
    Routine setup (maintenance setup scheduler due) := by
  refine bind (of_await_turn scheduler _ due) fun tick => ?_
  cases tick with
  | none => exact .done _
  | some tick =>
      refine ite (.done _) (bind of_is_open fun _ => ite ?_ (perform rfl fun _ => .done _))
      exact bind of_run_hook fun _ => perform rfl fun _ => .done _

theorem of_start_scheduler : Routine setup (startScheduler setup) := by
  have maintained (scheduler : Nat) : Routine setup
      (if isRunning setup.config.maintenance then do
        Script.perform (.spawn (.maintenance scheduler none))
        return scheduler
      else return scheduler : Script Nat) :=
    ite (perform rfl fun _ => .done _) (.done _)
  refine perform rfl fun scheduler => ite ?_ (maintained scheduler)
  exact perform rfl fun _ => maintained scheduler

theorem of_start (leftover : Bytes) : Routine setup (start setup leftover) := by
  refine perform rfl fun _ => ite (bind of_start_scheduler fun _ => ?_) (.done ())
  exact .aside rfl fun _ => .done ()

end Routine

namespace Connection

def proceed (setup : Setup) (isOpen : Bool) (leftover : Bytes) : Script Unit := do
  if !isOpen then teardown setup
  else if ← perform (.movePhase .handshaking .opened) then
    notify setup .opened
    start setup leftover

theorem connect_eq {setup : Setup} {timeout : Nat} {request : Request} {text : String}
    (written : request.write = (.ok (), text)) :
    connect setup timeout request =
      (notify setup (.request text)).bind fun _ =>
        (exchange setup.config.limits timeout request).bind fun exchanged =>
          let (outcome, leftover) := judge setup request exchanged
          (notify setup (.response outcome.response)).bind fun _ =>
            (proceed setup outcome.isOpen leftover).bind fun _ => .done (.ok outcome) := by
  unfold connect
  rw [written]
  refine congrArg (Script.bind _) (funext fun _ => congrArg (Script.bind _) (funext fun exchanged => ?_))
  obtain ⟨outcome, leftover⟩ := judge setup request exchanged
  refine congrArg (Script.bind _) (funext fun _ => ?_)
  unfold proceed
  cases outcome.isOpen with
  | false => rfl
  | true =>
      refine congrArg (act _) (funext fun isMoved => ?_)
      cases isMoved with
      | false => rfl
      | true => exact (Script.bind_assoc (notify setup .opened) _ _).symm

end Connection

open Connection

namespace Routine

variable {setup : Setup}

theorem of_proceed (isOpen : Bool) (leftover : Bytes) :
    Routine setup (proceed setup isOpen leftover) := by
  refine ite of_teardown (.opens fun isMoved => ite ?_ (.done ()))
  exact bind (of_notify nofun) fun _ => of_start leftover

theorem of_task (task : Task) : Routine setup (task.script setup) := by
  cases task with
  | receive pending assembler => exact of_receive pending assembler
  | watchdog => exact of_watchdog
  | keepalive scheduler due count => exact of_keepalive scheduler due count
  | maintenance scheduler due => exact of_maintenance scheduler due

theorem of_call (call : Call) : Routine setup (call.script setup) := by
  cases call with
  | send frame => exact bind (of_send_frame frame) fun _ => .done _
  | close code reason => exact bind (of_close code reason) fun _ => .done _
  | awaitClosed => exact bind of_await_closed fun _ => .done _

theorem of_errand (errand : Errand) : Routine setup (errand.script setup) := by
  cases errand with
  | start leftover => exact of_start leftover
  | schedule => exact bind of_start_scheduler fun _ => .done ()
  | stop scheduler => exact .aside rfl fun _ => .done ()

end Routine

end WebSocket
