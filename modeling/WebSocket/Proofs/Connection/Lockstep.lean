import WebSocket.Proofs.Connection.Conduct
import WebSocket.Proofs.Connection.Outline

/-!
Two connections in step. Their setups differ in the observers, of which both have equally many, and
in the source of the mask keys. None of their scripts looks at what an observer answers, and so both
always do the same, each with its own random digits; and whoever has something to tell tells it to
one observer after the other before going on with anything else.
-/

namespace WebSocket

open Script

/-- Two setups that differ in the observers and in the source of the mask keys only. -/
structure Twins where
  mine : Setup
  observers : Observers
  keys : KeySource
  same : observers.length = mine.observers.length

namespace Twins

def yours (twins : Twins) : Setup :=
  { twins.mine with observers := twins.observers, maskKey := twins.keys }

def count (twins : Twins) : Nat := twins.mine.observers.length

end Twins

/-- How far a notification has come when `told` of `count` observers have been told; nothing if it
has not begun yet or is over. -/
def Notice.underway (notice : Notice) (count told : Nat) : Option (Notice × Nat) :=
  if 0 < told ∧ told < count then some (notice, told) else none

/-- The action neither depends on the keys nor leaves a trace on the wire or in the journal. -/
def Action.isKeyless : Action → Bool
  | tell .. | queueForGate _ | write .. | drawKey | report .. => false
  | _ => true

variable {twins : Twins} {Result Other : Type} {telling : Option (Notice × Nat)}

/-- Two scripts that do the same, each with the keys of its own connection. An actor that has begun
to tell something tells all observers in turn before it does anything else. -/
inductive Script.InStep (twins : Twins) : Option (Notice × Nat) → Script Result → Script Result → Prop where
  | done (result : Result) : InStep twins none (.done result) (.done result)
  | keyless {action : Action} {next other : action.Reply → Script Result}
      (keyless : action.isKeyless = true)
      (rest : ∀ reply, InStep twins none (next reply) (other reply)) :
      InStep twins none (.act action next) (.act action other)
  | report (id : Nat) (content : Report) {next other : Unit → Script Result}
      (rest : InStep twins none (next ()) (other ())) :
      InStep twins none (.act (.report id content) next) (.act (.report id content) other)
  | queue (content copy : Bytes) {next other : Unit → Script Result}
      (rest : InStep twins none (next ()) (other ())) :
      InStep twins none (.act (.queueForGate content) next) (.act (.queueForGate copy) other)
  | draw {next other : MaskKey → Script Result}
      (rest : ∀ number, InStep twins none (next (twins.mine.maskKey number)) (other (twins.keys number))) :
      InStep twins none (.act .drawKey next) (.act .drawKey other)
  | write (stretch : Stretch) (deadline : Nat) {next other : Transfer → Script Result}
      (rest : ∀ reply, InStep twins none (next reply) (other reply)) :
      InStep twins none (.act (.write (stretch.bytes twins.mine.maskKey) deadline) next)
        (.act (.write (stretch.bytes twins.keys) deadline) other)
  | tell {telling : Option (Notice × Nat)} (notice : Notice) (observer : Nat)
      {next other : Unit → Script Result} (turn : telling = notice.underway twins.count observer)
      (within : observer < twins.count)
      (rest : InStep twins (notice.underway twins.count (observer + 1)) (next ()) (other ())) :
      InStep twins telling (.act (.tell observer (notice.event twins.mine.maskKey)) next)
        (.act (.tell observer (notice.event twins.keys)) other)

namespace Script.InStep

theorem bind {script copy : Script Result} {next other : Result → Script Other}
    (first : InStep twins telling script copy)
    (rest : ∀ result, InStep twins none (next result) (other result)) :
    InStep twins telling (script.bind next) (copy.bind other) := by
  induction first with
  | done result => exact rest result
  | keyless same _ induction => exact .keyless same induction
  | report id content _ induction => exact .report id content induction
  | queue content copy _ induction => exact .queue content copy induction
  | draw _ induction => exact .draw induction
  | write stretch deadline _ induction => exact .write stretch deadline induction
  | tell notice observer turn within _ induction => exact .tell notice observer turn within induction

theorem ite {condition : Prop} [Decidable condition] {first second third fourth : Script Result}
    (yes : InStep twins telling first third) (no : InStep twins telling second fourth) :
    InStep twins telling (if condition then first else second) (if condition then third else fourth) := by
  split
  · exact yes
  · exact no

theorem perform {action : Action} {next other : action.Reply → Script Result}
    (same : action.isKeyless = true)
    (rest : ∀ reply, InStep twins none (next reply) (other reply)) :
    InStep twins none (Script.perform action >>= next) (Script.perform action >>= other) :=
  .keyless same rest

end Script.InStep

namespace Gate

variable (twins)

theorem in_step_write_all (deadline : Nat) (stretch : Stretch) (taken : Nat) :
    InStep twins none (writeAll deadline (stretch.bytes twins.mine.maskKey) taken)
      (writeAll deadline (stretch.bytes twins.keys) taken) := by
  refine Stretch.induction _ _ (motive := fun bytes others => ∀ taken,
    InStep twins none (writeAll deadline bytes taken) (writeAll deadline others taken))
    (fun _ => .done _) ?_ stretch taken
  intro stretch byte other rest others first firstToo later taken
  cases taken with
  | succ taken => exact later taken
  | zero =>
      have offers {next nextToo : Transfer → Script Transfer}
          (goesOn : ∀ reply, InStep twins none (next reply) (nextToo reply)) :=
        InStep.write stretch deadline goesOn
      rw [first, firstToo] at offers
      refine offers fun reply => ?_
      cases reply with
      | done written => exact later (written - 1)
      | failed failure => exact .done _
      | timedOut => exact .done _

theorem in_step_then {first copy second other : Script Transfer} (begins : InStep twins none first copy)
    (rest : InStep twins none second other) :
    InStep twins none (thenTransfer first second) (thenTransfer copy other) := by
  refine begins.bind fun result => ?_
  cases result with
  | done count => exact rest
  | failed failure => exact .done _
  | timedOut => exact .done _

theorem in_step_flush (deadline : Nat) : InStep twins none (flush deadline) (flush deadline) :=
  .keyless rfl fun _ => .done _

theorem in_step_pause (milliseconds deadline : Nat) :
    InStep twins none (pause milliseconds deadline) (pause milliseconds deadline) :=
  .keyless rfl fun _ => .keyless rfl fun _ => .done _

theorem in_step_write_slowly (delay deadline : Nat) (stretch : Stretch) :
    InStep twins none (writeSlowly delay deadline (stretch.bytes twins.mine.maskKey))
      (writeSlowly delay deadline (stretch.bytes twins.keys)) := by
  refine Stretch.induction _ _ (motive := fun bytes others =>
    InStep twins none (writeSlowly delay deadline bytes) (writeSlowly delay deadline others))
    (.done _) ?_ stretch
  intro stretch byte other rest others first firstToo later
  have one := in_step_write_all twins deadline (stretch.take 1) 0
  rw [Stretch.bytes_take, Stretch.bytes_take, first, firstToo] at one
  exact in_step_then twins one
    (in_step_then twins (in_step_flush twins deadline) (in_step_then twins (in_step_pause twins delay deadline) later))

theorem in_step_transfer_all (slowWrite : Option Nat) (deadline : Nat) (stretch : Stretch) :
    InStep twins none (transferAll slowWrite deadline (stretch.bytes twins.mine.maskKey))
      (transferAll slowWrite deadline (stretch.bytes twins.keys)) := by
  refine in_step_then twins ?_ (in_step_flush twins deadline)
  cases slowWrite with
  | none => exact in_step_write_all twins deadline stretch 0
  | some delay => exact in_step_write_slowly twins delay deadline stretch

theorem in_step_send (config : Config) (stretch : Stretch) :
    InStep twins none (send config (stretch.bytes twins.mine.maskKey))
      (send config (stretch.bytes twins.keys)) := by
  refine .queue _ _ (.perform rfl fun hasWriter => .ite (.perform rfl fun entered => ?_) ?_)
  · exact (in_step_transfer_all twins _ _ stretch).bind fun _ => .perform rfl fun _ => .done _
  · exact .perform rfl fun _ => .done _

theorem in_step_send_frame (config : Config) (wording : Wording) :
    InStep twins none (sendFrame config (wording.frame twins.mine.maskKey))
      (sendFrame config (wording.frame twins.keys)) := by
  refine .draw fun number => ?_
  have sends := in_step_send twins config
    (.masked wording number 0 ((wording.frame twins.mine.maskKey).wireSize true))
  rwa [Stretch.bytes_whole _ _ _ rfl, Stretch.bytes_whole _ _ _ (wording.wire_size_eq _ _ true)] at sends

theorem in_step_shutdown (config : Config) :
    InStep twins none (shutdown config) (shutdown config) := by
  refine .queue _ _ (.perform rfl fun hasWriter => .ite ?_ (.keyless rfl fun _ => .done _))
  refine .perform rfl fun _ => .perform rfl fun _ => .perform rfl fun _ => .perform rfl fun _ => .done _

end Gate

namespace Connection

abbrev Abreast (twins : Twins) (script copy : Script Result) : Prop := InStep twins none script copy

variable (twins)

theorem in_step_notify (notice : Notice) :
    Abreast twins (notify twins.mine (notice.event twins.mine.maskKey))
      (notify twins.yours (notice.event twins.keys)) := by
  -- by induction on how many observers are left
  have from_on (left told : Nat) (whole : told + left = twins.count) :
      InStep twins (notice.underway twins.count told)
        ((List.range' told left).foldr
          (fun index rest => act (.tell index (notice.event twins.mine.maskKey)) fun _ => rest)
          (.done ()))
        ((List.range' told left).foldr
          (fun index rest => act (.tell index (notice.event twins.keys)) fun _ => rest)
          (.done ())) := by
    induction left generalizing told with
    | zero =>
        rw [Notice.underway, if_neg (by omega)]
        exact .done ()
    | succ left induction =>
        exact .tell notice told rfl (by omega) (induction (told + 1) (by omega))
  have all := from_on twins.count 0 (Nat.zero_add _)
  rw [← List.range_eq_range', Notice.underway, if_neg (by omega)] at all
  unfold notify
  rw [show twins.yours.observers.length = twins.count from twins.same]
  exact all

theorem in_step_is_open : Abreast twins isOpen isOpen := .keyless rfl fun _ => .done _

theorem in_step_transmit (wording : Wording) :
    Abreast twins (transmit twins.mine (wording.frame twins.mine.maskKey))
      (transmit twins.yours (wording.frame twins.keys)) := by
  refine (Gate.in_step_send_frame twins _ wording).bind fun status => .ite ?_ (.done _)
  exact (in_step_notify twins (.frameSent wording)).bind fun _ => .done _

theorem in_step_teardown : Abreast twins (teardown twins.mine) (teardown twins.yours) := by
  have shuts : Abreast twins
      ((Gate.shutdown twins.mine.config).bind fun _ =>
        act .announceClosed fun _ => notify twins.mine .closed)
      ((Gate.shutdown twins.yours.config).bind fun _ =>
        act .announceClosed fun _ => notify twins.yours .closed) :=
    (Gate.in_step_shutdown twins _).bind fun _ => .keyless rfl fun _ => in_step_notify twins (.plain .closed)
  refine .perform rfl fun before => .ite (.done ()) ?_
  refine .perform rfl fun _ => .perform rfl fun attached => ?_
  cases attached with
  | none => exact shuts
  | some scheduler => exact .keyless rfl fun _ => shuts

theorem in_step_send_close_once (code : Option UInt16) (reason : String) :
    Abreast twins (sendCloseOnce twins.mine (.close code reason))
      (sendCloseOnce twins.yours (.close code reason)) :=
  .perform rfl fun _ => .ite (in_step_transmit twins (.plain (.close code reason))) (.done _)

theorem in_step_begin_close (code : Option UInt16) (reason : String) :
    Abreast twins (beginClose twins.mine code reason) (beginClose twins.yours code reason) := by
  refine .perform rfl fun isOwner => .ite ?_ (.done _)
  refine (in_step_send_close_once twins code reason).bind fun status => .ite ?_ ?_
  · exact (in_step_teardown twins).bind fun _ => .done _
  · exact .perform rfl fun _ => .done _

theorem in_step_ends (code : Option UInt16) (reason : String) (isOwner : Bool) :
    Abreast twins
      (do
        if isOwner then
          let _ ← sendCloseOnce twins.mine (.close code reason)
        teardown twins.mine)
      (do
        if isOwner then
          let _ ← sendCloseOnce twins.yours (.close code reason)
        teardown twins.yours) :=
  .ite ((in_step_send_close_once twins code reason).bind fun _ => in_step_teardown twins)
    (in_step_teardown twins)

theorem in_step_handle_peer_close (frame : Option CloseFrame) :
    Abreast twins (handlePeerClose twins.mine frame) (handlePeerClose twins.yours frame) :=
  .perform rfl fun _ => .perform rfl fun isOwner => in_step_ends twins _ "" isOwner

theorem in_step_fail (code : UInt16) (reason : String) :
    Abreast twins (fail twins.mine code reason) (fail twins.yours code reason) :=
  .perform rfl fun isOwner => in_step_ends twins (some code) reason isOwner

theorem in_step_refuse : Abreast twins refuse refuse := .perform rfl fun _ => .done _

theorem in_step_send_frame (wording : Wording) :
    Abreast twins (sendFrame twins.mine (wording.frame twins.mine.maskKey))
      (sendFrame twins.yours (wording.frame twins.keys)) := by
  refine .perform rfl fun phase => .ite (in_step_refuse twins) ?_
  rw [wording.validate_eq twins.mine.maskKey twins.keys, wording.opcode_eq twins.mine.maskKey twins.keys]
  cases (wording.frame twins.mine.maskKey).validate with
  | error failure => exact .done _
  | ok _ =>
      dsimp only
      split
      · rename_i isClose
        rw [wording.close_frame_eq _ twins.keys isClose]
        cases (wording.frame twins.mine.maskKey).closeFrame with
        | error failure => exact .done _
        | ok close => exact (in_step_begin_close twins _ _).bind fun _ => .done _
      · refine (in_step_transmit twins wording).bind fun status => .ite ?_ (.done _)
        exact (in_step_teardown twins).bind fun _ => .done _

theorem in_step_await_closed : Abreast twins awaitClosed awaitClosed := .perform rfl fun _ => .done ()

theorem in_step_close (code : CloseCode) (reason : String) :
    Abreast twins (Connection.close twins.mine code reason) (Connection.close twins.yours code reason) := by
  have awaits : Abreast twins (awaitClosed.bind fun _ => .done (.ok () : Except Error Unit))
      (awaitClosed.bind fun _ => .done (.ok ())) := (in_step_await_closed twins).bind fun _ => .done _
  refine .ite (.done _) (.perform rfl fun phase => ?_)
  cases phase with
  | opened => exact (in_step_begin_close twins _ reason).bind fun _ => awaits
  | closing => exact awaits
  | handshaking => exact (in_step_teardown twins).bind fun _ => awaits
  | closed => exact .done _

theorem in_step_watchdog : Abreast twins (watchdog twins.mine) (watchdog twins.yours) := by
  refine .perform rfl fun _ => .perform rfl fun isClosed => .ite ?_ (.done _)
  exact (in_step_teardown twins).bind fun _ => .done _

theorem in_step_protocol_failure (failure : Error) :
    Abreast twins (protocolFailure twins.mine failure) (protocolFailure twins.yours failure) :=
  (in_step_fail twins _ _).bind fun _ => .done _

theorem in_step_deliver (message : Message) (assembler : Assembler) :
    Abreast twins (deliver twins.mine message assembler) (deliver twins.yours message assembler) := by
  unfold deliver
  split
  · exact in_step_protocol_failure twins _
  · exact (in_step_notify twins (.plain (.text _))).bind fun _ => .done _
  · exact (in_step_notify twins (.plain (.binary _))).bind fun _ => .done _

theorem in_step_answer_ping (payload : Bytes) (assembler : Assembler) :
    Abreast twins (answerPing twins.mine payload assembler) (answerPing twins.yours payload assembler) := by
  refine (in_step_notify twins (.plain (.ping payload))).bind fun _ => ?_
  refine (in_step_is_open twins).bind fun _ => .ite (.done _) ?_
  refine (in_step_transmit twins (.plain (.pong payload))).bind fun status => .ite ?_ (.done _)
  exact (in_step_fail twins _ _).bind fun _ => .done _

theorem in_step_dispatch (assembler : Assembler) (frame : Frame) :
    Abreast twins (dispatch twins.mine assembler frame) (dispatch twins.yours assembler frame) := by
  unfold dispatch
  split
  · exact in_step_protocol_failure twins _
  split
  · exact in_step_answer_ping twins _ assembler
  · exact (in_step_notify twins (.plain (.pong _))).bind fun _ => .done _
  · split
    · exact in_step_protocol_failure twins _
    · refine (in_step_notify twins (.plain (.close _))).bind fun _ => ?_
      exact (in_step_handle_peer_close twins _).bind fun _ => .done _
  · split
    · exact in_step_protocol_failure twins _
    · exact .done _
    · exact in_step_deliver twins _ _

theorem in_step_skip_unexpected (opcode : Byte) :
    Abreast twins (skipUnexpected twins.mine opcode) (skipUnexpected twins.yours opcode) := by
  refine (in_step_notify twins (.plain (.unexpected opcode))).bind fun _ => .ite ?_ (.done ())
  refine (in_step_is_open twins).bind fun _ => .ite ?_ (.done ())
  exact (in_step_begin_close twins _ _).bind fun _ => .done ()

theorem in_step_read_more (pending : Bytes) (assembler : Assembler) :
    Abreast twins (readMore twins.mine pending assembler) (readMore twins.yours pending assembler) := by
  have tearsDown : Abreast twins ((teardown twins.mine).bind fun _ => .done (none : Option Task))
      ((teardown twins.yours).bind fun _ => .done none) := (in_step_teardown twins).bind fun _ => .done _
  refine .perform rfl fun isCancelled => .ite tearsDown ?_
  refine .perform rfl fun _ => .perform rfl fun reading => ?_
  cases reading with
  | data bytes => exact .done _
  | timedOut => exact .done _
  | _ => exact tearsDown

theorem in_step_receive (pending : Bytes) (assembler : Assembler) :
    Abreast twins (receive twins.mine pending assembler) (receive twins.yours pending assembler) := by
  unfold receive
  dsimp only [Twins.yours]
  split
  · exact (in_step_fail twins _ _).bind fun _ => .done _
  · exact in_step_read_more twins pending assembler
  · exact (in_step_skip_unexpected twins _).bind fun _ => .done _
  · exact (in_step_dispatch twins assembler _).bind fun _ => .done _

theorem in_step_await_turn (scheduler period : Nat) (due : Option Nat) :
    Abreast twins (awaitTurn twins.mine scheduler period due)
      (awaitTurn twins.yours scheduler period due) := by
  refine .perform rfl fun _ => .perform rfl fun isTick => .ite (.done _) ?_
  refine .perform rfl fun _ => .perform rfl fun _ => .perform rfl fun isHeld => ?_
  exact .ite (.perform rfl fun _ => .done _) (.done _)

theorem in_step_send_keepalive (count : Nat) :
    Abreast twins (sendKeepalive twins.mine count) (sendKeepalive twins.yours count) := by
  refine .draw fun high => .draw fun low => ?_
  exact (in_step_send_frame twins (.keepalive count high low)).bind fun _ => .done _

theorem in_step_keepalive (scheduler : Nat) (due : Option Nat) (count : Nat) :
    Abreast twins (keepalive twins.mine scheduler due count)
      (keepalive twins.yours scheduler due count) := by
  refine (in_step_await_turn twins scheduler _ due).bind fun tick => ?_
  cases tick with
  | none => exact .done _
  | some tick =>
      have body : Abreast twins
          (isOpen.bind fun isOpen => if isOpen then sendKeepalive twins.mine (count + 1) else pure false)
          (isOpen.bind fun isOpen =>
            if isOpen then sendKeepalive twins.yours (count + 1) else pure false) :=
        (in_step_is_open twins).bind fun _ => .ite (in_step_send_keepalive twins _) (.done _)
      refine .ite (.done _) (body.bind fun goesOn => .perform rfl fun _ => ?_)
      exact .ite (.done _) (.done _)

theorem in_step_run_hook : Abreast twins (runHook twins.mine) (runHook twins.yours) := by
  have lasts : Abreast twins
      (Script.perform .readClock >>= fun start =>
        if 0 < twins.mine.hook.lasts start then do
          let _ ← Script.perform (.sleep (start + twins.mine.hook.lasts start) none)
          if twins.mine.hook.isAnnounced then Script.perform (.report 0 .hookEnded)
        else pure () : Script Unit)
      (Script.perform .readClock >>= fun start =>
        if 0 < twins.mine.hook.lasts start then do
          let _ ← Script.perform (.sleep (start + twins.mine.hook.lasts start) none)
          if twins.mine.hook.isAnnounced then Script.perform (.report 0 .hookEnded)
        else pure () : Script Unit) := by
    refine .perform rfl fun _ => .ite (.perform rfl fun _ => .ite ?_ (.done ())) (.done ())
    exact .report 0 _ (.done ())
  unfold runHook
  dsimp only [Twins.yours]
  cases twins.mine.hook.sends with
  | none => exact .ite (.report 0 _ lasts) lasts
  | some content =>
      have sent := (in_step_send_frame twins (.plain (.text content))).bind fun _ => lasts
      exact .ite (.report 0 _ sent) sent

theorem in_step_maintenance (scheduler : Nat) (due : Option Nat) :
    Abreast twins (maintenance twins.mine scheduler due) (maintenance twins.yours scheduler due) := by
  refine (in_step_await_turn twins scheduler _ due).bind fun tick => ?_
  cases tick with
  | none => exact .done _
  | some tick =>
      refine .ite (.done _) ((in_step_is_open twins).bind fun _ => .ite ?_ ?_)
      · exact (in_step_run_hook twins).bind fun _ => .perform rfl fun _ => .done _
      · exact .perform rfl fun _ => .done _

theorem in_step_start_scheduler :
    Abreast twins (startScheduler twins.mine) (startScheduler twins.yours) := by
  have maintained (scheduler : Nat) : Abreast twins
      (if isRunning twins.mine.config.maintenance then do
        Script.perform (.spawn (.maintenance scheduler none))
        return scheduler
      else return scheduler : Script Nat)
      (if isRunning twins.mine.config.maintenance then do
        Script.perform (.spawn (.maintenance scheduler none))
        return scheduler
      else return scheduler : Script Nat) := .ite (.perform rfl fun _ => .done _) (.done _)
  refine .perform rfl fun scheduler => .ite ?_ (maintained scheduler)
  exact .perform rfl fun _ => maintained scheduler

theorem in_step_start (leftover : Bytes) :
    Abreast twins (start twins.mine leftover) (start twins.yours leftover) := by
  refine .perform rfl fun _ => .ite ((in_step_start_scheduler twins).bind fun scheduler => ?_) (.done ())
  exact .keyless rfl fun _ => .done ()

theorem in_step_read_head (limits : Limits) (deadline timeout reads : Nat) (buffer : Bytes)
    (capacity : Nat) :
    Abreast twins (readHead limits deadline timeout reads buffer capacity)
      (readHead limits deadline timeout reads buffer capacity) := by
  induction reads generalizing buffer capacity with
  | zero => exact .done _
  | succ reads induction =>
      unfold readHead
      split
      · exact .done _
      · exact .done _
      · refine .keyless rfl fun reading => ?_
        cases reading with
        | data bytes => exact induction _ _
        | _ => exact .done _

theorem in_step_exchange (limits : Limits) (timeout : Nat) (request : Request) :
    Abreast twins (exchange limits timeout request) (exchange limits timeout request) := by
  refine .perform rfl fun start => ?_
  split
  · exact .done _
  · rename_i text written
    have sends : Abreast twins (sendRequest (start + timeout) text) (sendRequest (start + timeout) text) :=
      Gate.in_step_then twins (Gate.in_step_write_all twins _ (.plain (Utf8.encode text)) 0)
        (Gate.in_step_flush twins _)
    refine sends.bind fun result => ?_
    cases result with
    | done count => exact in_step_read_head twins _ _ _ _ _ _
    | failed failure => exact .done _
    | timedOut => exact .done _

theorem in_step_proceed (isOpen : Bool) (leftover : Bytes) :
    Abreast twins (proceed twins.mine isOpen leftover) (proceed twins.yours isOpen leftover) := by
  refine .ite (in_step_teardown twins) (.perform rfl fun isMoved => .ite ?_ (.done ()))
  exact (in_step_notify twins (.plain .opened)).bind fun _ => in_step_start twins leftover

theorem in_step_connect (timeout : Nat) (request : Request) :
    Abreast twins (connect twins.mine timeout request) (connect twins.yours timeout request) := by
  rcases writes : request.write with ⟨written, text⟩
  cases written with
  | error failure =>
      unfold connect
      rw [writes]
      exact .done _
  | ok _ =>
      rw [connect_eq writes, connect_eq writes]
      refine (in_step_notify twins (.plain (.request text))).bind fun _ => ?_
      refine (in_step_exchange twins _ timeout request).bind fun exchanged => ?_
      refine (in_step_notify twins (.plain (.response _))).bind fun _ => ?_
      exact (in_step_proceed twins _ _).bind fun _ => .done _

end Connection

open Connection

variable (twins)

theorem Task.in_step (task : Task) : Abreast twins (task.script twins.mine) (task.script twins.yours) := by
  cases task with
  | receive pending assembler => exact in_step_receive twins pending assembler
  | watchdog => exact in_step_watchdog twins
  | keepalive scheduler due count => exact in_step_keepalive twins scheduler due count
  | maintenance scheduler due => exact in_step_maintenance twins scheduler due

theorem Call.in_step (call : Call) : Abreast twins (call.script twins.mine) (call.script twins.yours) := by
  cases call with
  | send frame => exact (in_step_send_frame twins (.plain frame)).bind fun _ => .done _
  | close code reason => exact (in_step_close twins code reason).bind fun _ => .done _
  | awaitClosed => exact (in_step_await_closed twins).bind fun _ => .done _

theorem Errand.in_step (errand : Errand) :
    Abreast twins (errand.script twins.mine) (errand.script twins.yours) := by
  cases errand with
  | start leftover => exact in_step_start twins leftover
  | schedule => exact (in_step_start_scheduler twins).bind fun _ => .done ()
  | stop scheduler => exact .keyless rfl fun _ => .done ()

end WebSocket
