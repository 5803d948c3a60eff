import WebSocket.Scenario.Script

/-!
What an actor's own actions oblige it to. An actor queues a frame only right
after it has seen the connection open, and a Close frame only if it has itself
moved the connection from open to closing and was the first one to claim it. All
scripts of a connection keep to this, whatever their actions are answered.
-/

namespace WebSocket

/-- The bytes of a masked frame of any kind but Close. -/
def IsOrdinary (bytes : Bytes) : Prop :=
  ∃ frame : Frame, ∃ key, frame.opcode ≠ .close ∧ bytes = frame.serialize (some key)

/-- The bytes of a masked Close frame. -/
def IsClosing (bytes : Bytes) : Prop :=
  ∃ code reason key, bytes = (Frame.close code reason).serialize (some key)

/-- Where an actor stands: it has just seen the connection open, it owns the
close, it may send the Close frame, it waits at the gate, or it is inside. -/
inductive Duty where
  | free
  | checked
  | owner
  | claimant
  | queued (content : Bytes)
  | inside (content : Bytes)

namespace Duty

/-- Nothing is begun that would have to be brought to its end. -/
def IsIdle : Duty → Prop
  | free | checked => True
  | _ => False

def after (duty : Duty) : (action : Action) → action.Reply → Duty
  | .readPhase, phase => if phase = .opened then checked else free
  | .movePhase .., isMoved => if isMoved then owner else duty
  | .claimClose, isFirst => if isFirst then claimant else free
  | .queueForGate content, _ => queued content
  | .enterGate, _ =>
      match duty with
      | queued content => inside content
      | _ => duty
  | .leaveGate, _ => free
  | _, _ => duty

/-- What may be put in line: nothing when the stream is to be shut down, a frame
after a look at the phase, or the Close frame. -/
def mayQueue : Duty → Bytes → Prop
  | free, content => content = []
  | checked, content => content = [] ∨ IsOrdinary content
  | claimant, content => IsClosing content
  | _, _ => False

def permits (duty : Duty) : Action → Prop
  | .readPhase => duty.IsIdle
  | .movePhase source target => duty.IsIdle ∧ source = .opened ∧ target = .closing
  | .claimClose => duty = owner
  | .queueForGate content => duty.mayQueue content
  | .enterGate => ∃ content, duty = queued content
  | .leaveGate => ∃ content, duty = inside content
  | .write bytes _ => bytes ≠ [] ∧ ∃ content, duty = inside content ∧ bytes <:+: content
  | _ => True

end Duty

namespace Script

variable {Result Other : Type}

def Keeps (post : Result → Duty → Prop) : Script Result → Duty → Prop
  | done result, duty => post result duty
  | act action next, duty =>
      duty.permits action ∧ ∀ reply, Keeps post (next reply) (duty.after action reply)

theorem keeps_mono {post weaker : Result → Duty → Prop}
    (weaken : ∀ result duty, post result duty → weaker result duty) {script : Script Result}
    {duty : Duty} (keeps : script.Keeps post duty) : script.Keeps weaker duty := by
  induction script generalizing duty with
  | done result => exact weaken result duty keeps
  | act action next induction => exact ⟨keeps.1, fun reply => induction reply (keeps.2 reply)⟩

theorem keeps_bind {post : Result → Duty → Prop} {last : Other → Duty → Prop}
    {script : Script Result} {next : Result → Script Other} {duty : Duty}
    (keeps : script.Keeps post duty)
    (goesOn : ∀ result after, post result after → (next result).Keeps last after) :
    (script.bind next).Keeps last duty := by
  induction script generalizing duty with
  | done result => exact goesOn result duty keeps
  | act action rest induction => exact ⟨keeps.1, fun reply => induction reply (keeps.2 reply)⟩

theorem keeps_perform {post : Result → Duty → Prop} {action : Action}
    {next : action.Reply → Script Result} {duty : Duty} (permitted : duty.permits action)
    (goesOn : ∀ reply, (next reply).Keeps post (duty.after action reply)) :
    (perform action >>= next).Keeps post duty :=
  ⟨permitted, goesOn⟩

theorem keeps_ite {post : Result → Duty → Prop} {condition : Prop} [Decidable condition]
    {first second : Script Result} {duty : Duty} (yes : first.Keeps post duty)
    (no : second.Keeps post duty) : (if condition then first else second).Keeps post duty := by
  split
  · exact yes
  · exact no

end Script

namespace Connection

open Script

variable {setup : Setup} {duty : Duty} {content : Bytes}

theorem keeps_notify (setup : Setup) (event : Event) (duty : Duty) :
    (notify setup event).Keeps (fun _ after => after = duty) duty := by
  unfold notify
  induction List.range setup.observers.length with
  | nil => exact rfl
  | cons index rest induction => exact ⟨trivial, fun _ => induction⟩

theorem keeps_is_open (idle : duty.IsIdle) :
    isOpen.Keeps (fun isOpen after => after.IsIdle ∧ (isOpen = true → after = .checked)) duty := by
  refine ⟨idle, fun phase => ?_⟩
  cases phase with
  | opened => exact ⟨trivial, fun _ => rfl⟩
  | _ => exact ⟨trivial, (nomatch ·)⟩

theorem keeps_write_all (deadline : Nat) (bytes : Bytes) (taken : Nat) (part : bytes <:+: content) :
    (Gate.writeAll deadline bytes taken).Keeps (fun _ after => after = .inside content)
      (.inside content) := by
  induction bytes generalizing taken with
  | nil => exact rfl
  | cons byte rest induction =>
      have fewer : rest <:+: content := (List.suffix_cons byte rest).isInfix.trans part
      cases taken with
      | succ taken => exact induction taken fewer
      | zero =>
          refine ⟨⟨List.cons_ne_nil _ _, content, rfl, part⟩, fun result => ?_⟩
          cases result with
          | done count => exact induction (count - 1) fewer
          | failed failure => exact rfl
          | timedOut => exact rfl

theorem keeps_then_transfer {first second : Script Transfer}
    (before : first.Keeps (fun _ after => after = .inside content) (.inside content))
    (behind : second.Keeps (fun _ after => after = .inside content) (.inside content)) :
    (Gate.thenTransfer first second).Keeps (fun _ after => after = .inside content)
      (.inside content) := by
  apply keeps_bind before
  rintro result _ rfl
  cases result with
  | done count => exact behind
  | failed failure => exact rfl
  | timedOut => exact rfl

theorem keeps_flush (deadline : Nat) :
    (Gate.flush deadline).Keeps (fun _ after => after = .inside content) (.inside content) :=
  ⟨trivial, fun _ => rfl⟩

theorem keeps_pause (delay deadline : Nat) :
    (Gate.pause delay deadline).Keeps (fun _ after => after = .inside content) (.inside content) :=
  ⟨trivial, fun _ => ⟨trivial, fun _ => rfl⟩⟩

theorem keeps_write_slowly (delay deadline : Nat) (bytes : Bytes) (part : bytes <:+: content) :
    (Gate.writeSlowly delay deadline bytes).Keeps (fun _ after => after = .inside content)
      (.inside content) := by
  induction bytes with
  | nil => exact rfl
  | cons byte rest induction =>
      have single : [byte] <:+: content := (List.prefix_append [byte] rest).isInfix.trans part
      have fewer : rest <:+: content := (List.suffix_cons byte rest).isInfix.trans part
      exact keeps_then_transfer (keeps_write_all deadline [byte] 0 single)
        (keeps_then_transfer (keeps_flush deadline)
          (keeps_then_transfer (keeps_pause delay deadline) (induction fewer)))

theorem keeps_send (config : Config) (mayQueue : duty.mayQueue content) :
    (Gate.send config content).Keeps (fun _ after => after = .free) duty := by
  refine ⟨mayQueue, fun _ => ⟨⟨content, rfl⟩, fun hasWriter => ?_⟩⟩
  cases hasWriter with
  | false => exact ⟨⟨content, rfl⟩, fun _ => rfl⟩
  | true =>
      refine ⟨trivial, fun entered => ?_⟩
      change (Gate.transferAll _ _ _ >>= _).Keeps _ (.inside content)
      refine keeps_bind (keeps_then_transfer ?_ (keeps_flush _)) ?_
      · cases config.slowWrite with
        | none => exact keeps_write_all _ content 0 (List.infix_refl content)
        | some delay => exact keeps_write_slowly delay _ content (List.infix_refl content)
      · rintro result _ rfl
        exact ⟨⟨content, rfl⟩, fun _ => rfl⟩

theorem keeps_transmit {frame : Frame}
    (mayQueue : ∀ key, duty.mayQueue (frame.serialize (some key))) :
    (transmit setup frame).Keeps (fun _ after => after = .free) duty := by
  have sent : (Gate.sendFrame setup.config frame).Keeps (fun _ after => after = .free) duty :=
    ⟨trivial, fun key => keeps_send setup.config (mayQueue key)⟩
  apply keeps_bind sent
  rintro status _ rfl
  cases status.isSuccess with
  | false => exact rfl
  | true =>
      apply keeps_bind (keeps_notify setup (.frameSent frame) .free)
      intro _ _ kept
      exact kept

theorem keeps_transmit_checked {frame : Frame} (ordinary : frame.opcode ≠ .close) :
    (transmit setup frame).Keeps (fun _ after => after = .free) .checked :=
  keeps_transmit fun key => .inr ⟨frame, key, ordinary, rfl⟩

theorem keeps_shutdown (config : Config) (idle : duty.IsIdle) :
    (Gate.shutdown config).Keeps (fun _ after => after.IsIdle) duty := by
  have mayQueue : duty.mayQueue [] := by
    cases duty with
    | free => exact rfl
    | checked => exact .inl rfl
    | _ => exact idle.elim
  refine ⟨mayQueue, fun _ => ⟨⟨[], rfl⟩, fun hasWriter => ?_⟩⟩
  cases hasWriter with
  | false => exact ⟨⟨[], rfl⟩, fun _ => trivial⟩
  | true =>
      exact ⟨trivial, fun _ => ⟨⟨[], rfl⟩, fun _ => ⟨trivial, fun _ => ⟨trivial, fun _ => trivial⟩⟩⟩⟩

theorem keeps_teardown (setup : Setup) (idle : duty.IsIdle) :
    (teardown setup).Keeps (fun _ after => after.IsIdle) duty := by
  refine ⟨trivial, fun phase => ?_⟩
  have rest : (Gate.shutdown setup.config >>= fun _ =>
      perform .announceClosed >>= fun _ => notify setup .closed).Keeps
        (fun _ after => after.IsIdle) duty := by
    apply keeps_bind (keeps_shutdown setup.config idle)
    intro _ after idle
    refine ⟨trivial, fun _ => ?_⟩
    exact keeps_mono (fun _ _ same => same ▸ idle) (keeps_notify setup .closed after)
  change (if phase = .closed then _ else _ : Script Unit).Keeps _ duty
  split
  · exact idle
  · refine ⟨trivial, fun _ => ⟨trivial, fun attached => ?_⟩⟩
    cases attached with
    | none => exact rest
    | some scheduler => exact ⟨trivial, fun _ => rest⟩

theorem keeps_send_close_once (setup : Setup) (code : Option UInt16) (reason : String) :
    (sendCloseOnce setup (.close code reason)).Keeps (fun _ after => after = .free) .owner := by
  refine ⟨rfl, fun isFirst => ?_⟩
  cases isFirst with
  | false => exact rfl
  | true =>
      have mayQueue : ∀ key,
          Duty.claimant.mayQueue ((Frame.close code reason).serialize (some key)) :=
        fun key => ⟨code, reason, key, rfl⟩
      exact keeps_transmit mayQueue

theorem keeps_begin_close (setup : Setup) (code : Option UInt16) (reason : String)
    (idle : duty.IsIdle) :
    (beginClose setup code reason).Keeps (fun _ after => after.IsIdle) duty := by
  refine keeps_perform ⟨idle, rfl, rfl⟩ fun isOwner => ?_
  cases isOwner with
  | false => exact idle
  | true =>
      apply keeps_bind (keeps_send_close_once setup code reason)
      rintro status _ rfl
      split
      · exact keeps_bind (keeps_teardown setup trivial) fun _ _ idle => idle
      · exact ⟨trivial, fun _ => trivial⟩

theorem keeps_handle_peer_close (setup : Setup) (frame : Option CloseFrame) (idle : duty.IsIdle) :
    (handlePeerClose setup frame).Keeps (fun _ after => after.IsIdle) duty := by
  refine keeps_perform trivial fun _ => keeps_perform ⟨idle, rfl, rfl⟩ fun isOwner => ?_
  cases isOwner with
  | false => exact keeps_teardown setup idle
  | true =>
      apply keeps_bind (keeps_send_close_once setup _ _)
      rintro status _ rfl
      exact keeps_teardown setup trivial

theorem keeps_fail (setup : Setup) (code : UInt16) (reason : String) (idle : duty.IsIdle) :
    (fail setup code reason).Keeps (fun _ after => after.IsIdle) duty := by
  refine keeps_perform ⟨idle, rfl, rfl⟩ fun isOwner => ?_
  cases isOwner with
  | false => exact keeps_teardown setup idle
  | true =>
      apply keeps_bind (keeps_send_close_once setup _ _)
      rintro status _ rfl
      exact keeps_teardown setup trivial

theorem keeps_refuse (idle : duty.IsIdle) : refuse.Keeps (fun _ after => after.IsIdle) duty :=
  ⟨trivial, fun _ => idle⟩

theorem keeps_send_frame (setup : Setup) (frame : Frame) (idle : duty.IsIdle) :
    (sendFrame setup frame).Keeps (fun _ after => after.IsIdle) duty := by
  refine keeps_perform idle fun phase => ?_
  cases phase with
  | opened =>
      rw [if_neg (by decide)]
      split
      · exact trivial
      · split
        · split
          · exact trivial
          · refine keeps_bind (keeps_begin_close setup _ _ trivial) ?_
            intro _ _ idle
            exact idle
        · rename_i ordinary
          apply keeps_bind (keeps_transmit_checked ordinary)
          rintro status _ rfl
          split
          · exact keeps_bind (keeps_teardown setup trivial) fun _ _ idle => idle
          · exact trivial
  | _ => exact keeps_refuse trivial

theorem keeps_close (setup : Setup) (code : CloseCode) (reason : String) (idle : duty.IsIdle) :
    (close setup code reason).Keeps (fun _ after => after.IsIdle) duty := by
  unfold close
  split
  · exact idle
  · refine keeps_perform idle fun phase => ?_
    have looked : (duty.after .readPhase phase).IsIdle := by
      cases phase <;> trivial
    cases phase with
    | opened =>
        apply keeps_bind (keeps_begin_close setup _ _ looked)
        intro _ _ idle
        exact ⟨trivial, fun _ => idle⟩
    | closing => exact ⟨trivial, fun _ => looked⟩
    | handshaking =>
        apply keeps_bind (keeps_teardown setup looked)
        intro _ _ idle
        exact ⟨trivial, fun _ => idle⟩
    | closed => exact looked

theorem keeps_watchdog (setup : Setup) (idle : duty.IsIdle) :
    (watchdog setup).Keeps (fun _ after => after.IsIdle) duty := by
  refine keeps_perform trivial fun start => keeps_perform trivial fun isClosed => ?_
  cases isClosed with
  | true => exact idle
  | false => exact keeps_bind (keeps_teardown setup idle) fun _ _ idle => idle

theorem keeps_notify_idle (setup : Setup) (event : Event) (idle : duty.IsIdle) :
    (notify setup event).Keeps (fun _ after => after.IsIdle) duty :=
  keeps_mono (fun _ _ same => same ▸ idle) (keeps_notify setup event duty)

theorem keeps_protocol_failure (setup : Setup) (failure : Error) (idle : duty.IsIdle) :
    (protocolFailure setup failure).Keeps (fun _ after => after.IsIdle) duty :=
  keeps_bind (keeps_fail setup _ _ idle) fun _ _ idle => idle

theorem keeps_deliver (setup : Setup) (message : Message) (assembler : Assembler)
    (idle : duty.IsIdle) :
    (deliver setup message assembler).Keeps (fun _ after => after.IsIdle) duty := by
  unfold deliver
  split
  · exact keeps_protocol_failure setup _ idle
  · exact keeps_bind (keeps_notify_idle setup _ idle) fun _ _ idle => idle
  · exact keeps_bind (keeps_notify_idle setup _ idle) fun _ _ idle => idle

theorem keeps_answer_ping (setup : Setup) (payload : Bytes) (assembler : Assembler)
    (idle : duty.IsIdle) :
    (answerPing setup payload assembler).Keeps (fun _ after => after.IsIdle) duty := by
  refine keeps_bind (keeps_notify_idle setup _ idle) fun _ told idle => ?_
  refine keeps_bind (keeps_is_open idle) fun isOpen after looked => ?_
  cases isOpen with
  | false => exact looked.1
  | true =>
      rw [looked.2 rfl]
      have ordinary : (Frame.pong payload).opcode ≠ .close := nofun
      apply keeps_bind (keeps_transmit_checked ordinary)
      rintro status _ rfl
      split
      · exact keeps_bind (keeps_fail setup _ _ trivial) fun _ _ idle => idle
      · exact trivial

theorem keeps_dispatch (setup : Setup) (assembler : Assembler) (frame : Frame)
    (idle : duty.IsIdle) :
    (dispatch setup assembler frame).Keeps (fun _ after => after.IsIdle) duty := by
  unfold dispatch
  split
  · exact keeps_protocol_failure setup _ idle
  · split
    · exact keeps_answer_ping setup _ assembler idle
    · exact keeps_bind (keeps_notify_idle setup _ idle) fun _ _ idle => idle
    · split
      · exact keeps_protocol_failure setup _ idle
      · refine keeps_bind (keeps_notify_idle setup _ idle) fun _ _ idle => ?_
        exact keeps_bind (keeps_handle_peer_close setup _ idle) fun _ _ idle => idle
    · split
      · exact keeps_protocol_failure setup _ idle
      · exact idle
      · exact keeps_deliver setup _ _ idle

theorem keeps_skip_unexpected (setup : Setup) (opcode : Byte) (idle : duty.IsIdle) :
    (skipUnexpected setup opcode).Keeps (fun _ after => after.IsIdle) duty := by
  refine keeps_bind (keeps_notify_idle setup _ idle) fun _ told idle => ?_
  split
  · refine keeps_bind (keeps_is_open idle) fun isOpen after looked => ?_
    cases isOpen with
    | false => exact looked.1
    | true => exact keeps_bind (keeps_begin_close setup _ _ looked.1) fun _ _ idle => idle
  · exact idle

theorem keeps_read_more (setup : Setup) (pending : Bytes) (assembler : Assembler)
    (idle : duty.IsIdle) :
    (readMore setup pending assembler).Keeps (fun _ after => after.IsIdle) duty := by
  refine keeps_perform trivial fun isCancelled => ?_
  cases isCancelled with
  | true => exact keeps_bind (keeps_teardown setup idle) fun _ _ idle => idle
  | false =>
      refine keeps_perform trivial fun start => keeps_perform trivial fun reading => ?_
      cases reading with
      | data bytes => exact idle
      | timedOut => exact idle
      | _ => exact keeps_bind (keeps_teardown setup idle) fun _ _ idle => idle

theorem keeps_receive (setup : Setup) (pending : Bytes) (assembler : Assembler)
    (idle : duty.IsIdle) :
    (receive setup pending assembler).Keeps (fun _ after => after.IsIdle) duty := by
  unfold receive
  split
  · exact keeps_bind (keeps_fail setup _ _ idle) fun _ _ idle => idle
  · exact keeps_read_more setup pending assembler idle
  · exact keeps_bind (keeps_skip_unexpected setup _ idle) fun _ _ idle => idle
  · exact keeps_bind (keeps_dispatch setup assembler _ idle) fun _ _ idle => idle

theorem keeps_await_turn (setup : Setup) (scheduler period : Nat) (due : Option Nat)
    (duty : Duty) :
    (awaitTurn setup scheduler period due).Keeps (fun _ after => after = duty) duty := by
  refine ⟨trivial, fun start => ⟨trivial, fun isTick => ?_⟩⟩
  cases isTick with
  | false => exact rfl
  | true =>
      refine ⟨trivial, fun now => ⟨trivial, fun _ => ⟨trivial, fun isHeld => ?_⟩⟩⟩
      cases isHeld with
      | false => exact ⟨trivial, fun _ => rfl⟩
      | true => exact rfl

theorem keeps_send_keepalive (setup : Setup) (count : Nat) (idle : duty.IsIdle) :
    (sendKeepalive setup count).Keeps (fun _ after => after.IsIdle) duty := by
  refine keeps_perform trivial fun high => keeps_perform trivial fun low => ?_
  exact keeps_bind (keeps_send_frame setup _ idle) fun _ _ idle => idle

theorem keeps_tick_body (setup : Setup) (count : Nat) (idle : duty.IsIdle) :
    (isOpen >>= fun isOpen => if isOpen then sendKeepalive setup count else pure false).Keeps
      (fun _ after => after.IsIdle) duty := by
  refine keeps_bind (keeps_is_open idle) fun isOpen after looked => ?_
  cases isOpen with
  | false => exact looked.1
  | true => exact keeps_send_keepalive setup count looked.1

theorem keeps_keepalive (setup : Setup) (scheduler : Nat) (due : Option Nat) (count : Nat)
    (idle : duty.IsIdle) :
    (keepalive setup scheduler due count).Keeps (fun _ after => after.IsIdle) duty := by
  apply keeps_bind (keeps_await_turn setup scheduler _ due duty)
  rintro tick _ rfl
  cases tick with
  | none => exact idle
  | some tick =>
      dsimp only
      split
      · exact idle
      · refine keeps_bind (keeps_tick_body setup _ idle) fun goesOn after idle => ?_
        cases goesOn <;> exact ⟨trivial, fun _ => idle⟩

theorem keeps_run_hook (setup : Setup) (idle : duty.IsIdle) :
    (runHook setup).Keeps (fun _ after => after.IsIdle) duty := by
  have lasts : ∀ duty : Duty, duty.IsIdle →
      (perform .readClock >>= fun start =>
        if 0 < setup.hook.lasts start then do
          let _ ← perform (.sleep (start + setup.hook.lasts start) none)
          if setup.hook.isAnnounced then perform (.report 0 .hookEnded)
        else pure () : Script Unit).Keeps (fun _ after => after.IsIdle) duty := by
    intro duty idle
    refine keeps_perform trivial fun start => ?_
    split
    · refine keeps_perform trivial fun _ => ?_
      split
      · exact ⟨trivial, fun _ => idle⟩
      · exact idle
    · exact idle
  unfold runHook
  cases setup.hook.sends with
  | none => exact keeps_ite (keeps_perform trivial fun _ => lasts duty idle) (lasts duty idle)
  | some content =>
      have sent := keeps_send_frame setup (.text content) idle
      refine keeps_ite (keeps_perform trivial fun _ => ?_) ?_
      · exact keeps_bind sent fun _ => lasts
      · exact keeps_bind sent fun _ => lasts

theorem keeps_maintenance (setup : Setup) (scheduler : Nat) (due : Option Nat)
    (idle : duty.IsIdle) :
    (maintenance setup scheduler due).Keeps (fun _ after => after.IsIdle) duty := by
  apply keeps_bind (keeps_await_turn setup scheduler _ due duty)
  rintro tick _ rfl
  cases tick with
  | none => exact idle
  | some tick =>
      dsimp only
      split
      · exact idle
      · refine keeps_bind (keeps_is_open idle) fun isOpen after looked => ?_
        cases isOpen with
        | false => exact ⟨trivial, fun _ => looked.1⟩
        | true =>
            refine keeps_bind (keeps_run_hook setup looked.1) fun _ after idle => ?_
            exact ⟨trivial, fun _ => idle⟩

theorem keeps_start_scheduler (setup : Setup) (idle : duty.IsIdle) :
    (startScheduler setup).Keeps (fun _ after => after.IsIdle) duty := by
  have maintained : ∀ scheduler : Nat,
      (if isRunning setup.config.maintenance then do
        perform (.spawn (.maintenance scheduler none))
        return scheduler
      else return scheduler : Script Nat).Keeps (fun _ after => after.IsIdle) duty :=
    fun _ => keeps_ite (keeps_perform trivial fun _ => idle) idle
  refine keeps_perform trivial fun scheduler => ?_
  exact keeps_ite (keeps_perform trivial fun _ => maintained scheduler) (maintained scheduler)

theorem keeps_start (setup : Setup) (leftover : Bytes) (idle : duty.IsIdle) :
    (start setup leftover).Keeps (fun _ after => after.IsIdle) duty := by
  refine keeps_perform trivial fun _ => keeps_ite ?_ idle
  exact keeps_bind (keeps_start_scheduler setup idle) fun _ _ idle => ⟨trivial, fun _ => idle⟩

end Connection

open Script Connection

theorem Task.keeps (setup : Setup) (task : Task) {duty : Duty} (idle : duty.IsIdle) :
    (task.script setup).Keeps (fun _ after => after.IsIdle) duty := by
  cases task with
  | receive pending assembler => exact keeps_receive setup pending assembler idle
  | watchdog => exact keeps_watchdog setup idle
  | keepalive scheduler due count => exact keeps_keepalive setup scheduler due count idle
  | maintenance scheduler due => exact keeps_maintenance setup scheduler due idle

theorem Call.keeps (setup : Setup) (call : Call) {duty : Duty} (idle : duty.IsIdle) :
    (call.script setup).Keeps (fun _ after => after.IsIdle) duty := by
  cases call with
  | send frame => exact keeps_bind (keeps_send_frame setup frame idle) fun _ _ idle => idle
  | close code reason => exact keeps_bind (keeps_close setup code reason idle) fun _ _ idle => idle
  | awaitClosed => exact ⟨trivial, fun _ => idle⟩

end WebSocket
