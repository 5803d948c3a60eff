import WebSocket.Proofs.Connection.Release
import WebSocket.Proofs.Frame.Proper
import WebSocket.Proofs.Message.Bounds

/-!
What the actors of a connection hand on: frames to the gate, messages to the observers, and what
a receive loop holds to the one that goes on with it. All of it is sound in every script, whatever
the replies are, and so it is in every run in which receive loops come from an opening.
-/

namespace WebSocket

def Event.IsSound (limits : Limits) : Event → Prop
  | text content => (Utf8.encode content).length ≤ limits.messageSize
  | binary content => content.length ≤ limits.messageSize
  | _ => True

/-- A receive loop holds an assembler that was given some frames, and that nothing else has changed. -/
def Task.IsSound (limits : Limits) : Task → Prop
  | receive _ assembler => assembler.Arises limits
  | _ => True

/-- What the action hands on is sound. To read is left to the receive loop. -/
def Action.IsSound (limits : Limits) : Action → Prop
  | queueForGate content => content = [] ∨ Frame.Sends content
  | tell _ event => event.IsSound limits
  | spawn task => task.IsSound limits
  | read .. => False
  | _ => True

namespace Script

variable {Result Other : Type} {limits : Limits} {holds : Action → Prop} {ends : Result → Prop}
variable {script : Script Result}

/-- All that is handed on is sound, and `ends` holds of the result. -/
def Hands (limits : Limits) (ends : Result → Prop) : Script Result → Prop
  | done result => ends result
  | act action next => action.IsSound limits ∧ ∀ reply, Hands limits ends (next reply)

theorem Hands.bind {last : Other → Prop} {next : Result → Script Other}
    (hands : script.Hands limits ends) (rest : ∀ result, ends result → (next result).Hands limits last) :
    (script.bind next).Hands limits last := by
  induction script with
  | done result => exact rest result hands
  | act action goesOn induction => exact ⟨hands.1, fun reply => induction reply (hands.2 reply)⟩

theorem Hands.perform {action : Action} {next : action.Reply → Script Result}
    (sound : action.IsSound limits) (rest : ∀ reply, (next reply).Hands limits ends) :
    (perform action >>= next).Hands limits ends := ⟨sound, rest⟩

theorem Hands.ite {condition : Prop} [Decidable condition] {first second : Script Result}
    (yes : first.Hands limits ends) (no : second.Hands limits ends) :
    (if condition then first else second).Hands limits ends := by
  split
  · exact yes
  · exact no

theorem Hands.of_all (sound : ∀ action, holds action → action.IsSound limits)
    (all : script.All holds) : script.Hands limits fun _ => True := by
  induction script with
  | done result => exact trivial
  | act action next induction =>
      exact ⟨sound action all.1, fun reply => induction reply (all.2 reply)⟩

end Script

namespace Connection

open Script

variable {setup : Setup}

abbrev Clean {Result : Type} (setup : Setup) (script : Script Result) : Prop :=
  script.Hands setup.config.limits fun _ => True

/-- There is either nothing to go on with, or an assembler that was only given frames. -/
abbrev Carries (setup : Setup) (script : Script (Option Assembler)) : Prop :=
  script.Hands setup.config.limits fun result =>
    ∀ assembler ∈ result, assembler.Arises setup.config.limits

theorem clean_notify (event : Event) (sound : event.IsSound setup.config.limits) :
    Clean setup (notify setup event) := by
  unfold Clean notify
  induction List.range setup.observers.length with
  | nil => exact trivial
  | cons index rest induction => exact ⟨sound, fun _ => induction⟩

theorem clean_is_open : Clean setup isOpen := ⟨trivial, fun _ => trivial⟩

theorem clean_send {frame : Frame} (proper : frame.IsProper) :
    Clean setup (Gate.sendFrame setup.config frame) := by
  refine ⟨trivial, fun key => ⟨.inr ⟨frame, key, proper, rfl⟩, fun _ => ⟨trivial, fun hasWriter => ?_⟩⟩⟩
  cases hasWriter with
  | false => exact ⟨trivial, fun _ => trivial⟩
  | true =>
      refine ⟨trivial, fun entered => ?_⟩
      have transfers : Clean setup (Gate.transferAll setup.config.slowWrite
          (entered + setup.config.timeouts.write) (frame.serialize (some key))) := by
        apply Hands.of_all _ (Gate.transfer_all_transfers _ _ _)
        intro action transfer
        cases action <;> first | exact trivial | exact transfer.elim
      exact transfers.bind fun _ _ => ⟨trivial, fun _ => trivial⟩

theorem clean_transmit {frame : Frame} (proper : frame.IsProper) : Clean setup (transmit setup frame) := by
  apply (clean_send proper).bind
  intro status _
  exact Hands.ite ((clean_notify (.frameSent frame) trivial).bind fun _ _ => trivial) trivial

theorem clean_teardown : Clean setup (teardown setup) := by
  have announces : Clean setup (act .announceClosed fun _ => notify setup .closed) :=
    ⟨trivial, fun _ => clean_notify .closed trivial⟩
  have shuts : Clean setup ((Gate.shutdown setup.config).bind fun _ =>
      act .announceClosed fun _ => notify setup .closed) := by
    have shutdown : Clean setup (Gate.shutdown setup.config) := by
      refine ⟨.inl rfl, fun _ => ⟨trivial, fun hasWriter => ?_⟩⟩
      cases hasWriter with
      | false => exact ⟨trivial, fun _ => trivial⟩
      | true =>
          exact ⟨trivial, fun _ => ⟨trivial, fun _ => ⟨trivial, fun _ => ⟨trivial, fun _ => trivial⟩⟩⟩⟩
    exact shutdown.bind fun _ _ => announces
  refine ⟨trivial, fun before => ?_⟩
  change Script.Hands _ _ (if before = .closed then _ else _ : Script Unit)
  split
  · exact trivial
  · refine ⟨trivial, fun _ => ⟨trivial, fun attached => ?_⟩⟩
    cases attached with
    | none => exact shuts
    | some scheduler => exact ⟨trivial, fun _ => shuts⟩

theorem clean_send_close_once {frame : Frame} (proper : frame.IsProper) :
    Clean setup (sendCloseOnce setup frame) := by
  refine ⟨trivial, fun isFirst => ?_⟩
  cases isFirst with
  | true => exact clean_transmit proper
  | false => exact trivial

section

variable {code : Option UInt16}

theorem clean_begin_close (reason : String)
    (sendable : ∀ number ∈ code, CloseCode.Sendable number.toNat) :
    Clean setup (beginClose setup code reason) := by
  refine ⟨trivial, fun isOwner => ?_⟩
  cases isOwner with
  | false => exact trivial
  | true =>
      apply (clean_send_close_once (Frame.proper_close reason sendable)).bind
      intro status _
      exact Hands.ite (clean_teardown.bind fun _ _ => trivial) ⟨trivial, fun _ => trivial⟩

theorem clean_ends (reason : String) (sendable : ∀ number ∈ code, CloseCode.Sendable number.toNat)
    (isOwner : Bool) :
    Clean setup (do
      if isOwner then
        let _ ← sendCloseOnce setup (.close code reason)
      teardown setup) := by
  cases isOwner with
  | false => exact clean_teardown
  | true =>
      exact (clean_send_close_once (Frame.proper_close reason sendable)).bind fun _ _ => clean_teardown

end

theorem sendable_of_valid {content : Option CloseFrame}
    (valid : ∀ close ∈ content, close.code.isValid = true) :
    ∀ number ∈ content.map fun close => close.code.number, CloseCode.Sendable number.toNat := by
  intro number member
  obtain ⟨close, found, rfl⟩ := Option.mem_map.mp member
  exact of_decide_eq_true (valid close found)

theorem sendable_of_code {number : UInt16} (sendable : CloseCode.Sendable number.toNat) :
    ∀ other ∈ some number, CloseCode.Sendable other.toNat := by
  rintro _ ⟨⟩
  exact sendable

theorem clean_handle_peer_close {content : Option CloseFrame}
    (valid : ∀ close ∈ content, close.code.isValid = true) :
    Clean setup (handlePeerClose setup content) :=
  ⟨trivial, fun _ => ⟨trivial, fun isOwner => clean_ends "" (sendable_of_valid valid) isOwner⟩⟩

theorem clean_fail {code : UInt16} (reason : String) (sendable : CloseCode.Sendable code.toNat) :
    Clean setup (fail setup code reason) :=
  ⟨trivial, fun isOwner => clean_ends reason (sendable_of_code sendable) isOwner⟩

theorem clean_refuse : Clean setup refuse := ⟨trivial, fun _ => trivial⟩

theorem clean_send_frame (frame : Frame) : Clean setup (sendFrame setup frame) := by
  refine Hands.perform trivial fun phase => Hands.ite clean_refuse ?_
  cases valid : frame.validate with
  | error failure => exact trivial
  | ok _ =>
      dsimp only
      split
      · cases read : frame.closeFrame with
        | error failure => exact trivial
        | ok content =>
            have sendable := sendable_of_valid (Frame.sendable_of_close_frame read)
            exact (clean_begin_close _ sendable).bind fun _ _ => trivial
      · rename_i other
        apply (clean_transmit (Frame.proper_of_valid valid other)).bind
        intro status _
        exact Hands.ite (clean_teardown.bind fun _ _ => trivial) trivial

theorem clean_await_closed : Clean setup awaitClosed := ⟨trivial, fun _ => trivial⟩

theorem clean_close (code : CloseCode) (reason : String) :
    Clean setup (Connection.close setup code reason) := by
  have awaits : Clean setup (awaitClosed.bind fun _ => .done (.ok () : Except Error Unit)) :=
    clean_await_closed.bind fun _ _ => trivial
  unfold Connection.close
  split
  · exact trivial
  rename_i sendable
  refine ⟨trivial, fun phase => ?_⟩
  cases phase with
  | opened =>
      have valid : CloseCode.Sendable code.number.toNat := by simpa [CloseCode.isValid] using sendable
      exact (clean_begin_close reason (sendable_of_code valid)).bind fun _ _ => awaits
  | closing => exact awaits
  | handshaking => exact clean_teardown.bind fun _ _ => awaits
  | closed => exact trivial

section

variable {assembler : Assembler}

theorem carries_none : Carries setup (.done none) := nofun

theorem carries_some (arises : assembler.Arises setup.config.limits) :
    Carries setup (.done (some assembler)) := by
  rintro _ ⟨⟩
  exact arises

theorem carries_protocol_failure (failure : Error) : Carries setup (protocolFailure setup failure) :=
  (clean_fail _ failure.sendable_close_code).bind fun _ _ => carries_none

theorem carries_deliver {message : Message}
    (fits : message.payload.length ≤ setup.config.limits.messageSize)
    (arises : assembler.Arises setup.config.limits) :
    Carries setup (deliver setup message assembler) := by
  unfold deliver
  split
  · exact carries_protocol_failure _
  · rename_i content opcode read
    have same : message.payload = Utf8.encode content := by
      unfold Message.text at read
      split at read
      · cases read
        exact Utf8.decode_eq_some_iff.mp ‹_›
      · cases read
    rw [same] at fits
    exact (clean_notify (.text content) fits).bind fun _ _ => carries_some arises
  · exact (clean_notify (.binary message.payload) fits).bind fun _ _ => carries_some arises

theorem carries_answer_ping {payload : Bytes} (short : payload.length ≤ Frame.maxControlPayload)
    (arises : assembler.Arises setup.config.limits) :
    Carries setup (answerPing setup payload assembler) := by
  apply Hands.bind (clean_notify (.ping payload) trivial)
  intro _ _
  apply Hands.bind clean_is_open
  intro isOpen _
  apply Hands.ite (carries_some arises)
  apply Hands.bind (clean_transmit (Frame.proper_pong short))
  intro status _
  have fails : Carries setup ((fail setup 1002 "pong could not be sent").bind fun _ => .done none) :=
    (clean_fail _ (by decide)).bind fun _ _ => carries_none
  exact Hands.ite fails (carries_some arises)

theorem carries_dispatch (frame : Frame)
    (arises : assembler.Arises setup.config.limits) :
    Carries setup (dispatch setup assembler frame) := by
  unfold dispatch
  split
  · exact carries_protocol_failure _
  rename_i valid
  split
  · rename_i isPing
    have short : frame.payload.length ≤ Frame.maxControlPayload := by
      simp only [Frame.validate, isPing, Opcode.isControl] at valid
      split at valid
      · cases valid
      simp only [if_true] at valid
      split at valid
      · cases valid
      split at valid
      · cases valid
      · rename_i short
        exact Nat.not_lt.mp short
    exact carries_answer_ping short arises
  · exact (clean_notify (.pong frame.payload) trivial).bind fun _ _ => carries_some arises
  · cases read : frame.closeFrame with
    | error failure => exact carries_protocol_failure _
    | ok content =>
        have valid := Frame.sendable_of_close_frame read
        apply Hands.bind (clean_notify (.close content) trivial)
        exact fun _ _ => (clean_handle_peer_close valid).bind fun _ _ => carries_none
  · split
    · exact carries_protocol_failure _
    · rename_i next pushed
      have later := arises.push frame
      rw [pushed] at later
      exact carries_some later
    · rename_i message next pushed
      have later := arises.push frame
      rw [pushed] at later
      exact carries_deliver (arises.message_fits (congrArg Prod.fst pushed)) later

end

theorem clean_skip_unexpected (opcode : Byte) : Clean setup (skipUnexpected setup opcode) := by
  apply Hands.bind (clean_notify (.unexpected opcode) trivial)
  intro _ _
  refine Hands.ite (Hands.bind clean_is_open fun isOpen _ => Hands.ite ?_ trivial) trivial
  exact (clean_begin_close _ (sendable_of_code (by decide))).bind fun _ _ => trivial

theorem clean_await_turn (scheduler period : Nat) (due : Option Nat) :
    Clean setup (awaitTurn setup scheduler period due) := by
  refine Hands.perform trivial fun _ => Hands.perform trivial fun _ => Hands.ite trivial ?_
  refine Hands.perform trivial fun _ => Hands.perform trivial fun _ => Hands.perform trivial fun _ => ?_
  exact Hands.ite (Hands.perform trivial fun _ => trivial) trivial

theorem clean_send_keepalive (count : Nat) : Clean setup (sendKeepalive setup count) :=
  ⟨trivial, fun _ => ⟨trivial, fun _ => (clean_send_frame _).bind fun _ _ => trivial⟩⟩

theorem clean_run_hook : Clean setup (runHook setup) := by
  have lasts : Clean setup
      (Script.perform .readClock >>= fun start =>
        if 0 < setup.hook.lasts start then do
          let _ ← Script.perform (.sleep (start + setup.hook.lasts start) none)
          if setup.hook.isAnnounced then Script.perform (.report 0 .hookEnded)
        else pure () : Script Unit) := by
    refine Hands.perform trivial fun _ => Hands.ite (Hands.perform trivial fun _ => ?_) trivial
    exact Hands.ite ⟨trivial, fun _ => trivial⟩ trivial
  unfold runHook
  cases setup.hook.sends with
  | none => exact Hands.ite (Hands.perform trivial fun _ => lasts) lasts
  | some content =>
      have sends : Clean setup (sendFrame setup (.text content)) := clean_send_frame _
      have sent := sends.bind fun _ _ => lasts
      exact Hands.ite (Hands.perform trivial fun _ => sent) sent

abbrev Resumes (setup : Setup) (script : Script (Option Task)) : Prop :=
  script.Hands setup.config.limits fun result => ∀ task ∈ result, task.IsSound setup.config.limits

theorem resumes_none : Resumes setup (.done none) := nofun

theorem resumes_on {task : Task} (sound : task.IsSound setup.config.limits) :
    Resumes setup (.done (some task)) := by
  rintro _ ⟨⟩
  exact sound

theorem resumes_watchdog : Resumes setup (watchdog setup) := by
  refine Hands.perform trivial fun _ => Hands.perform trivial fun isClosed => ?_
  exact Hands.ite (clean_teardown.bind fun _ _ => resumes_none) resumes_none

theorem resumes_keepalive (scheduler : Nat) (due : Option Nat) (count : Nat) :
    Resumes setup (keepalive setup scheduler due count) := by
  apply (clean_await_turn scheduler _ due).bind
  intro tick _
  cases tick with
  | none => exact resumes_none
  | some tick =>
      have body : Clean setup
          (isOpen.bind fun isOpen => if isOpen then sendKeepalive setup (count + 1) else pure false) :=
        clean_is_open.bind fun _ _ => Hands.ite (clean_send_keepalive _) trivial
      refine Hands.ite (resumes_on trivial) (body.bind fun _ _ => Hands.perform trivial fun _ => ?_)
      exact Hands.ite (resumes_on trivial) resumes_none

theorem resumes_maintenance (scheduler : Nat) (due : Option Nat) :
    Resumes setup (maintenance setup scheduler due) := by
  apply (clean_await_turn scheduler _ due).bind
  intro tick _
  cases tick with
  | none => exact resumes_none
  | some tick =>
      refine Hands.ite (resumes_on trivial) (clean_is_open.bind fun _ _ => Hands.ite ?_ ?_)
      · exact clean_run_hook.bind fun _ _ => Hands.perform trivial fun _ => resumes_on trivial
      · exact Hands.perform trivial fun _ => resumes_none

theorem clean_start_scheduler : Clean setup (startScheduler setup) := by
  have maintained (scheduler : Nat) : Clean setup
      (if isRunning setup.config.maintenance then do
        Script.perform (.spawn (.maintenance scheduler none))
        return scheduler
      else return scheduler : Script Nat) :=
    Hands.ite (Hands.perform trivial fun _ => trivial) trivial
  refine Hands.perform trivial fun scheduler => Hands.ite ?_ (maintained scheduler)
  exact Hands.perform trivial fun _ => maintained scheduler

theorem clean_start (leftover : Bytes) : Clean setup (start setup leftover) := by
  refine Hands.perform (Assembler.arises_new _) fun _ => Hands.ite (clean_start_scheduler.bind fun _ _ => ?_) trivial
  exact ⟨trivial, fun _ => trivial⟩

theorem clean_proceed (isOpen : Bool) (leftover : Bytes) : Clean setup (proceed setup isOpen leftover) := by
  refine Hands.ite clean_teardown (Hands.perform trivial fun isMoved => Hands.ite ?_ trivial)
  exact (clean_notify .opened trivial).bind fun _ _ => clean_start leftover

theorem clean_call (call : Call) : Clean setup (call.script setup) := by
  cases call with
  | send frame => exact (clean_send_frame frame).bind fun _ _ => trivial
  | close code reason => exact (clean_close code reason).bind fun _ _ => trivial
  | awaitClosed => exact clean_await_closed.bind fun _ _ => trivial

theorem clean_errand (errand : Errand) : Clean setup (errand.script setup) := by
  cases errand with
  | start leftover => exact clean_start leftover
  | schedule => exact clean_start_scheduler.bind fun _ _ => trivial
  | stop scheduler => exact ⟨trivial, fun _ => trivial⟩

end Connection

end WebSocket
