import WebSocket.Proofs.Connection.Common
import WebSocket.Proofs.Connection.Deeds
import WebSocket.Proofs.Gate.Verdicts

/-!
What the operations of a connection make of the gate's verdicts. Whoever is told that nothing can be
written any more closes the phase before the operation ends, whatever the frame was that it came to
write. Whoever sends ordinary frames only leaves the phase alone until it is told so.
-/

namespace WebSocket

namespace Record

/-- Who was told that nothing can be written any more has closed the connection. -/
def IsSettled (record : Record) : Prop :=
  SendStatus.fatalError ∈ record.verdicts → record.hasClosed = true

/-- Who has moved the phase was told before that nothing can be written any more. -/
def IsCalm (record : Record) : Prop :=
  record.hasMoved = true → SendStatus.fatalError ∈ record.verdicts

variable {record : Record} {status : SendStatus}

theorem IsSettled.told (settled : record.IsSettled) (mild : status ≠ .fatalError) :
    (record.told status).IsSettled := by
  intro fatal
  rcases List.mem_append.mp fatal with before | now
  · exact settled before
  · exact absurd (List.mem_singleton.mp now).symm mild

theorem IsCalm.told (calm : record.IsCalm) : (record.told status).IsCalm :=
  fun moved => List.mem_append_left _ (calm moved)

theorem fatal_of_told : SendStatus.fatalError ∈ (record.told .fatalError).verdicts :=
  List.mem_append_right _ List.mem_cons_self

end Record

namespace Script

open Dealings

variable {Result Other : Type} {holds : Record → Prop}

def Maintains (script : Script Result) (holds : Record → Prop) : Prop :=
  ∀ record, holds record → script.Records (fun _ after => holds after) record

def Closes (script : Script Result) : Prop :=
  ∀ record, script.Records (fun _ after => after.hasClosed = true) record

namespace Maintains

theorem done {result : Result} : (Script.done result).Maintains holds := fun _ held => Records.done held

theorem bind {script : Script Result} {next : Result → Script Other} (first : script.Maintains holds)
    (rest : ∀ result, (next result).Maintains holds) : (script.bind next).Maintains holds :=
  fun record held => (first record held).bind fun result after => rest result after

theorem perform {action : Action} {next : action.Reply → Script Result}
    (apart : action.isApart = true) (rest : ∀ reply, (next reply).Maintains holds) :
    (Script.perform action >>= next).Maintains holds :=
  fun record held => Records.perform apart fun reply => rest reply record held

theorem ite {condition : Prop} [Decidable condition] {first second : Script Result}
    (yes : first.Maintains holds) (no : second.Maintains holds) :
    (if condition then first else second).Maintains holds := by
  split
  · exact yes
  · exact no

theorem of_apart {script : Script Result} (apart : script.All fun action => action.isApart = true) :
    script.Maintains holds := by
  intro record held
  apply (Records.of_apart apart).mono
  rintro _ _ rfl
  exact held

end Maintains

namespace Closes

theorem bind {script : Script Result} {next : Result → Script Other}
    (last : ∀ result, (next result).Closes) : (script.bind next).Closes :=
  fun record => (Records.grows script record).bind fun result after _ => last result after

theorem ite {condition : Prop} [Decidable condition] {first second : Script Result}
    (yes : first.Closes) (no : second.Closes) : (if condition then first else second).Closes := by
  split
  · exact yes
  · exact no

theorem settles {script : Script Result} (closes : script.Closes) : script.Maintains Record.IsSettled :=
  fun record _ => (closes record).mono fun _ _ closed _ => closed

theorem settles_before {script : Script Result} {next : Result → Script Other} (closes : script.Closes)
    (rest : ∀ result, (next result).Maintains Record.IsSettled) (record : Record) :
    (script.bind next).Records (fun _ after => after.IsSettled) record :=
  (closes record).bind fun result after closed => rest result after fun _ => closed

end Closes

end Script

namespace Connection

open Script

variable {setup : Setup} {record : Record}

theorem closes_teardown : (teardown setup).Closes := by
  intro record
  apply (teardown_records setup).mono
  rintro _ _ rfl
  rfl

theorem closes_part (frame : Frame) : (part setup frame).Closes :=
  .bind fun _ => .ite (.bind fun _ => closes_teardown) closes_teardown

theorem closes_fail (code : UInt16) (reason : String) : (fail setup code reason).Closes :=
  closes_part _

theorem closes_handle_peer_close (frame : Option CloseFrame) : (handlePeerClose setup frame).Closes :=
  .bind fun _ => closes_part _

theorem send_close_once_records (settled : record.IsSettled) (frame : Frame) :
    (sendCloseOnce setup frame).Records (fun status after => status ≠ .fatalError → after.IsSettled)
      record := by
  refine Records.perform rfl fun isFirst => .ite (fun _ => ?_) fun _ => .done fun _ => settled
  apply (transmit_records setup frame).mono
  rintro status _ rfl
  exact settled.told

theorem settles_begin_close (code : Option UInt16) (reason : String) :
    (beginClose setup code reason).Maintains Record.IsSettled := by
  refine fun record settled => Records.move fun isOwner => .ite (fun _ => ?_) fun _ => .done settled
  have moved : Record.IsSettled { record with hasMoved := record.hasMoved || isOwner } := settled
  apply (send_close_once_records moved (.close code reason)).bind
  intro status after mild
  refine .ite (fun _ => closes_teardown.settles_before (fun _ => .done) after) fun other => ?_
  exact Records.perform rfl fun _ => .done (mild other)

theorem settles_transmit {Result : Type} (frame : Frame) {failing rest : SendStatus → Script Result}
    (closes : ∀ status record, (failing status).Records (fun _ after => after.IsSettled) record)
    (goesOn : ∀ status, (rest status).Maintains Record.IsSettled) :
    ((transmit setup frame).bind fun status =>
      if status = .fatalError then failing status else rest status).Maintains Record.IsSettled := by
  intro record settled
  apply (transmit_records setup frame).bind
  rintro status _ rfl
  exact .ite (fun _ => closes status _) fun mild => goesOn status _ (settled.told mild)

theorem settles_send_frame (frame : Frame) : (sendFrame setup frame).Maintains Record.IsSettled := by
  refine .perform rfl fun phase => .ite (.of_apart ⟨rfl, fun _ => trivial⟩) ?_
  cases frame.validate with
  | error failure => exact .done
  | ok _ =>
      dsimp only
      split
      · split
        · exact .done
        · exact (settles_begin_close _ _).bind fun _ => .done
      · exact settles_transmit frame (fun _ => closes_teardown.settles_before fun _ => .done) fun _ => .done

theorem settles_close (code : CloseCode) (reason : String) :
    (Connection.close setup code reason).Maintains Record.IsSettled := by
  have awaits : (awaitClosed.bind fun _ => .done (.ok () : Except Error Unit)).Maintains
      Record.IsSettled := .of_apart ⟨rfl, fun _ => trivial⟩
  refine .ite .done (.perform rfl fun phase => ?_)
  cases phase with
  | opened => exact (settles_begin_close _ _).bind fun _ => awaits
  | closing => exact awaits
  | handshaking => exact closes_teardown.settles.bind fun _ => awaits
  | closed => exact .done

theorem settles_protocol_failure (failure : Error) :
    (protocolFailure setup failure).Maintains Record.IsSettled :=
  (closes_fail _ _).settles.bind fun _ => .done

theorem maintains_notify {holds : Record → Prop} (event : Event) :
    (notify setup event).Maintains holds := .of_apart (notify_tells setup fun _ => rfl)

theorem maintains_is_open {holds : Record → Prop} : isOpen.Maintains holds :=
  .of_apart ⟨rfl, fun _ => trivial⟩

theorem settles_answer_ping (payload : Bytes) (assembler : Assembler) :
    (answerPing setup payload assembler).Maintains Record.IsSettled := by
  refine (maintains_notify _).bind fun _ => maintains_is_open.bind fun isOpen => .ite .done ?_
  exact settles_transmit _ (fun _ => (closes_fail _ _).settles_before fun _ => .done) fun _ => .done

theorem settles_deliver (message : Message) (assembler : Assembler) :
    (deliver setup message assembler).Maintains Record.IsSettled := by
  unfold deliver
  split
  · exact settles_protocol_failure _
  · exact (maintains_notify _).bind fun _ => .done
  · exact (maintains_notify _).bind fun _ => .done

theorem settles_dispatch (assembler : Assembler) (frame : Frame) :
    (dispatch setup assembler frame).Maintains Record.IsSettled := by
  unfold dispatch
  split
  · exact settles_protocol_failure _
  · split
    · exact settles_answer_ping _ assembler
    · exact (maintains_notify _).bind fun _ => .done
    · split
      · exact settles_protocol_failure _
      · exact (maintains_notify _).bind fun _ => (closes_handle_peer_close _).settles.bind fun _ => .done
    · split
      · exact settles_protocol_failure _
      · exact .done
      · exact settles_deliver _ _

theorem settles_skip_unexpected (opcode : Byte) :
    (skipUnexpected setup opcode).Maintains Record.IsSettled := by
  refine (maintains_notify _).bind fun _ => .ite (maintains_is_open.bind fun isOpen => ?_) .done
  exact .ite ((settles_begin_close _ _).bind fun _ => .done) .done

theorem maintains_send_keepalive {holds : Record → Prop}
    (sends : ∀ payload, (sendFrame setup (.ping payload)).Maintains holds) (count : Nat) :
    (sendKeepalive setup count).Maintains holds :=
  .perform rfl fun _ => .perform rfl fun _ => (sends _).bind fun _ => .done

theorem maintains_run_hook {holds : Record → Prop}
    (sends : ∀ content, (sendFrame setup (.text content)).Maintains holds) :
    (runHook setup).Maintains holds := by
  have lasts : (Script.perform .readClock >>= fun start =>
      if 0 < setup.hook.lasts start then do
        let _ ← Script.perform (.sleep (start + setup.hook.lasts start) none)
        if setup.hook.isAnnounced then Script.perform (.report 0 .hookEnded)
      else pure () : Script Unit).Maintains holds := by
    refine .perform rfl fun _ => .ite (.perform rfl fun _ => .ite ?_ .done) .done
    exact .of_apart ⟨rfl, fun _ => trivial⟩
  unfold runHook
  cases setup.hook.sends with
  | none => exact .ite (.perform rfl fun _ => lasts) lasts
  | some content =>
      have sent := (sends content).bind fun _ => lasts
      exact .ite (.perform rfl fun _ => sent) sent

theorem await_turn_apart (scheduler period : Nat) (due : Option Nat) :
    (awaitTurn setup scheduler period due).All fun action => action.isApart = true := by
  apply (await_turn_waits setup scheduler period due).mono
  rintro action (rfl | timer)
  · rfl
  · cases action <;> first | rfl | cases timer

theorem settles_receive (pending : Bytes) (assembler : Assembler) :
    (receive setup pending assembler).Maintains Record.IsSettled := by
  have ends : ((teardown setup).bind fun _ => .done (none : Option Task)).Maintains Record.IsSettled :=
    closes_teardown.settles.bind fun _ => .done
  unfold receive
  split
  · exact (closes_fail _ _).settles.bind fun _ => .done
  · refine .perform rfl fun isCancelled => .ite ends (.perform rfl fun start => ?_)
    refine .perform rfl fun reading => ?_
    cases reading with
    | data bytes => exact .done
    | timedOut => exact .done
    | _ => exact ends
  · exact (settles_skip_unexpected _).bind fun _ => .done
  · exact (settles_dispatch assembler _).bind fun _ => .done

theorem settles_task (task : Task) : (task.script setup).Maintains Record.IsSettled := by
  have leaves {scheduler : Nat} {next : Option Task} :
      (Script.perform (.leaveGuard scheduler) >>= fun _ => .done next).Maintains Record.IsSettled :=
    .perform rfl fun _ => .done
  cases task with
  | receive pending assembler => exact settles_receive pending assembler
  | watchdog =>
      refine .perform rfl fun _ => .perform rfl fun _ => .ite ?_ .done
      exact closes_teardown.settles.bind fun _ => .done
  | keepalive scheduler due count =>
      refine Maintains.bind (.of_apart (await_turn_apart scheduler _ due)) fun tick => ?_
      cases tick with
      | none => exact .done
      | some tick =>
          have sends : (sendKeepalive setup (count + 1)).Maintains Record.IsSettled :=
            maintains_send_keepalive (fun _ => settles_send_frame _) _
          refine .ite .done (Maintains.bind (maintains_is_open.bind fun _ => .ite sends .done) ?_)
          exact fun goesOn => .perform rfl fun _ => .ite .done .done
  | maintenance scheduler due =>
      refine Maintains.bind (.of_apart (await_turn_apart scheduler _ due)) fun tick => ?_
      cases tick with
      | none => exact .done
      | some tick =>
          refine .ite .done (maintains_is_open.bind fun _ => .ite ?_ leaves)
          exact (maintains_run_hook fun _ => settles_send_frame _).bind fun _ => leaves

/-- Once the actor was told, whatever it does is done for that. -/
theorem calm_of_fatal {Result : Type} (fatal : SendStatus.fatalError ∈ record.verdicts)
    (script : Script Result) : script.Records (fun _ after => after.IsCalm) record :=
  (Records.grows script record).mono fun _ _ kept _ => kept.subset fatal

theorem calm_transmit {Result : Type} (frame : Frame) {failing rest : SendStatus → Script Result}
    (goesOn : ∀ status, (rest status).Maintains Record.IsCalm) :
    ((transmit setup frame).bind fun status =>
      if status = .fatalError then failing status else rest status).Maintains Record.IsCalm := by
  intro record calm
  apply (transmit_records setup frame).bind
  rintro status _ rfl
  refine .ite (fun fatal => ?_) fun _ => goesOn status _ calm.told
  subst fatal
  exact calm_of_fatal Record.fatal_of_told _

theorem calm_send_frame {frame : Frame} (ordinary : frame.opcode ≠ .close) :
    (sendFrame setup frame).Maintains Record.IsCalm := by
  refine .perform rfl fun phase => .ite (.of_apart ⟨rfl, fun _ => trivial⟩) ?_
  cases frame.validate with
  | error failure => exact .done
  | ok _ =>
      dsimp only
      rw [if_neg ordinary]
      exact calm_transmit frame fun _ => .done

theorem calm_answer_ping (payload : Bytes) (assembler : Assembler) :
    (answerPing setup payload assembler).Maintains Record.IsCalm := by
  refine (maintains_notify _).bind fun _ => maintains_is_open.bind fun isOpen => .ite .done ?_
  exact calm_transmit _ fun _ => .done

theorem send_frame_records {frame : Frame} (ordinary : frame.opcode ≠ .close) :
    (sendFrame setup frame).Records
      (fun result after => ∀ status, result = .ok status → after.verdicts = record.verdicts ++ [status])
      record := by
  have refuses : refuse.Records (fun result (after : Record) =>
      ∀ status, result = .ok status → after.verdicts = record.verdicts ++ [status]) record :=
    .perform rfl fun _ => .done nofun
  refine Records.perform rfl fun phase => .ite (fun _ => refuses) fun _ => ?_
  cases frame.validate with
  | error failure => exact .done nofun
  | ok _ =>
      dsimp only
      rw [if_neg ordinary]
      apply (transmit_records setup frame).bind
      rintro status _ rfl
      have told : ∀ other, (.ok status : Except Error SendStatus) = .ok other →
          (record.told status).verdicts = record.verdicts ++ [other] := by
        rintro _ ⟨⟩
        rfl
      refine .ite (fun _ => ?_) fun _ => .done told
      apply (teardown_records setup).bind
      rintro _ _ rfl
      exact .done told

/-- The operations in the course of which something is written through the gate. -/
inductive Sends (setup : Setup) : {Result : Type} → Script Result → Prop where
  | frame (frame : Frame) : Sends setup (sendFrame setup frame)
  | close (code : CloseCode) (reason : String) : Sends setup (Connection.close setup code reason)
  | ping (count : Nat) : Sends setup (sendKeepalive setup count)
  | hook : Sends setup (runHook setup)
  | pong (payload : Bytes) (assembler : Assembler) : Sends setup (answerPing setup payload assembler)
  | inbound (assembler : Assembler) (frame : Frame) : Sends setup (dispatch setup assembler frame)
  | unexpected (opcode : Byte) : Sends setup (skipUnexpected setup opcode)
  | beginClose (code : Option UInt16) (reason : String) : Sends setup (beginClose setup code reason)
  | peerClose (frame : Option CloseFrame) : Sends setup (handlePeerClose setup frame)
  | fail (code : UInt16) (reason : String) : Sends setup (fail setup code reason)
  | task (task : Task) : Sends setup (task.script setup)

/-- Those among them that only send frames other than Close frames, if all goes well. -/
inductive SendsOrdinary (setup : Setup) : {Result : Type} → Script Result → Prop where
  | frame {frame : Frame} (ordinary : frame.opcode ≠ .close) : SendsOrdinary setup (sendFrame setup frame)
  | ping (count : Nat) : SendsOrdinary setup (sendKeepalive setup count)
  | hook : SendsOrdinary setup (runHook setup)
  | pong (payload : Bytes) (assembler : Assembler) :
      SendsOrdinary setup (answerPing setup payload assembler)

variable {Result : Type} {operation : Script Result}

theorem Sends.settles (sends : Sends setup operation) : operation.Maintains Record.IsSettled := by
  cases sends with
  | frame frame => exact settles_send_frame frame
  | close code reason => exact settles_close code reason
  | ping count => exact maintains_send_keepalive (fun _ => settles_send_frame _) count
  | hook => exact maintains_run_hook fun _ => settles_send_frame _
  | pong payload assembler => exact settles_answer_ping payload assembler
  | inbound assembler frame => exact settles_dispatch assembler frame
  | unexpected opcode => exact settles_skip_unexpected opcode
  | beginClose code reason => exact settles_begin_close code reason
  | peerClose frame => exact (closes_handle_peer_close frame).settles
  | fail code reason => exact (closes_fail code reason).settles
  | task task => exact settles_task task

theorem SendsOrdinary.calm (sends : SendsOrdinary setup operation) : operation.Maintains Record.IsCalm := by
  cases sends with
  | frame ordinary => exact calm_send_frame ordinary
  | ping count => exact maintains_send_keepalive (fun _ => calm_send_frame nofun) count
  | hook => exact maintains_run_hook fun _ => calm_send_frame nofun
  | pong payload assembler => exact calm_answer_ping payload assembler

end Connection

end WebSocket
