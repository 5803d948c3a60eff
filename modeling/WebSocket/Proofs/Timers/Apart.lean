import WebSocket.Proofs.Connection.Common

/-!
Ticks and guards are the timers' own business. No other script of a connection waits for a tick,
comes near a guard or counts a skip, and neither does what a timer does between its guards.
-/

namespace WebSocket

open Script Connection

def Script.IsApart {Result : Type} (script : Script Result) : Prop :=
  script.All fun action => action.isOfTimer = false

namespace Script.IsApart

variable {setup : Setup}

theorem of_common {Result : Type} {script : Script Result} (common : script.IsCommon) : script.IsApart :=
  common.mono fun _ => Action.not_of_timer

theorem of_passing {script : Script (Option Task)} (passing : script.IsPassing) : script.IsApart := by
  obtain ⟨_, part, common, rfl⟩ := passing
  exact All.bind (of_common common) fun _ => trivial

theorem of_notify (event : Event) : (notify setup event).IsApart := notify_tells setup fun _ => rfl

theorem of_protocol_failure (failure : Error) : (protocolFailure setup failure).IsApart :=
  All.bind (of_common (.of_fail _ _)) fun _ => trivial

theorem of_deliver (message : Message) (assembler : Assembler) :
    (deliver setup message assembler).IsApart := by
  unfold deliver
  split
  · exact of_protocol_failure _
  · exact All.bind (of_notify _) fun _ => trivial
  · exact All.bind (of_notify _) fun _ => trivial

theorem of_answer_ping (payload : Bytes) (assembler : Assembler) :
    (answerPing setup payload assembler).IsApart := by
  refine All.bind (of_notify _) fun _ => All.bind (of_common .of_is_open) fun _ => All.ite trivial ?_
  refine All.bind (of_common (.of_transmit _)) fun _ => All.ite ?_ trivial
  exact All.bind (of_common (.of_fail _ _)) fun _ => trivial

theorem of_dispatch (assembler : Assembler) (frame : Frame) :
    (dispatch setup assembler frame).IsApart := by
  unfold dispatch
  split
  · exact of_protocol_failure _
  · split
    · exact of_answer_ping _ assembler
    · exact All.bind (of_notify _) fun _ => trivial
    · split
      · exact of_protocol_failure _
      · exact All.bind (of_notify _) fun _ => All.bind (of_common (.of_handle_peer_close _)) fun _ => trivial
    · split
      · exact of_protocol_failure _
      · exact trivial
      · exact of_deliver _ _

theorem of_skip_unexpected (opcode : Byte) : (skipUnexpected setup opcode).IsApart := by
  refine All.bind (of_notify _) fun _ => All.ite ?_ trivial
  refine All.bind (of_common .of_is_open) fun _ => All.ite ?_ trivial
  exact All.bind (of_common (.of_begin_close _ _)) fun _ => trivial

theorem of_receive (pending : Bytes) (assembler : Assembler) :
    (receive setup pending assembler).IsApart := by
  have reads : (readMore setup pending assembler).IsApart := by
    refine All.perform rfl fun _ => All.ite (All.bind (of_common .of_teardown) fun _ => trivial) ?_
    refine All.perform rfl fun _ => All.perform rfl fun reading => ?_
    cases reading with
    | data bytes => exact trivial
    | timedOut => exact trivial
    | _ => exact All.bind (of_common .of_teardown) fun _ => trivial
  unfold receive
  split
  · exact All.bind (of_common (.of_fail _ _)) fun _ => trivial
  · exact reads
  · exact All.bind (of_skip_unexpected _) fun _ => trivial
  · exact All.bind (of_dispatch assembler _) fun _ => trivial

end Script.IsApart

end WebSocket
