import WebSocket.Proofs.Connection.Yields
import WebSocket.Proofs.Message.Course

/-!
How the deeds of a connection look from outside, and which scripts do them. On an idle
connection that its actor is alone with, a frame goes onto the wire under the next mask
key, byte by byte, before anybody is told of it.
-/

namespace WebSocket

namespace Deed

def told (setup : Setup) (event : Event) : List Output :=
  (List.range setup.observers.length).map fun observer => .told observer event

/-- A frame that is sent is on the wire before the observers are told. -/
def outputs (setup : Setup) (key : Nat) : Deed → List Output
  | tells event => told setup event
  | sends frame =>
      (frame.serialize (some (setup.maskKey key))).map .wrote ++ told setup (.frameSent frame)

/-- How many mask keys the deed takes. -/
def keys : Deed → Nat
  | tells _ => 0
  | sends _ => 1

end Deed

/-- The deeds from outside, if the mask keys are drawn from `key` on. -/
def Setup.outputs (setup : Setup) : (key : Nat) → List Deed → List Output
  | _, [] => []
  | key, deed :: rest => deed.outputs setup key ++ setup.outputs (key + deed.keys) rest

def keysOf (deeds : List Deed) : Nat := (deeds.map Deed.keys).sum

theorem Setup.outputs_append (setup : Setup) (key : Nat) (deeds more : List Deed) :
    setup.outputs key (deeds ++ more) =
      setup.outputs key deeds ++ setup.outputs (key + keysOf deeds) more := by
  induction deeds generalizing key with
  | nil => rfl
  | cons deed rest induction =>
      have keys : key + keysOf (deed :: rest) = key + deed.keys + keysOf rest := by
        rw [keysOf, List.map_cons, List.sum_cons, Nat.add_assoc]
        rfl
      rw [List.cons_append, Setup.outputs, induction, Setup.outputs, List.append_assoc, keys]

/-- The connection is open, and nobody else has anything to do with it. -/
structure Ground.IsIdle (ground : Ground) : Prop where
  opened : ground.phase = .opened
  live : ground.isCancelled = false
  unclaimed : ground.closeClaimed = false
  hasWriter : ground.hasWriter = true
  gate : ground.gate = {}

def Ground.draw (ground : Ground) (count : Nat) : Ground :=
  { ground with keysDrawn := ground.keysDrawn + count }

theorem Ground.IsIdle.draw {ground : Ground} (idle : ground.IsIdle) (count : Nat) :
    (ground.draw count).IsIdle :=
  ⟨idle.opened, idle.live, idle.unclaimed, idle.hasWriter, idle.gate⟩

/-- The connection after its teardown. -/
def Ground.closed (ground : Ground) : Ground :=
  { ground with phase := .closed, isCancelled := true, hasWriter := false }

/-- The connection after the ending of its session. -/
def Ground.after (ground : Ground) (ending : Finale) : Ground :=
  { (ground.draw 1).closed with
    closeClaimed := true
    peerClose := ending.peerClose ground.peerClose }

namespace Connection

open Script

variable {setup : Setup} {ground : Ground}

theorem does_notify (setup : Setup) (event : Event) (ground : Ground) :
    (notify setup event).Does setup ground (Deed.told setup event) () ground := by
  unfold notify Deed.told
  induction List.range setup.observers.length with
  | nil => exact does_done () ground
  | cons index rest induction =>
      refine ⟨trivial, fun reply after same => ?_⟩
      obtain rfl := same
      exact ⟨_, rfl, induction⟩

theorem does_is_open (idle : ground.IsIdle) : isOpen.Does setup ground [] true ground := by
  refine Yields.quiet trivial (fun _ => rfl) fun phase after leads => ?_
  obtain ⟨rfl, rfl⟩ := leads
  rw [idle.opened]
  exact does_done _ _

theorem does_write_all (deadline : Nat) (bytes : Bytes) (taken : Nat) (ground : Ground) :
    (Gate.writeAll deadline bytes taken).Does setup ground ((bytes.drop taken).map .wrote) (.done 0)
      ground := by
  induction bytes generalizing taken with
  | nil =>
      rw [List.drop_nil]
      exact does_done _ ground
  | cons byte rest induction =>
      cases taken with
      | succ taken => exact induction taken
      | zero =>
          refine ⟨List.cons_ne_nil _ _, fun reply after leads => ?_⟩
          obtain ⟨⟨count, rfl⟩, rfl⟩ := leads
          refine ⟨(rest.drop count).map .wrote, ?_, induction count⟩
          have taken : (Transfer.done (count + 1)).taken (byte :: rest) = byte :: rest.take count := rfl
          change _ = ((Transfer.done (count + 1)).taken (byte :: rest)).map _ ++ _
          rw [taken, ← List.map_append, List.cons_append, List.take_append_drop]
          rfl

theorem does_flush (deadline : Nat) (ground : Ground) :
    (Gate.flush deadline).Does setup ground [] (.done 0) ground := by
  refine Yields.quiet trivial (fun _ => rfl) fun reply after leads => ?_
  obtain ⟨rfl, rfl⟩ := leads
  exact does_done _ _

theorem does_pause (milliseconds deadline : Nat) (ground : Ground) :
    (Gate.pause milliseconds deadline).Does setup ground [] (.done 0) ground := by
  refine Yields.quiet trivial (fun _ => rfl) fun now after leads => ?_
  obtain rfl := leads
  refine Yields.quiet trivial (fun _ => rfl) fun inTime after leads => ?_
  obtain ⟨rfl, rfl⟩ := leads
  exact does_done _ _

theorem does_then_transfer {first second : Script Transfer} {outputs more : List Output} {count : Nat}
    {result : Transfer} (before : first.Does setup ground outputs (.done count) ground)
    (behind : second.Does setup ground more result ground) :
    (Gate.thenTransfer first second).Does setup ground (outputs ++ more) result ground :=
  Does.bind before behind

theorem does_write_slowly (delay deadline : Nat) (bytes : Bytes) (ground : Ground) :
    (Gate.writeSlowly delay deadline bytes).Does setup ground (bytes.map .wrote) (.done 0) ground := by
  induction bytes with
  | nil => exact does_done _ ground
  | cons byte rest induction =>
      have flushed := does_then_transfer (does_flush deadline ground)
        (does_then_transfer (does_pause delay deadline ground) induction)
      exact does_then_transfer (does_write_all deadline [byte] 0 ground) flushed

theorem does_transfer_all (slowWrite : Option Nat) (deadline : Nat) (bytes : Bytes)
    (ground : Ground) :
    (Gate.transferAll slowWrite deadline bytes).Does setup ground (bytes.map .wrote) (.done 0)
      ground := by
  have flushed : (Gate.flush deadline).Does setup ground [] (.done 0) ground := does_flush deadline ground
  rw [← List.append_nil (bytes.map Output.wrote)]
  cases slowWrite with
  | none => exact does_then_transfer (does_write_all deadline bytes 0 ground) flushed
  | some delay => exact does_then_transfer (does_write_slowly delay deadline bytes ground) flushed

theorem does_send (config : Config) (bytes : Bytes) (hasWriter : ground.hasWriter = true)
    (gate : ground.gate = {}) :
    (Gate.send config bytes).Does setup ground (bytes.map .wrote) .success ground := by
  cases ground
  subst hasWriter gate
  refine Yields.quiet trivial (fun _ => rfl) fun _ queued leads => ?_
  obtain rfl := leads
  refine Yields.quiet rfl (fun _ => rfl) fun entered inside leads => ?_
  obtain ⟨rfl, rfl⟩ := leads
  refine Yields.quiet trivial (fun _ => rfl) fun start after leads => ?_
  obtain rfl := leads
  rw [← List.append_nil (bytes.map Output.wrote)]
  change (Gate.transferAll _ _ _ >>= _).Yields _ _ _ _
  refine Does.bind (does_transfer_all config.slowWrite _ bytes _) ?_
  refine Yields.quiet trivial (fun _ => rfl) fun _ left leads => ?_
  obtain rfl := leads
  exact ⟨rfl, rfl, rfl⟩

theorem does_transmit (frame : Frame) (hasWriter : ground.hasWriter = true)
    (gate : ground.gate = {}) :
    (transmit setup frame).Does setup ground (Deed.outputs setup ground.keysDrawn (.sends frame))
      .success (ground.draw 1) := by
  have keyed : (Gate.sendFrame setup.config frame).Does setup ground
      ((frame.serialize (some (setup.maskKey ground.keysDrawn))).map .wrote) .success
      (ground.draw 1) := by
    refine Yields.quiet trivial (fun _ => rfl) fun key after leads => ?_
    obtain ⟨rfl, rfl⟩ := leads
    exact does_send setup.config _ hasWriter gate
  refine Does.bind keyed ?_
  rw [← List.append_nil (Deed.told setup _)]
  exact Does.bind (does_notify setup (.frameSent frame) (ground.draw 1)) (does_done _ _)

theorem does_shutdown (config : Config) (hasWriter : ground.hasWriter = true)
    (gate : ground.gate = {}) :
    (Gate.shutdown config).Does setup ground [] () { ground with hasWriter := false } := by
  cases ground
  subst hasWriter gate
  refine Yields.quiet trivial (fun _ => rfl) fun _ queued leads => ?_
  obtain rfl := leads
  refine Yields.quiet rfl (fun _ => rfl) fun entered inside leads => ?_
  obtain ⟨rfl, rfl⟩ := leads
  refine Yields.quiet trivial (fun _ => rfl) fun _ after leads => ?_
  obtain rfl := leads
  refine Yields.quiet trivial (fun _ => rfl) fun _ after leads => ?_
  obtain rfl := leads
  refine Yields.quiet trivial (fun _ => rfl) fun start after leads => ?_
  obtain rfl := leads
  refine Yields.quiet trivial (fun _ => rfl) fun result after leads => ?_
  obtain rfl := leads
  exact does_done _ _

theorem does_teardown (unclosed : ground.phase ≠ .closed) (hasWriter : ground.hasWriter = true)
    (gate : ground.gate = {}) :
    (teardown setup).Does setup ground (Deed.told setup .closed) () ground.closed := by
  refine Yields.perform trivial (fun _ => rfl) fun before after leads => ?_
  obtain ⟨rfl, rfl⟩ := leads
  rw [if_neg unclosed]
  refine Yields.perform trivial (fun _ => rfl) fun _ after leads => ?_
  obtain rfl := leads
  refine Yields.perform trivial (fun _ => rfl) fun attached after leads => ?_
  obtain rfl := leads
  have released : (Gate.shutdown setup.config >>= fun _ => perform .announceClosed >>= fun _ =>
      notify setup .closed).Does setup
        { ground with phase := .closed, isCancelled := true } (Deed.told setup .closed) ()
        ground.closed := by
    refine Does.unnoticed (does_shutdown setup.config hasWriter gate) ?_
    refine Yields.perform trivial (fun _ => rfl) fun _ after leads => ?_
    obtain rfl := leads
    exact does_notify setup .closed ground.closed
  cases attached with
  | none => exact released
  | some scheduler =>
      refine Yields.perform trivial (fun _ => rfl) fun _ after leads => ?_
      obtain rfl := leads
      exact released

theorem does_send_close_once (frame : Frame) (unclaimed : ground.closeClaimed = false)
    (hasWriter : ground.hasWriter = true) (gate : ground.gate = {}) :
    (sendCloseOnce setup frame).Does setup ground
      (Deed.outputs setup ground.keysDrawn (.sends frame)) .success
      { ground.draw 1 with closeClaimed := true } := by
  refine Yields.perform trivial (fun _ => rfl) fun isFirst after leads => ?_
  obtain ⟨rfl, rfl⟩ := leads
  rw [unclaimed]
  have sent : (transmit setup frame).Does setup { ground with closeClaimed := true } _ _ _ :=
    does_transmit frame hasWriter gate
  exact sent

/-- What both ends of a session have in common: a Close frame, unless somebody else is
about to send one, and the teardown. -/
def part (setup : Setup) (frame : Frame) : Script Unit := do
  let isOwner ← perform (.movePhase .opened .closing)
  if isOwner then
    let _ ← sendCloseOnce setup frame
  teardown setup

theorem fail_eq (setup : Setup) (code : UInt16) (reason : String) :
    fail setup code reason = part setup (.close (some code) reason) := rfl

theorem handle_peer_close_eq (setup : Setup) (content : Option CloseFrame) :
    handlePeerClose setup content =
      (perform (.recordPeerClose content) >>= fun _ =>
        part setup (.close (content.map fun close => close.code.number) "")) := rfl

theorem does_part (idle : ground.IsIdle) (frame : Frame) :
    (part setup frame).Does setup ground
      (setup.outputs ground.keysDrawn [.sends frame, .tells .closed]) ()
      { (ground.draw 1).closed with closeClaimed := true } := by
  refine Yields.perform trivial (fun _ => rfl) fun isOwner moved leads => ?_
  obtain ⟨rfl, rfl⟩ := leads
  rw [idle.opened]
  refine Does.bind (does_send_close_once frame idle.unclaimed idle.hasWriter idle.gate) ?_
  rw [Setup.outputs, Setup.outputs, List.append_nil]
  exact does_teardown nofun idle.hasWriter idle.gate

theorem does_fail (idle : ground.IsIdle) {failure : Error} {fault : Fault}
    (code : fault.code = failure.closeCode) :
    (fail setup failure.closeCode "protocol error").Does setup ground
      (setup.outputs ground.keysDrawn (Finale.fault fault).deeds) () (ground.after (.fault fault)) := by
  rw [fail_eq, ← code]
  exact does_part idle _

theorem does_protocol_failure (idle : ground.IsIdle) {failure : Error} {fault : Fault}
    (code : fault.code = failure.closeCode) :
    (protocolFailure setup failure).Does setup ground
      (setup.outputs ground.keysDrawn (Finale.fault fault).deeds) none
      (ground.after (.fault fault)) :=
  (does_fail idle code).returns rfl

theorem does_peer_close (idle : ground.IsIdle) (content : Option CloseFrame) :
    (notify setup (.close content) >>= fun _ => handlePeerClose setup content >>= fun _ =>
      (pure none : Script (Option Assembler))).Does setup ground
      (setup.outputs ground.keysDrawn (Finale.close content).deeds) none
      (ground.after (.close content)) := by
  have answered : (handlePeerClose setup content).Does setup ground
      (setup.outputs ground.keysDrawn [.sends (Finale.close content).answer, .tells .closed]) ()
      (ground.after (.close content)) := by
    rw [handle_peer_close_eq]
    refine Yields.perform trivial (fun _ => rfl) fun _ recorded leads => ?_
    obtain rfl := leads
    have still : Ground.IsIdle { ground with peerClose := content } :=
      ⟨idle.opened, idle.live, idle.unclaimed, idle.hasWriter, idle.gate⟩
    exact does_part still _
  exact Does.bind (does_notify setup (.close content) ground) (answered.returns rfl)

theorem does_answer_ping (idle : ground.IsIdle) (payload : Bytes) (assembler : Assembler) :
    (answerPing setup payload assembler).Does setup ground
      (setup.outputs ground.keysDrawn [.tells (.ping payload), .sends (.pong payload)])
      (some assembler) (ground.draw 1) := by
  refine Does.bind (does_notify setup (.ping payload) ground) ?_
  refine Does.unnoticed (does_is_open idle) ?_
  rw [Setup.outputs, Setup.outputs, List.append_nil]
  exact (does_transmit (.pong payload) idle.hasWriter idle.gate).returns rfl

theorem does_skip (tolerant : setup.config.closeOnViolation = false) (opcode : Byte) (ground : Ground) :
    (skipUnexpected setup opcode).Does setup ground
      (setup.outputs ground.keysDrawn [.tells (.unexpected opcode)]) () ground := by
  rw [Setup.outputs, Setup.outputs, List.append_nil]
  refine (does_notify setup (.unexpected opcode) ground).returns ?_
  rw [tolerant]
  rfl

theorem does_deliver (ground : Ground) {draft : Draft} (assembler : Assembler)
    (sound : draft.isText = true → Utf8.isValid draft.content = true) :
    (deliver setup draft.message assembler).Does setup ground
      (setup.outputs ground.keysDrawn (draft.event?.toList.map .tells)) (some assembler) ground := by
  have told : ∀ event, draft.event? = some event →
      setup.outputs ground.keysDrawn (draft.event?.toList.map .tells) = Deed.told setup event := by
    intro event same
    rw [same]
    exact List.append_nil _
  cases kind : draft.isText with
  | false =>
      have event : draft.event? = some (.binary draft.content) := by rw [Draft.event?, kind]; rfl
      have opcode : draft.message.opcode = .binary := by rw [Draft.message, Draft.opcode, kind]; rfl
      rw [told _ event, deliver, opcode]
      exact (does_notify setup (.binary draft.content) ground).returns rfl
  | true =>
      obtain ⟨text, decoded⟩ := Option.isSome_iff_exists.mp (sound kind)
      have event : draft.event? = some (.text text) := by rw [Draft.event?, kind, decoded]; rfl
      have opcode : draft.message.opcode = .text := by rw [Draft.message, Draft.opcode, kind]; rfl
      have content : draft.message.text = .ok text := by
        rw [Message.text, Draft.message, decoded]
      rw [told _ event, deliver, opcode, content]
      exact (does_notify setup (.text text) ground).returns rfl

section

variable {limits : Limits} {begun : Option Draft} {frame : Frame}

theorem dispatch_data (setup : Setup) (assembler : Assembler)
    (isData : frame.opcode.isControl = false) (kept : frame.validate = .ok ()) :
    dispatch setup assembler frame =
      match assembler.push frame with
      | (.error failure, _) => protocolFailure setup failure
      | (.ok none, next) => pure (some next)
      | (.ok (some message), next) => deliver setup message next := by
  rw [dispatch, kept]
  cases opcode : frame.opcode <;> rw [opcode] at isData <;> first | rfl | cases isData

theorem does_dispatch_data (setup : Setup) (idle : ground.IsIdle) (limits : Limits) (begun : Option Draft)
    (isData : frame.opcode.isControl = false) (kept : frame.validate = .ok ()) :
    match Fault.first (frame.messageChecks limits begun) with
    | some fault =>
        (dispatch setup (.holding limits begun) frame).Does setup ground
          (setup.outputs ground.keysDrawn (Finale.fault fault).deeds) none
          (ground.after (.fault fault))
    | none =>
        (dispatch setup (.holding limits begun) frame).Does setup ground
          (setup.outputs ground.keysDrawn
            (if frame.fin then (frame.draft begun).event?.toList.map .tells else []))
          (some (.holding limits (if frame.fin then none else some (frame.draft begun)))) ground := by
  obtain ⟨explains, taken⟩ := Assembler.push_answers limits begun isData
  rw [dispatch_data setup _ isData kept]
  cases found : Fault.first (frame.messageChecks limits begun) with
  | some fault =>
      rw [found] at explains
      cases pushed : (Assembler.holding limits begun).push frame with
      | mk answer next =>
          rw [pushed] at explains
          cases answer with
          | error failure =>
              obtain ⟨_, same, code⟩ := explains
              cases same
              exact does_protocol_failure idle code
          | ok message => cases explains
  | none =>
      dsimp only
      rw [taken found]
      cases fin : frame.fin with
      | false => exact does_done _ _
      | true => exact does_deliver ground _ (Frame.valid_of_passed found fin)

theorem does_dispatch (setup : Setup) (idle : ground.IsIdle) (limits : Limits)
    (begun : Option Draft) (frame : Frame) :
    match frame.ending? limits begun with
    | some ending =>
        (dispatch setup (.holding limits begun) frame).Does setup ground
          (setup.outputs ground.keysDrawn ending.deeds) none (ground.after ending)
    | none =>
        (dispatch setup (.holding limits begun) frame).Does setup ground
          (setup.outputs ground.keysDrawn (frame.deeds begun))
          (some (.holding limits (frame.remains begun)))
          (ground.draw (keysOf (frame.deeds begun))) := by
  have rules := frame.explains_validate
  cases checked : frame.validate with
  | error failure =>
      rw [checked] at rules
      obtain ⟨fault, broken, code⟩ := rules
      rw [Frame.ending_of_broken broken, dispatch, checked]
      exact does_protocol_failure idle code
  | ok _ =>
      rw [checked] at rules
      cases control : frame.opcode.isControl with
      | false =>
          have data := does_dispatch_data setup idle limits begun control checked
          rw [Frame.ending_of_data rules control]
          cases found : Fault.first (frame.messageChecks limits begun) with
          | some fault =>
              rw [found] at data
              exact data
          | none =>
              rw [found] at data
              have keys : keysOf (frame.deeds begun) = 0 := by
                rw [Frame.deeds_of_data begun control]
                cases frame.fin <;> simp [keysOf, Deed.keys, Function.comp_def]
              rw [keys, Frame.deeds_of_data begun control, Frame.remains_of_data begun control]
              exact data
      | true =>
          have remains := Frame.remains_of_control begun control
          cases opcode : frame.opcode with
          | ping =>
              rw [Frame.ending_of_other rules (.inl opcode), dispatch, checked, remains, Frame.deeds, opcode]
              exact does_answer_ping idle frame.payload _
          | pong =>
              rw [Frame.ending_of_other rules (.inr opcode), dispatch, checked, remains, Frame.deeds, opcode]
              rw [Setup.outputs, Setup.outputs, List.append_nil]
              exact (does_notify setup (.pong frame.payload) ground).returns rfl
          | close =>
              obtain ⟨explains, content⟩ := frame.explains_close opcode
              rw [Frame.ending_of_close rules opcode, dispatch, checked]
              simp only [opcode]
              cases read : frame.closeFrame with
              | error failure =>
                  rw [read] at explains
                  obtain ⟨fault, found, code⟩ := explains
                  rw [found]
                  exact does_protocol_failure idle code
              | ok close =>
                  rw [read] at explains
                  have passed : Fault.first frame.closeChecks = none := explains
                  rw [passed, content close read]
                  exact does_peer_close idle frame.farewell
          | _ => rw [opcode] at control; cases control

end

end Connection

end WebSocket
