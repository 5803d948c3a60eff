import WebSocket.Proofs.Connection.CloseReturns
import WebSocket.Proofs.Connection.Outgoing
import WebSocket.Proofs.Frame.Farewell

/-!
A Close frame that the application sends. The connection takes it apart and makes a new one
of its code and its reason, which is the same frame again. It is put in line by the one who
has claimed the Close frame of the session, and it is on the wire if the passage succeeds.
-/

namespace WebSocket

open Script Connection

inductive Parting where
  | fresh
  | claimed
  | queued
  deriving DecidableEq, Repr

namespace Parting

/-- Nothing but the frame gets in line, and it does once the Close frame is claimed. -/
def conduct (frame : Frame) : Conduct Parting where
  start := fresh
  permits _ parting
    | .queueForGate content =>
        content = [] ∨ parting = claimed ∧ ∃ key, content = frame.serialize (some key)
    | _ => True
  after parting
    | .claimClose, isFirst => if isFirst then claimed else parting
    | .queueForGate content, _ => if content = [] then parting else queued
    | _, _ => parting

end Parting

def Action.IsBeside : Action → Prop
  | claimClose => False
  | queueForGate content => content = []
  | _ => True

namespace Parting

variable {setup : Setup} {frame : Frame} {actor : Nat} {parting : Parting}

theorem follows_of_beside {Result : Type} {script : Script Result} (beside : script.All Action.IsBeside)
    (frame : Frame) (actor : Nat) (parting : Parting) :
    script.Follows (conduct frame) actor (fun _ after => after = parting) parting := by
  apply beside.follows
  · intro action beside
    cases action with
    | queueForGate content => exact .inl beside
    | _ => exact trivial
  · intro action beside reply
    cases action with
    | claimClose => exact beside.elim
    | queueForGate content =>
        obtain rfl : content = [] := beside
        rfl
    | _ => rfl

theorem beside_teardown : (teardown setup).All Action.IsBeside := by
  apply (teardown_tears setup).mono
  intro action tearing
  cases action <;> first | exact tearing | exact trivial

theorem follows_send (config : Config) {content : Bytes} (nonempty : content ≠ [])
    (carried : ∃ key, content = frame.serialize (some key)) :
    (Gate.send config content).Follows (conduct frame) actor (fun _ after => after = queued) claimed := by
  have passes : (act .enterGate fun hasWriter =>
      if hasWriter then do
        let entered ← perform .readClock
        let result ← Gate.transferAll config.slowWrite (entered + config.timeouts.write) content
        perform .leaveGate
        return result.status
      else do
        perform .leaveGate
        return .fatalError : Script SendStatus).All Action.IsBeside := by
    refine ⟨trivial, fun hasWriter => ?_⟩
    cases hasWriter with
    | false => exact ⟨trivial, fun _ => trivial⟩
    | true =>
        refine ⟨trivial, fun entered => ?_⟩
        have transfers : (Gate.transferAll config.slowWrite (entered + config.timeouts.write)
            content).All Action.IsBeside := by
          apply (Gate.transfer_all_transfers _ _ content).mono
          intro action transfer
          cases action <;> first | exact trivial | exact transfer.elim
        exact transfers.bind fun _ => ⟨trivial, fun _ => trivial⟩
  refine ⟨.inr ⟨rfl, carried⟩, fun _ => ?_⟩
  have joined : (conduct frame).after claimed (.queueForGate content) () = queued := if_neg nonempty
  rw [joined]
  exact follows_of_beside passes frame actor queued

theorem follows_send_close_once :
    (sendCloseOnce setup frame).Follows (conduct frame) actor (fun _ after => after ≠ claimed) fresh := by
  refine ⟨trivial, fun isFirst => ?_⟩
  cases isFirst with
  | false => exact nofun
  | true =>
      have sends : (Gate.sendFrame setup.config frame).Follows (conduct frame) actor
          (fun _ after => after = queued) claimed :=
        ⟨trivial, fun key => follows_send setup.config (frame.serialize_nonempty _) ⟨key, rfl⟩⟩
      apply sends.bind
      rintro status _ rfl
      split
      · apply (follows_of_beside (notify_tells setup fun _ => trivial) frame actor queued).bind
        rintro _ _ rfl
        exact nofun
      · exact nofun

theorem follows_begin_close (code : Option UInt16) (reason : String)
    (same : Frame.close code reason = frame) :
    (beginClose setup code reason).Follows (conduct frame) actor (fun _ after => after ≠ claimed) fresh := by
  refine ⟨trivial, fun isOwner => ?_⟩
  cases isOwner with
  | false => exact nofun
  | true =>
      subst same
      apply follows_send_close_once.bind
      intro status after unowing
      dsimp only
      split
      · apply (follows_of_beside beside_teardown _ actor after).bind
        rintro _ _ rfl
        exact unowing
      · exact ⟨trivial, fun _ => unowing⟩

/-- To send a Close frame that says something is to begin the closing with what it says. -/
theorem send_frame_eq {content : CloseFrame} (isClose : frame.opcode = .close)
    (valid : frame.validate = .ok ()) (read : frame.closeFrame = .ok (some content)) :
    sendFrame setup frame = act .readPhase fun phase =>
      if !phase.canSend then refuse
      else (beginClose setup (some content.code.number) content.reason).bind fun status =>
        .done (.ok status) := by
  unfold sendFrame
  rw [valid, read, isClose]
  rfl

theorem follows_send_frame {content : CloseFrame} (isClose : frame.opcode = .close)
    (valid : frame.validate = .ok ()) (read : frame.closeFrame = .ok (some content)) :
    (sendFrame setup frame).Follows (conduct { frame with mask := none }) actor
      (fun _ after => after ≠ claimed) fresh := by
  rw [send_frame_eq isClose valid read]
  refine ⟨trivial, fun phase => ?_⟩
  dsimp only
  split
  · exact ⟨trivial, fun _ => nofun⟩
  · exact (follows_begin_close _ _ (Frame.close_of_close_frame isClose valid read)).bind
      fun _ _ unowing => unowing

theorem follows_call {content : CloseFrame} (isClose : frame.opcode = .close)
    (valid : frame.validate = .ok ()) (read : frame.closeFrame = .ok (some content)) (id : Nat) :
    (((Call.send frame).script setup).bind fun result =>
      .act (.report id result) fun _ => .done (none : Option Task)).Follows
        (conduct { frame with mask := none }) actor (fun task after => task = none ∧ after ≠ claimed)
        fresh := by
  rw [Call.script, Script.bind_assoc]
  exact (follows_send_frame isClose valid read).bind
    fun _ _ unowing => ⟨trivial, fun _ => ⟨rfl, unowing⟩⟩

def StemsFrom (history : History) (actor : Nat) : Parting → Prop
  | fresh => ⟨actor, .claimClose, some true⟩ ∉ history
  | claimed => True
  | queued => ∃ content, content ≠ [] ∧ ⟨actor, .queueForGate content, some ()⟩ ∈ history

theorem StemsFrom.append {history : History} (stems : parting.StemsFrom history actor)
    {newest : Happening} (other : newest ≠ ⟨actor, .claimClose, some true⟩) :
    parting.StemsFrom (history ++ [newest]) actor := by
  cases parting with
  | fresh =>
      intro member
      rcases List.mem_append.mp member with earlier | last
      · exact stems earlier
      · exact other (List.mem_singleton.mp last).symm
  | claimed => exact trivial
  | queued =>
      obtain ⟨content, nonempty, joined⟩ := stems
      exact ⟨content, nonempty, List.mem_append_left _ joined⟩

theorem StemsFrom.after {history : History} (stems : parting.StemsFrom history actor)
    (action : Action) (reply : action.Reply) :
    ((conduct frame).after parting action reply).StemsFrom (history ++ [⟨actor, action, some reply⟩])
      actor := by
  cases action with
  | claimClose =>
      cases reply with
      | true => exact trivial
      | false => exact stems.append (by simp)
  | queueForGate content =>
      change StemsFrom _ _ (if content = [] then parting else queued)
      split
      · exact stems.append nofun
      · rename_i nonempty
        exact ⟨content, nonempty, List.mem_append_right history List.mem_cons_self⟩
  | _ => exact stems.append nofun

theorem stems_from (frame : Frame) (history : History) (actor : Nat) :
    (history.stand (conduct frame) actor).StemsFrom history actor := by
  refine History.stand_induction (motive := fun history => StemsFrom history actor) ?_ ?_ ?_ history
  · exact List.not_mem_nil
  · exact fun _ action reply stems => stems.after action reply
  · intro _ happening idle stems
    apply stems.append
    rintro rfl
    cases idle rfl

end Parting

namespace World

variable {start before world : World} {history later : History} {frame : Frame} {content : CloseFrame}

def callSend (world : World) (frame : Frame) : World :=
  world.begin ((Call.send frame).script world.setup) false

section

variable (isClose : frame.opcode = .close) (valid : frame.validate = .ok ())
  (read : frame.closeFrame = .ok (some content))
  (behind : (before.callSend frame).RunIn session later world)

include isClose valid read behind

theorem parting_of_run : ∃ rest, world.actors[before.actors.length]? = some ⟨rest, false⟩ ∧
    rest.Follows (Parting.conduct { frame with mask := none }) before.actors.length
      (fun task after => task = none ∧ after ≠ .claimed)
      (later.stand (Parting.conduct { frame with mask := none }) before.actors.length) := by
  have called : (before.callSend frame).actors[before.actors.length]? =
      some ⟨((Call.send frame).script before.setup).bind fun result =>
        .act (.report before.actors.length result) fun _ => .done none, false⟩ := by
    simp [callSend, World.begin, addActor]
  exact behind.follows_from called (Parting.follows_call isClose valid read _)
    fun task stand wrong => Option.some_ne_none task wrong.1

theorem queued_of_send {text : Bytes} {reply : Option Unit}
    (queued : ⟨before.actors.length, .queueForGate text, reply⟩ ∈ later) (nonempty : text ≠ []) :
    ∃ key, text = Frame.serialize { frame with mask := none } (some key) := by
  obtain ⟨place, found⟩ := List.mem_iff_getElem?.mp queued
  obtain ⟨moment, actor, next, effect, earlier, here, doing, -⟩ := behind.at_place found
  obtain ⟨rest, there, follows⟩ := parting_of_run isClose valid read earlier
  cases here.symm.trans there
  subst doing
  exact (follows.1.resolve_left nonempty).2

theorem sent_of_claimed (claimed : ⟨before.actors.length, .claimClose, some true⟩ ∈ later)
    (through : ∀ actor, world.actors[before.actors.length]? = some actor → actor.action? = none) :
    ∃ key, ⟨before.actors.length, .queueForGate (Frame.serialize { frame with mask := none } (some key)),
      some ()⟩ ∈ later := by
  obtain ⟨rest, here, follows⟩ := parting_of_run isClose valid read behind
  have stems := Parting.stems_from { frame with mask := none } later before.actors.length
  cases stand : later.stand (Parting.conduct { frame with mask := none }) before.actors.length with
  | fresh =>
      rw [stand] at stems
      exact absurd claimed stems
  | claimed =>
      have finished := through _ here
      cases rest with
      | done task =>
          rw [stand] at follows
          exact absurd rfl follows.2
      | act action next => cases finished
  | queued =>
      rw [stand] at stems
      obtain ⟨text, nonempty, joined⟩ := stems
      obtain ⟨key, rfl⟩ := queued_of_send isClose valid read behind joined nonempty
      exact ⟨key, joined⟩

theorem written_of_send (empty : start.actors = []) (gate : start.hub.gate = {})
    (run : start.RunIn session history before) {visit : Visit} (member : visit ∈ (history ++ later).visits)
    (own : visit.actor = before.actors.length) (nonempty : visit.passage.content ≠ []) :
    ∃ key, visit.passage.content = Frame.serialize { frame with mask := none } (some key) ∧
      visit.passage.written <+: visit.passage.content ∧
      (visit.passage.stage = .gone → visit.passage.status = .success →
        visit.passage.written = visit.passage.content) := by
  have whole : start.RunIn session (history ++ later) world :=
    RunIn.trans (.begin run (.call (.send frame) before.actors.length)) behind
  obtain ⟨ledger, booked, -⟩ := booked_of_session empty gate whole
  have sound := booked.sound visit (booked.visits ▸ member)
  have joined := List.mem_of_getElem? (History.joined_of_visit member)
  have newcomer : ⟨visit.actor, .queueForGate visit.passage.content, some ()⟩ ∈ later := by
    rcases List.mem_append.mp joined with earlier | since
    · have known := (obeys_in_session empty run).known _ earlier
      exact absurd own (Nat.ne_of_lt known)
    · exact since
  rw [own] at newcomer
  obtain ⟨key, same⟩ := queued_of_send isClose valid read behind newcomer nonempty
  exact ⟨key, same, sound.part, sound.whole⟩

end

/-- Every frame that is made of a code and a reason keeps to the rules and says this code with as
much of the reason as there is room for, up to the boundary that one comes to from there. Every
Close frame that says something is made again of what it says; when it is sent, it is the only
thing that gets in line, it does if the Close frame of the session is claimed for it, and the
wire carries it as far as it is written, which is all of it if the passage succeeds. -/
theorem close_content_travels :
    (∀ (number : UInt16) (reason : String),
      let kept := Utf8.cut Frame.maxReason reason
      (kept.toList <+: reason.toList ∧ (Utf8.encode kept).length ≤ 123 ∧
        ∀ front : String, front.toList <+: reason.toList → (Utf8.encode front).length ≤ 123 →
          front.toList <+: kept.toList) ∧
      (∃ offset, Utf8.stepBack (Utf8.encode reason) (min (Utf8.encode reason).length 123) = some offset ∧
        Utf8.encode kept = (Utf8.encode reason).take offset) ∧
      (Frame.close (some number) reason).payload = BigEndian.encode 2 number.toNat ++ Utf8.encode kept ∧
      (Frame.close (some number) reason).validate = .ok () ∧
      (Frame.close (some number) reason).closeReason = .ok kept ∧
      ((Frame.close (some number) reason).closeFrame = .ok (some ⟨.ofNumber number, kept⟩) ↔
        CloseCode.Sendable number.toNat) ∧
      (¬CloseCode.Sendable number.toNat → ∃ violation,
        (Frame.close (some number) reason).closeFrame = .error (.protocolViolation violation))) ∧
    ∀ (frame : Frame) (content : CloseFrame), frame.opcode = .close → frame.validate = .ok () →
      frame.closeFrame = .ok (some content) →
      (Frame.close (some content.code.number) content.reason).payload = frame.payload ∧
      ∀ (start before world : World) (history later : History), start.actors = [] →
        start.hub.gate = {} → start.RunIn session history before →
        (before.callSend frame).RunIn session later world →
        (∀ text reply, ⟨before.actors.length, .queueForGate text, reply⟩ ∈ later → text ≠ [] →
          ∃ key, text = Frame.serialize { frame with mask := none } (some key) ∧
            Frame.IsReadBack { frame with mask := none } key text) ∧
        (⟨before.actors.length, .claimClose, some true⟩ ∈ later →
          (∀ actor, world.actors[before.actors.length]? = some actor → actor.action? = none) →
          ∃ key, ⟨before.actors.length,
            .queueForGate (Frame.serialize { frame with mask := none } (some key)), some ()⟩ ∈ later) ∧
        ∀ visit ∈ (history ++ later).visits, visit.actor = before.actors.length →
          visit.passage.content ≠ [] →
          ∃ key, visit.passage.content = Frame.serialize { frame with mask := none } (some key) ∧
            visit.passage.written <+: visit.passage.content ∧
            (visit.passage.stage = .gone → visit.passage.status = .success →
              visit.passage.written = visit.passage.content) := by
  constructor
  · intro number reason kept
    have said := Frame.close_frame_of_close number reason
    have offset := Utf8.step_back_cut Frame.maxReason reason
    refine ⟨Utf8.longest_cut Frame.maxReason reason,
      ⟨_, offset, (Utf8.take_cut Frame.maxReason reason).symm⟩, Frame.close_payload number reason,
      Frame.close_valid number reason, Frame.close_reason_of_close number reason, ?_, ?_⟩
    · constructor
      · intro read
        by_contra barred
        rw [said, if_neg barred] at read
        cases read
      · intro sendable
        rw [said, if_pos sendable]
    · intro barred
      exact ⟨_, said.trans (if_neg barred)⟩
  · intro frame content isClose valid read
    have same := Frame.close_of_close_frame isClose valid read
    constructor
    · rw [same]
    · intro start before world history later empty gate run behind
      refine ⟨?_, sent_of_claimed isClose valid read behind, ?_⟩
      · intro text reply queued nonempty
        obtain ⟨key, rfl⟩ := queued_of_send isClose valid read behind queued nonempty
        exact ⟨key, rfl, Frame.read_back _ key⟩
      · intro visit member own nonempty
        exact written_of_send isClose valid read behind empty gate run member own nonempty

/-- The frame comes with a key of the application's own, which the connection replaces. -/
def keyedFarewell : Frame := { Frame.close (some 3000) "bye" with mask := some ⟨1, 2, 3, 4⟩ }

def keyedFarewellSent : History × World :=
  play [0, 0, 0, 0, 0, 0, 0, 0, 0, 0, 0, 0] ([], openWorld.callSend keyedFarewell)

theorem close_content_travels_of_keyed_farewell :
    keyedFarewell.validate = .ok () ∧ keyedFarewell.closeFrame = .ok (some ⟨.ofNumber 3000, "bye"⟩) ∧
      (Frame.close (some 3000) "bye").payload = keyedFarewell.payload ∧
      ⟨0, .claimClose, some true⟩ ∈ keyedFarewellSent.1 ∧
      (∃ key, ⟨0, .queueForGate (Frame.serialize { keyedFarewell with mask := none } (some key)), some ()⟩ ∈
        keyedFarewellSent.1) ∧
      ∃ visit ∈ keyedFarewellSent.1.visits, visit.actor = 0 ∧
        ∃ key, visit.passage.written = Frame.serialize { keyedFarewell with mask := none } (some key) := by
  have valid : keyedFarewell.validate = .ok () := by rfl
  have read : keyedFarewell.closeFrame = .ok (some ⟨.ofNumber 3000, "bye"⟩) := by rfl
  have run : (openWorld.callSend keyedFarewell).RunIn session keyedFarewellSent.1 keyedFarewellSent.2 :=
    run_in_of_play _ .refl
  obtain ⟨same, sent⟩ := close_content_travels.2 keyedFarewell _ rfl valid read
  obtain ⟨-, claimed, written⟩ := sent openWorld openWorld _ [] _ rfl rfl .refl run
  have claims : keyedFarewellSent.1[2]? = some ⟨0, .claimClose, some true⟩ := rfl
  have claim := List.mem_of_getElem? claims
  have through : ∀ actor, keyedFarewellSent.2.actors[0]? = some actor → actor.action? = none := by
    intro actor here
    have ended : keyedFarewellSent.2.actors[0]?.bind Actor.action? = none := rfl
    rwa [here] at ended
  obtain ⟨visit, visits, own, some, stage, status⟩ : ∃ visit, keyedFarewellSent.1.visits = [visit] ∧
      visit.actor = 0 ∧ visit.passage.content.isEmpty = false ∧ visit.passage.stage = .gone ∧
        visit.passage.status = .success :=
    ⟨_, rfl, rfl, rfl, rfl, rfl⟩
  have member : visit ∈ keyedFarewellSent.1.visits := visits ▸ List.mem_cons_self
  have nonempty : visit.passage.content ≠ [] := by
    intro empty
    rw [empty] at some
    cases some
  obtain ⟨key, carried, -, all⟩ := written visit member own nonempty
  exact ⟨valid, read, same, claim, claimed claim through,
    visit, member, own, key, (all stage status).trans carried⟩

end World

end WebSocket
