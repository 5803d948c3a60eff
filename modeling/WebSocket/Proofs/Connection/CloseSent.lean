import WebSocket.Proofs.Connection.CloseOnce
import WebSocket.Proofs.Gate.Accounts

/-!
Whether the Close frame of a session gets onto the wire. The connection is closing
before its Close frame is in the gate's line, so a peer's Close that is handled in
between ends the connection, and takes the writer, in front of the frame.
-/

namespace WebSocket

namespace Passage

open Script Connection

variable {setup : Setup} {actor : Nat} {stand : Option Passage}

def ofSession : Conduct (Option Passage) := conduct fun _ _ _ => True

theorem away_after_aside {action : Action} (isAside : action.isAside = true) (away : IsAway stand) :
    ofSession.permits actor stand action ∧ ∀ reply, IsAway (ofSession.after stand action reply) := by
  have notQueue : ∀ content, action ≠ .queueForGate content := by
    rintro content rfl
    cases isAside
  have outside : isOutside action = true := by
    cases action <;> first | rfl | cases isAside
  refine ⟨.inl ⟨away, outside, trivial⟩, fun reply => ?_⟩
  rw [ofSession, conduct_after_away away notQueue]
  exact away

theorem follows_outside {Result : Type} {action : Action} {next : action.Reply → Script Result}
    {ends : Result → Option Passage → Prop} (outside : isOutside action = true)
    (notQueue : ∀ content, action ≠ .queueForGate content) (away : IsAway stand)
    (rest : ∀ reply, (next reply).Follows ofSession actor ends stand) :
    (Script.act action next).Follows ofSession actor ends stand := by
  refine ⟨.inl ⟨away, outside, trivial⟩, fun reply => ?_⟩
  rw [ofSession, conduct_after_away away notQueue]
  exact rest reply

theorem follows_notify (event : Event) (away : IsAway stand) :
    (notify setup event).Follows ofSession actor (fun _ after => IsAway after) stand := by
  unfold notify
  induction List.range setup.observers.length with
  | nil => exact away
  | cons index rest induction => exact follows_outside rfl nofun away fun _ => induction

theorem away_of_sent {content : Bytes} {status : SendStatus} (sent : IsSent content status stand) :
    IsAway stand := by
  obtain ⟨written, rfl, -⟩ := sent
  exact away_of_gone rfl

theorem follows_transmit (frame : Frame) (away : IsAway stand) :
    (transmit setup frame).Follows ofSession actor (fun _ after => IsAway after) stand := by
  have sends : (Gate.sendFrame setup.config frame).Follows ofSession actor
      (fun _ after => IsAway after) stand := by
    refine follows_outside rfl nofun away fun key => ?_
    have nonempty : frame.serialize (some key) ≠ [] := frame.serialize_nonempty (some key)
    exact (follows_send setup.config nonempty away trivial).mono fun _ _ sent => away_of_sent sent
  refine sends.bind fun status after away => ?_
  split
  · exact (follows_notify (.frameSent frame) away).bind fun _ _ away => away
  · exact away

theorem follows_teardown (away : IsAway stand) :
    (teardown setup).Follows ofSession actor (fun _ after => IsAway after) stand := by
  have shuts : ∀ {stand}, IsAway stand →
      ((Gate.shutdown setup.config).bind fun _ => act .announceClosed fun _ =>
        notify setup .closed).Follows ofSession actor (fun _ after => IsAway after) stand := by
    intro stand away
    refine (follows_shutdown setup.config away trivial fun _ _ _ => trivial).bind ?_
    rintro _ _ ⟨status, rfl⟩
    have gone : IsAway (some ⟨[], [], .gone, status⟩) := away_of_gone rfl
    exact follows_outside rfl nofun gone fun _ => follows_notify .closed gone
  refine follows_outside rfl nofun away fun phase => ?_
  change (if phase = .closed then _ else _ : Script Unit).Follows _ _ _ _
  split
  · exact away
  · refine follows_outside rfl nofun away fun _ => follows_outside rfl nofun away fun attached => ?_
    cases attached with
    | none => exact shuts away
    | some scheduler => exact follows_outside rfl nofun away fun _ => shuts away

theorem after_move (source target : Phase) (isMoved : Bool) (away : IsAway stand) :
    ofSession.after stand (.movePhase source target) isMoved = stand := by
  have notQueue : ∀ content, Action.movePhase source target ≠ .queueForGate content := fun _ => nofun
  exact conduct_after_away away notQueue isMoved

theorem suits (setup : Setup) : ofSession.Suits setup IsAway where
  start := is_away_none
  aside := away_after_aside
  opens away := ⟨.inl ⟨away, rfl, trivial⟩, fun isMoved => (after_move _ _ isMoved away).symm ▸ away⟩
  sends _ away := follows_transmit _ away
  claims away := ⟨.inl ⟨away, rfl, trivial⟩, (after_move _ _ false away).symm ▸ away⟩
  closes code reason away := by
    rw [after_move _ _ true away]
    refine follows_outside rfl nofun away fun isFirst => ?_
    cases isFirst with
    | true => exact follows_transmit _ away
    | false => exact away
  tearsDown := follows_teardown

end Passage

namespace Duty

variable {actor : Nat} {duty : Duty} {action : Action} {reply : action.Reply}

theorem owner_before (permitted : conduct.permits actor duty action)
    (owns : conduct.after duty action reply = owner) :
    duty = owner ∨ Happening.IsMove ⟨actor, action, some reply⟩ := by
  rcases permitted with permitted | ⟨-, rfl⟩
  · rw [after_of_permits permitted] at owns
    cases action with
    | readPhase => cases reply <;> cases owns
    | movePhase source target =>
        obtain ⟨-, rfl, rfl⟩ := permitted
        cases reply with
        | true => exact .inr ⟨actor, rfl⟩
        | false => exact .inl owns
    | claimClose => exact .inl permitted
    | queueForGate content => cases owns
    | enterGate =>
        obtain ⟨content, rfl⟩ := permitted
        cases owns
    | leaveGate => cases owns
    | _ => exact .inl owns
  · exact .inl owns

theorem holds_after (permitted : conduct.permits actor duty action) (holds : duty.HoldsClose)
    (first : ⟨actor, action, some reply⟩ ≠ (⟨actor, .claimClose, some false⟩ : Happening)) :
    (conduct.after duty action reply).HoldsClose ∨
      Happening.IsHandover ⟨actor, action, some reply⟩ := by
  have busy : ¬duty.IsIdle := by
    cases duty <;> first | exact id | exact holds.elim
  rcases permitted with permitted | ⟨idle, -⟩
  · rw [after_of_permits permitted]
    cases action with
    | readPhase => exact absurd permitted busy
    | movePhase => exact absurd permitted.1 busy
    | claimClose =>
        cases reply with
        | true => exact .inl trivial
        | false => exact absurd rfl first
    | queueForGate content =>
        cases duty with
        | claimant => exact .inr ⟨actor, content, permitted, rfl⟩
        | owner => exact permitted.elim
        | _ => exact holds.elim
    | enterGate =>
        obtain ⟨content, rfl⟩ := permitted
        exact holds.elim
    | leaveGate =>
        obtain ⟨content, rfl⟩ := permitted
        exact holds.elim
    | _ => exact .inl holds
  · exact absurd idle busy

theorem not_nothing_of_holds (holds : duty.HoldsClose) : ¬duty.mayQueue [] := by
  cases duty with
  | owner => exact id
  | claimant => exact not_closing_nil
  | _ => exact holds.elim

end Duty

/-- Whoever has moved the connection to closing holds the close until its Close frame
is in line. The first claim is its own. -/
structure Owed (history : History) (hub : Hub) : Prop where
  claimed : hub.closeClaimed = true → (∃ happening ∈ history, happening.IsMove) ∧
    ∀ actor, history.stand Duty.conduct actor ≠ .owner
  handed : ∀ actor, ⟨actor, .movePhase .opened .closing, some true⟩ ∈ history →
    (history.stand Duty.conduct actor).HoldsClose ∨
      ∃ content, IsClosing content ∧ ⟨actor, .queueForGate content, some ()⟩ ∈ history

namespace Owed

variable {start hub : Hub} {history : History} {setup : Setup} {actor : Nat} {action : Action}
variable {effect : Effect action.Reply}

theorem claim_of_effect (member : effect ∈ action.effects setup actor hub) :
    effect.hub.closeClaimed = hub.closeClaimed ∨ action = .claimClose := by
  cases plain : action.isPlain with
  | true => exact .inl (Action.agrees_of_plain plain member).closeClaimed
  | false =>
      cases action with
      | claimClose => exact .inr rfl
      | movePhase source target =>
          simp only [Action.effects] at member
          split at member <;>
            · obtain rfl := List.mem_singleton.mp member
              exact .inl rfl
      | enterGate =>
          simp only [Action.effects] at member
          split at member
          · obtain rfl := List.mem_singleton.mp member
            exact .inl rfl
          · cases member
      | readPhase | closePhase | queueForGate content | leaveGate =>
          obtain rfl := List.mem_singleton.mp member
          exact .inl rfl
      | _ => cases plain

theorem unmoved_of_move (mandated : Mandated start history hub)
    (member : effect ∈ action.effects setup actor hub)
    (isMove : Happening.IsMove ⟨actor, action, effect.reply⟩) :
    ∀ happening ∈ history, ¬happening.IsMove := by
  obtain ⟨mover, same⟩ := isMove
  obtain ⟨next, reply, spawned⟩ := effect
  cases same
  simp only [Action.effects] at member
  split at member
  · rename_i there
    exact mandated.early (.inr there)
  · cases List.mem_singleton.mp member

theorem claimed_step (owed : Owed history hub) (mandated : Mandated start history hub)
    (permitted : Duty.conduct.permits actor (history.stand Duty.conduct actor) action)
    (member : effect ∈ action.effects setup actor hub) (claimed : effect.hub.closeClaimed = true) :
    (∃ happening ∈ history, happening.IsMove) ∧
      ∀ other, History.stand (history ++ [⟨actor, action, effect.reply⟩]) Duty.conduct other ≠ .owner := by
  by_cases claims : action = .claimClose
  · -- the owner claims, and there is no other owner
    subst claims
    obtain rfl := List.mem_singleton.mp member
    have owner : history.stand Duty.conduct actor = .owner := Duty.owner_of_permits permitted
    have moved := mandated.mover actor (owner.symm ▸ trivial)
    refine ⟨⟨_, moved, actor, rfl⟩, fun other owns => ?_⟩
    by_cases own : actor = other
    · subst own
      rw [History.stand_own] at owns
      change (if !hub.closeClaimed then Duty.claimant else .free) = .owner at owns
      split at owns <;> cases owns
    · rw [History.stand_other own] at owns
      exact own (mandated.single _ _ moved (mandated.mover other (owns.symm ▸ trivial)))
  · have before : hub.closeClaimed = true :=
      ((claim_of_effect member).resolve_right claims).symm.trans claimed
    obtain ⟨⟨earlier, found, isMove⟩, none⟩ := owed.claimed before
    refine ⟨⟨earlier, found, isMove⟩, fun other owns => ?_⟩
    by_cases own : actor = other
    · subst own
      cases told : effect.reply with
      | none =>
          rw [told, History.stand_waiting] at owns
          exact none actor owns
      | some reply =>
          rw [told, History.stand_own] at owns
          refine none actor ((Duty.owner_before permitted owns).resolve_right fun again => ?_)
          exact unmoved_of_move mandated member (told.symm ▸ again) _ found isMove
    · rw [History.stand_other own] at owns
      exact none other owns

theorem handed_step (owed : Owed history hub)
    (permitted : Duty.conduct.permits actor (history.stand Duty.conduct actor) action)
    (member : effect ∈ action.effects setup actor hub) {other : Nat}
    (moved : ⟨other, .movePhase .opened .closing, some true⟩ ∈
      history ++ [⟨actor, action, effect.reply⟩]) :
    (History.stand (history ++ [⟨actor, action, effect.reply⟩]) Duty.conduct other).HoldsClose ∨
      ∃ content, IsClosing content ∧
        ⟨other, .queueForGate content, some ()⟩ ∈ history ++ [⟨actor, action, effect.reply⟩] := by
  rcases List.mem_append.mp moved with before | newest
  · rcases owed.handed other before with holds | ⟨content, closing, found⟩
    · by_cases own : actor = other
      · subst own
        cases told : effect.reply with
        | none =>
            rw [History.stand_waiting]
            exact .inl holds
        | some reply =>
            have first : (⟨actor, action, some reply⟩ : Happening) ≠ ⟨actor, .claimClose, some false⟩ := by
              intro same
              cases same
              obtain rfl := List.mem_singleton.mp member
              have claimed : hub.closeClaimed = true := by
                simpa [Hub.answer] using told
              exact (owed.claimed claimed).2 actor (Duty.owner_of_permits permitted)
            rw [History.stand_own]
            refine (Duty.holds_after permitted holds first).imp_right ?_
            rintro ⟨index, content, closing, same⟩
            cases same
            exact ⟨content, closing, List.mem_append_right _ List.mem_cons_self⟩
      · rw [History.stand_other own]
        exact .inl holds
    · exact .inr ⟨content, closing, List.mem_append_left _ found⟩
  · have same := List.mem_singleton.mp newest
    rw [← same, History.stand_own]
    exact .inl trivial

theorem first (unclaimed : hub.closeClaimed = false) : Owed [] hub := by
  refine ⟨fun claimed => ?_, fun _ absent => absurd absent List.not_mem_nil⟩
  rw [unclaimed] at claimed
  cases claimed

theorem drift {next : Hub} (owed : Owed history hub) (drifts : hub.Drift next) :
    Owed history next := by
  cases drifts <;> exact ⟨owed.claimed, owed.handed⟩

theorem step (owed : Owed history hub) (mandated : Mandated start history hub)
    (permitted : Duty.conduct.permits actor (history.stand Duty.conduct actor) action)
    (member : effect ∈ action.effects setup actor hub) :
    Owed (history ++ [⟨actor, action, effect.reply⟩]) effect.hub := by
  refine ⟨fun claimed => ?_, fun other moved => owed.handed_step permitted member moved⟩
  obtain ⟨⟨earlier, found, isMove⟩, none⟩ := owed.claimed_step mandated permitted member claimed
  exact ⟨⟨earlier, List.mem_append_left _ found, isMove⟩, none⟩

end Owed

namespace World

open Passage

variable {start world : World} {history : History}

theorem owed_of_run (empty : start.actors = []) (unclaimed : start.hub.closeClaimed = false)
    (run : start.RunIn session history world) : Owed history world.hub := by
  have both : Mandated start.hub history world.hub ∧ Owed history world.hub :=
    run.invariant (fun history hub => Mandated start.hub history hub ∧ Owed history hub)
      (session_respects_duty start.setup) (obeys_of_empty empty _)
      ⟨Mandated.first start.hub, Owed.first unclaimed⟩
      (fun both drifts => ⟨both.1.drift drifts, both.2.drift drifts⟩)
      fun both permitted member => ⟨both.1.step permitted member, both.2.step both.1 permitted member⟩
  exact both.2

theorem booked_of_session (empty : start.actors = []) (gate : start.hub.gate = {})
    (run : start.RunIn session history world) :
    ∃ ledger, Booked (fun _ _ _ => True) history world.hub ledger ∧
      Account start.hub.stream.written history world.hub ledger :=
  run.booked (session_respects (suits start.setup)) (obeys_of_empty empty _) gate fun _ _ drifts => drifts

theorem obeys_in_session (empty : start.actors = []) (run : start.RunIn session history world) :
    Obeys ofSession (fun _ stand => IsAway stand) history world :=
  run.obeys (session_respects (suits start.setup)) (obeys_of_empty empty _)

theorem nothing_behind (empty : start.actors = []) (gate : start.hub.gate = {})
    (run : start.RunIn session history world) {shut visit : Visit} (shuts : shut ∈ history.visits)
    (member : visit ∈ history.visits) (takes : shut.passage.content = [])
    (behind : shut.place < visit.place) : visit.passage.written = [] := by
  obtain ⟨ledger, booked, account⟩ := booked_of_session empty gate run
  have pairs := account.behind
  rw [← booked.visits] at pairs
  rcases History.related_of_place pairs shuts member behind takes with waiting | ⟨-, -, nothing⟩
  · exact ((booked.sound visit (booked.visits ▸ member)).fresh waiting).1
  · exact nothing

theorem ahead_of_closed (empty : start.actors = []) (gate : start.hub.gate = {})
    (run : start.RunIn session history world) {shut visit : Visit} (shuts : shut ∈ history.visits)
    (member : visit ∈ history.visits) (takes : shut.passage.content = [])
    (closing : IsClosing visit.passage.content)
    (written : visit.passage.written = visit.passage.content) : visit.place < shut.place := by
  rcases Nat.lt_trichotomy visit.place shut.place with ahead | same | behind
  · exact ahead
  · have joined := History.joined_of_visit shuts
    rw [← same, History.joined_of_visit member] at joined
    have contents := Option.some.inj (congrArg (·.bind Happening.joined?) joined)
    change visit.passage.content = shut.passage.content at contents
    rw [contents, takes] at closing
    exact absurd closing not_closing_nil
  · rw [nothing_behind empty gate run shuts member takes behind] at written
    exact absurd (written ▸ closing) not_closing_nil

theorem visit_of_taking (empty : start.actors = []) (gate : start.hub.gate = {})
    (run : start.RunIn session history world)
    (fine : ∀ happening ∈ history, happening.isTrouble = false)
    {taken shutter : Nat} (takes : history[taken]? = some ⟨shutter, .takeWriter, some ()⟩) :
    ∃ before shut, start.RunIn session (history.take taken) before ∧
      shut ∈ History.visits (history.take taken) ∧ shut.actor = shutter ∧
      shut.passage.content = [] ∧
      ∀ visit ∈ History.visits (history.take taken), visit.place < shut.place →
        visit.passage.written = visit.passage.content := by
  obtain ⟨before, stood, next, -, earlier, here, doing, -⟩ := run.at_place takes
  have follows := (obeys_in_session empty earlier).follows _ stood here
  rw [doing] at follows
  rcases follows.1 with ⟨-, outside, -⟩ | ⟨passage, stands, permitted⟩
  · cases outside
  · obtain ⟨ledger, booked, account⟩ := booked_of_session empty gate earlier
    obtain ⟨shut, present, same, rfl⟩ := booked.present_of_permits stands permitted
    obtain ⟨inside, empty⟩ := permitted
    obtain ⟨old, held, line⟩ := ledger
    obtain rfl : held = some shut := by
      rcases List.mem_append.mp present with held | waits
      · exact Option.mem_toList.mp held
      · cases inside.symm.trans (booked.waiting shut waits)
    have visits := booked.visits.trans (Ledger.visits_held old line shut)
    have writer : before.hub.hasWriter = true := by
      have stage := booked.inside shut rfl
      cases there : before.hub.hasWriter with
      | true => rfl
      | false =>
          rw [there] at stage
          cases inside.symm.trans stage
    have success := account.smooth (fun happening member => fine happening (List.mem_of_mem_take member))
      writer
    refine ⟨before, shut, earlier, ?_, same, empty, fun visit member ahead => ?_⟩
    · rw [visits]
      exact List.mem_append_right _ List.mem_cons_self
    · have order := History.visits_in_order (history.take taken)
      rw [visits] at member order
      obtain ⟨-, behind, -⟩ := List.pairwise_append.mp order
      rcases List.mem_append.mp member with left | member
      · have inLedger : visit ∈ Ledger.visits ⟨old, some shut, line⟩ := by
          rw [Ledger.visits_held]
          exact List.mem_append_left _ left
        exact (booked.sound visit inLedger).whole (booked.past visit left) (success visit inLedger)
      · rcases List.mem_cons.mp member with rfl | waits
        · exact absurd ahead (Nat.lt_irrefl _)
        · exact absurd ahead (Nat.lt_asymm ((List.pairwise_cons.mp behind).1 visit waits))

end World

def History.HasClosed (history : History) : Prop :=
  ∃ visit ∈ history.visits, IsClosing visit.passage.content ∧
    visit.passage.written = visit.passage.content

/-- Once the connection is closing and the Close of the peer is there, the writer is
not taken before a Close frame has been written. -/
def History.ClosesOnWire (history : History) : Prop :=
  (∃ closer, ⟨closer, .movePhase .opened .closing, some true⟩ ∈ history) →
  (∃ receiver close, ⟨receiver, .recordPeerClose close, some ()⟩ ∈ history) →
  ∀ taken shutter, history[taken]? = some ⟨shutter, .takeWriter, some ()⟩ →
    History.HasClosed (history.take taken)

namespace World

variable {start world : World} {history : History}

/-- In a session in which no transfer fails and none comes too late, the wire carries
what the visits to the gate have written, and by the time the writer is taken a whole
Close frame is among it exactly if one was in line before the one who takes the
writer got there. Nothing is written for those who come behind. So the Close frame is
written whenever the one who has moved the connection to closing tears it down itself. -/
theorem close_written_iff (empty : start.actors = []) (gate : start.hub.gate = {})
    (unclaimed : start.hub.closeClaimed = false) (run : start.RunIn session history world)
    (fine : ∀ happening ∈ history, happening.isTrouble = false) :
    world.hub.stream.written =
      start.hub.stream.written ++ history.visits.flatMap (·.passage.written) ∧
    ∀ taken shutter, history[taken]? = some ⟨shutter, .takeWriter, some ()⟩ →
      ∃ line < taken, history[line]? = some ⟨shutter, .queueForGate [], some ()⟩ ∧
        (History.HasClosed (history.take taken) ↔ ∃ queue closer content, queue < line ∧
          history[queue]? = some ⟨closer, .queueForGate content, some ()⟩ ∧ IsClosing content) ∧
        (∀ visit ∈ history.visits, line < visit.place → visit.passage.written = []) ∧
        ∀ move < line, history[move]? = some ⟨shutter, .movePhase .opened .closing, some true⟩ →
          History.HasClosed (history.take taken) := by
  refine ⟨?_, fun taken shutter takes => ?_⟩
  · obtain ⟨ledger, booked, account⟩ := booked_of_session empty gate run
    rw [booked.visits]
    exact account.wire
  · obtain ⟨before, shut, earlier, member, rfl, nothing, whole⟩ :=
      visit_of_taking empty gate run fine takes
    have joined := History.joined_of_visit member
    rw [nothing] at joined
    obtain ⟨early, joined⟩ := History.of_take joined
    -- whoever got in line before has written all of its content
    have closed : ∀ {queue closer : Nat} {content : Bytes}, queue < shut.place →
        history[queue]? = some ⟨closer, .queueForGate content, some ()⟩ → IsClosing content →
          History.HasClosed (history.take taken) := by
      intro queue closer content ahead queues closing
      rw [← List.getElem?_take_of_lt (Nat.lt_trans ahead early)] at queues
      obtain ⟨visit, found, rfl, -, rfl⟩ := History.visit_of_joined queues
      exact ⟨visit, found, closing, whole visit found ahead⟩
    refine ⟨shut.place, early, joined, ⟨?_, ?_⟩, fun visit found behind => ?_, fun move ahead moves => ?_⟩
    · rintro ⟨visit, found, closing, written⟩
      obtain ⟨-, queues⟩ := History.of_take (History.joined_of_visit found)
      exact ⟨visit.place, visit.actor, visit.passage.content,
        ahead_of_closed empty gate earlier member found nothing closing written, queues, closing⟩
    · rintro ⟨queue, closer, content, ahead, queues, closing⟩
      exact closed ahead queues closing
    · obtain ⟨last, lastFound, same, -, takes⟩ := History.visit_of_joined joined
      exact nothing_behind empty gate run lastFound found takes (same.symm ▸ behind)
    · obtain ⟨permitted, -⟩ := mandated_at empty run joined
      obtain ⟨atLine, -, -, -, upToLine, -⟩ := run.at_place joined
      have moved := History.mem_take ahead moves
      rcases (owed_of_run empty unclaimed upToLine).handed shut.actor moved with holds | handed
      · exact absurd (Duty.may_queue_of_permits permitted) (Duty.not_nothing_of_holds holds)
      · obtain ⟨content, closing, found⟩ := handed
        obtain ⟨queue, before, queues⟩ := History.place_of_mem found
        exact closed before queues closing

/-- A handshake that has just succeeded, with the Close of the server behind the
answer, and a call that closes. -/
def bothClose : World :=
  (World.addActor { setup := {} }
    ⟨(Connection.proceed {} true [0x88, 0x02, 0x03, 0xE8]).bind fun _ => .done none, false⟩).begin
      (Call.script {} (.close .normal "")) false

theorem run_both_close (order : List Nat) :
    RunIn undisturbed { setup := {} } (play order ([], bothClose)).1 (play order ([], bothClose)).2 :=
  run_in_of_play order
    (.begin (.begin .refl (.opening true [0x88, 0x02, 0x03, 0xE8])) (.call (.close .normal "") 1))

/-- The call gets in line before the receive loop does. -/
def closeInTime : History × World :=
  play [0, 0, 1, 1, 1, 1, 1, 2, 2, 2, 2, 2, 2, 1, 1, 1, 1, 1, 1, 2, 2] ([], bothClose)

theorem close_written_iff_in_time :
    (∀ happening ∈ closeInTime.1, happening.isTrouble = false) ∧
      closeInTime.1[20]? = some ⟨2, .takeWriter, some ()⟩ ∧
      History.HasClosed (closeInTime.1.take 20) := by
  have fine : ∀ happening ∈ closeInTime.1, happening.isTrouble = false := by decide
  have takes : closeInTime.1[20]? = some ⟨2, .takeWriter, some ()⟩ := rfl
  have queues : closeInTime.1[6]? = some ⟨1, .queueForGate
      ((Frame.close (some 1000) "").serialize (some ⟨0, 0, 0, 0⟩)), some ()⟩ := rfl
  have run : RunIn session { setup := {} } closeInTime.1 closeInTime.2 :=
    session_of_undisturbed (run_both_close _)
  obtain ⟨line, -, joined, written, -⟩ := (close_written_iff rfl rfl rfl run fine).2 20 2 takes
  have behind : 6 < line := by
    by_contra early
    interval_cases line <;> cases joined
  exact ⟨fine, takes, written.mpr ⟨6, 1, _, behind, queues, some 1000, "", ⟨0, 0, 0, 0⟩, rfl⟩⟩

/-- The call moves the connection to closing, but the receive loop is faster at the gate. -/
def closeTooLate : History × World :=
  play [0, 0, 1, 1, 2, 2, 2, 2, 2, 2, 2, 2, 2, 2, 2, 2, 1, 1, 1, 1, 1, 1, 1, 1] ([], bothClose)

/-- Both sides have closed, nothing has failed and nobody has cancelled anything, but
the writer is shut down with no byte on the wire. -/
theorem not_closes_on_wire :
    ∃ (start world : World) (history : History), start.actors = [] ∧ start.hub.gate = {} ∧
      start.hub.closeClaimed = false ∧ start.RunIn undisturbed history world ∧
      (∀ happening ∈ history, happening.isTrouble = false) ∧ ¬history.ClosesOnWire ∧
      world.hub.hasWriter = false ∧ world.hub.stream.written = [] := by
  refine ⟨{ setup := {} }, closeTooLate.2, closeTooLate.1, rfl, rfl, rfl, run_both_close _, by decide,
    fun closes => ?_, rfl, rfl⟩
  have moves : closeTooLate.1[3]? = some ⟨1, .movePhase .opened .closing, some true⟩ := rfl
  have handles : closeTooLate.1[4]? = some ⟨2, .recordPeerClose (some ⟨.normal, ""⟩), some ()⟩ := rfl
  have takes : closeTooLate.1[11]? = some ⟨2, .takeWriter, some ()⟩ := rfl
  have nothing : ∀ visit ∈ History.visits (closeTooLate.1.take 11), visit.passage.content = [] := by
    decide
  obtain ⟨visit, member, closing, -⟩ := closes ⟨1, List.mem_of_getElem? moves⟩
    ⟨2, _, List.mem_of_getElem? handles⟩ 11 2 takes
  exact not_closing_nil (nothing visit member ▸ closing)

end World

end WebSocket
