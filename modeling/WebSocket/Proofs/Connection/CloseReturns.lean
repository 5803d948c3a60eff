import WebSocket.Proofs.Connection.Teardown

/-!
What a call to close has seen when it returns. A call that waits returns when the
connection has been torn down. A call that finds the phase closed does not wait, and
whoever has closed it may still be on the way to the writer.
-/

namespace WebSocket

open Script Connection

inductive Finding where
  | nothing
  | saw (phase : Phase)
  | waited (phase : Phase)
  deriving DecidableEq, Repr

namespace Finding

/-- Whether a call to close has reason enough to return. -/
def IsEnough : Finding → Prop
  | nothing => False
  | saw phase => phase = .closed
  | waited _ => True

def conduct : Conduct Finding where
  start := nothing
  permits _ finding
    | .report _ (.closed (.ok _)) => finding.IsEnough
    | _ => True
  after finding
    | .readPhase, phase => saw phase
    | .awaitClosed none, _ =>
        match finding with
        | saw phase => waited phase
        | other => other
    | _, _ => finding

end Finding

def Action.IsBlind : Action → Prop
  | readPhase | awaitClosed _ | report .. => False
  | _ => True

namespace Script

variable {Result : Type} {script : Script Result}

theorem follows_of_blind (blind : script.All Action.IsBlind) (actor : Nat) (finding : Finding) :
    script.Follows Finding.conduct actor (fun _ after => after = finding) finding := by
  apply blind.follows
  · intro action blind
    cases action with
    | report => exact blind.elim
    | _ => exact trivial
  · intro action blind reply
    cases action with
    | readPhase | awaitClosed | report => exact blind.elim
    | _ => rfl

end Script

namespace Connection

variable {setup : Setup}

theorem blind_transmit (frame : Frame) : (transmit setup frame).All Action.IsBlind := by
  apply (transmit_sends setup frame).mono
  intro action sending
  cases action <;> first | exact trivial | exact sending.elim

theorem blind_teardown : (teardown setup).All Action.IsBlind := by
  apply (teardown_tears setup).mono
  intro action tearing
  cases action <;> first | exact trivial | exact tearing.elim

theorem blind_begin_close (code : Option UInt16) (reason : String) :
    (beginClose setup code reason).All Action.IsBlind := by
  have sends : (sendCloseOnce setup (.close code reason)).All Action.IsBlind := by
    refine ⟨trivial, fun isFirst => ?_⟩
    cases isFirst with
    | true => exact blind_transmit _
    | false => exact trivial
  refine ⟨trivial, fun isOwner => ?_⟩
  cases isOwner with
  | false => exact trivial
  | true =>
      apply sends.bind
      intro status
      dsimp only
      split
      · exact blind_teardown.bind fun _ => trivial
      · exact ⟨trivial, fun _ => trivial⟩

theorem close_follows (code : CloseCode) (reason : String) (actor : Nat) :
    (close setup code reason).Follows Finding.conduct actor
      (fun result finding => result = .ok () → finding.IsEnough) .nothing := by
  have waits : ∀ phase, (awaitClosed.bind fun _ => .done (.ok () : Except Error Unit)).Follows
      Finding.conduct actor (fun result finding => result = .ok () → finding.IsEnough) (.saw phase) :=
    fun _ => ⟨trivial, fun _ _ => trivial⟩
  unfold close
  split
  · exact nofun
  · refine ⟨trivial, fun phase => ?_⟩
    cases phase with
    | opened => exact (follows_of_blind (blind_begin_close _ _) actor _).bind fun _ _ same => same ▸ waits _
    | closing => exact waits _
    | handshaking => exact (follows_of_blind blind_teardown actor _).bind fun _ _ same => same ▸ waits _
    | closed => exact fun _ => rfl

end Connection

namespace Finding

def StemsFrom (history : History) (actor : Nat) : Finding → Prop
  | nothing => True
  | saw phase => ⟨actor, .readPhase, some phase⟩ ∈ history
  | waited phase =>
      ⟨actor, .readPhase, some phase⟩ ∈ history ∧
        ∃ reply, ⟨actor, .awaitClosed none, some reply⟩ ∈ history

theorem StemsFrom.append {history : History} {actor : Nat} {finding : Finding}
    (stems : finding.StemsFrom history actor) (newest : Happening) :
    finding.StemsFrom (history ++ [newest]) actor := by
  cases finding with
  | nothing => exact trivial
  | saw phase => exact List.mem_append_left _ stems
  | waited phase =>
      obtain ⟨saw, reply, waited⟩ := stems
      exact ⟨List.mem_append_left _ saw, reply, List.mem_append_left _ waited⟩

theorem StemsFrom.after {history : History} {actor : Nat} {finding : Finding}
    (stems : finding.StemsFrom history actor) (action : Action) (reply : action.Reply) :
    (conduct.after finding action reply).StemsFrom (history ++ [⟨actor, action, some reply⟩]) actor := by
  have newest : ⟨actor, action, some reply⟩ ∈ history ++ [⟨actor, action, some reply⟩] :=
    List.mem_append_right history List.mem_cons_self
  cases action with
  | readPhase => exact newest
  | awaitClosed deadline =>
      cases deadline with
      | some deadline => exact stems.append _
      | none =>
          cases finding with
          | saw phase => exact ⟨stems.append ⟨actor, .awaitClosed none, some reply⟩, reply, newest⟩
          | _ => exact stems.append _
  | _ => exact stems.append _

theorem stems_from (history : History) (actor : Nat) :
    (history.stand conduct actor).StemsFrom history actor := by
  refine History.stand_induction (motive := fun history => StemsFrom history actor) ?_ ?_ ?_ history
  · exact trivial
  · exact fun _ action reply stems => stems.after action reply
  · exact fun _ happening _ stems => stems.append happening

end Finding

/-- All is done that somebody who closes the connection may wait for. -/
structure TornDown (history : History) (hub : Hub) : Prop where
  announced : hub.closedAnnounced = true
  closed : hub.phase = .closed
  cancelled : hub.isCancelled = true
  gone : hub.hasWriter = false
  shutDown : ∃ winner, (winner, .shutsDown) ∈ history.marks

theorem Ending.announced_iff {count : Nat} {history : History} {hub : Hub}
    (ending : Ending count history hub) :
    hub.closedAnnounced = true ↔ ∃ winner, (winner, .announces) ∈ history.marks := by
  rcases ending with unreleased | ⟨winner, releasing⟩
  · simp [unreleased.announced, unreleased.unmarked]
  · rw [releasing.fits.announced, releasing.marks]
    cases history.stand (Release.conduct count) winner <;> simp [Release.isAnnounced, Release.marks]

theorem Ending.torn_down_iff {count : Nat} {history : History} {hub : Hub}
    (ending : Ending count history hub) :
    TornDown history hub ↔ hub.closedAnnounced = true := by
  refine ⟨TornDown.announced, fun announced => ?_⟩
  rcases ending with unreleased | ⟨winner, releasing⟩
  · rw [unreleased.announced] at announced
    cases announced
  · obtain ⟨closed, cancelled, gone⟩ := releasing.signals announced
    refine ⟨announced, closed, cancelled, gone, winner, ?_⟩
    rw [releasing.fits.announced] at announced
    rw [releasing.marks]
    cases stand : history.stand (Release.conduct count) winner with
    | announced told => simp [Release.marks]
    | _ =>
        rw [stand] at announced
        cases announced

theorem History.mem_marks_of_take {history : History} {place : Nat} {mark : Nat × Mark}
    (member : mark ∈ History.marks (history.take place)) : mark ∈ history.marks := by
  obtain ⟨happening, found, same⟩ := List.mem_filterMap.mp member
  exact List.mem_filterMap.mpr ⟨happening, List.mem_of_mem_take found, same⟩

namespace World

variable {start before world : World} {history later : History} {code : CloseCode} {reason : String}

/-- Somebody calls to close the connection. -/
def callClose (world : World) (code : CloseCode) (reason : String) : World :=
  world.begin ((Call.close code reason).script world.setup) false

/-- Who has waited for the end without a deadline has come to it. -/
theorem torn_down_of_awaited (unended : start.Unended) (run : start.RunIn session history world)
    {actor : Nat} {reply : Bool} (awaited : ⟨actor, .awaitClosed none, some reply⟩ ∈ history) :
    TornDown history world.hub := by
  obtain ⟨place, found⟩ := List.mem_iff_getElem?.mp awaited
  obtain ⟨moment, _, _, effect, earlier, _, _, member, _⟩ := run.at_place found
  have announced : moment.hub.closedAnnounced = true := by
    simp only [Action.effects, Option.any_none, Bool.false_eq_true, if_false, List.append_nil] at member
    split at member
    · assumption
    · cases member
  obtain ⟨winner, marked⟩ := (ending_of_run session_usual unended earlier).announced_iff.mp announced
  have ending := ending_of_run session_usual unended run
  exact ending.torn_down_iff.mpr (ending.announced_iff.mpr ⟨winner, History.mem_marks_of_take marked⟩)

theorem call_close_follows (setup : Setup) (code : CloseCode) (reason : String) (id actor : Nat) :
    (((Call.close code reason).script setup).bind fun result =>
      .act (.report id result) fun _ => .done (none : Option Task)).Follows Finding.conduct actor
        (fun task _ => task = none) .nothing := by
  have tells : ∀ (result : Except Error Unit) finding, (result = .ok () → finding.IsEnough) →
      (act (.report id (.closed result)) fun _ => .done (none : Option Task)).Follows Finding.conduct
        actor (fun task _ => task = none) finding := by
    intro result finding enough
    cases result with
    | error failure => exact ⟨trivial, fun _ => rfl⟩
    | ok _ => exact ⟨enough rfl, fun _ => rfl⟩
  rw [Call.script, Script.bind_assoc]
  exact (close_follows code reason actor).bind tells

theorem enough_of_report (behind : (before.callClose code reason).RunIn session later world)
    {place id : Nat} {reply : Option Unit}
    (returns : later[place]? = some ⟨before.actors.length, .report id (.closed (.ok ())), reply⟩) :
    (History.stand (later.take place) Finding.conduct before.actors.length).IsEnough := by
  obtain ⟨moment, actor, next, effect, earlier, here, doing, -⟩ := behind.at_place returns
  have called : (before.callClose code reason).actors[before.actors.length]? =
      some ⟨((Call.close code reason).script before.setup).bind fun result =>
        .act (.report before.actors.length result) fun _ => .done none, false⟩ := by
    simp [callClose, World.begin, addActor]
  obtain ⟨rest, found, kept⟩ :=
    earlier.follows_from called (call_close_follows _ code reason _ _) fun task _ =>
      Option.some_ne_none task
  cases here.symm.trans found
  subst doing
  exact kept.1

/-- A call to close that returns without an error has either found the phase closed, and
then it has waited for nothing, or it returns after the connection has been torn down. Once
somebody has closed the phase, the connection is torn down as soon as the end is announced. -/
theorem close_returns (unended : start.Unended) (run : start.RunIn session history before)
    (behind : (before.callClose code reason).RunIn session later world)
    (returns : ⟨before.actors.length, .report before.actors.length (.closed (.ok ())), some ()⟩ ∈ later) :
    (∃ seen, ⟨before.actors.length, .readPhase, some seen⟩ ∈ later ∧
      (seen ≠ .closed → TornDown (history ++ later) world.hub)) ∧
    world.hub.phase = .closed ∧
    (TornDown (history ++ later) world.hub ↔ world.hub.closedAnnounced = true) := by
  have whole : start.RunIn session (history ++ later) world :=
    RunIn.trans (.begin run (.call (.close code reason) before.actors.length)) behind
  have ending := ending_of_run session_usual unended whole
  obtain ⟨place, found⟩ := List.mem_iff_getElem?.mp returns
  have enough := enough_of_report behind found
  have stems := Finding.stems_from (later.take place) before.actors.length
  cases finding : History.stand (later.take place) Finding.conduct before.actors.length with
  | nothing =>
      rw [finding] at enough
      exact enough.elim
  | saw phase =>
      rw [finding] at enough stems
      obtain rfl : phase = .closed := enough
      have saw := List.mem_of_mem_take stems
      have closed : world.hub.phase = .closed := by
        have ascends := ascends_of_run session_usual unended.actors whole
        have sight : Phase.closed ∈ (history ++ later).flatMap Happening.sights :=
          List.mem_flatMap.mpr ⟨_, List.mem_append_right history saw, List.mem_cons_self⟩
        exact Phase.eq_closed_of_le (ascends.le_of_mem sight)
      exact ⟨⟨.closed, saw, fun other => (other rfl).elim⟩, closed, ending.torn_down_iff⟩
  | waited phase =>
      rw [finding] at stems
      obtain ⟨saw, reply, waited⟩ := stems
      have awaited := List.mem_append_right history (List.mem_of_mem_take waited)
      have tornDown := torn_down_of_awaited unended whole awaited
      exact ⟨⟨phase, List.mem_of_mem_take saw, fun _ => tornDown⟩, tornDown.closed, ending.torn_down_iff⟩

/-- An open connection on which somebody is about to give up the handshake's connection. -/
def givenUp : World :=
  ({ setup := {}, hub := { phase := .opened } } : World).addActor
    ⟨(proceed {} false []).bind fun _ => .done none, false⟩

/-- A call to close finds it open. It is torn down before the call moves the phase. -/
def closedMeanwhile : History × World :=
  play [1, 0, 0, 0, 0, 0, 0, 0, 0, 0, 0, 1, 1, 1] ([], givenUp.callClose .normal "")

theorem close_returns_meanwhile :
    ⟨1, .report 1 (.closed (.ok ())), some ()⟩ ∈ closedMeanwhile.1 ∧
      ⟨1, .readPhase, some .opened⟩ ∈ closedMeanwhile.1 ∧
      TornDown closedMeanwhile.1 closedMeanwhile.2.hub := by
  have unended : World.Unended { setup := {}, hub := { phase := .opened } } := ⟨rfl, by decide, rfl, rfl⟩
  have run : RunIn session { setup := {}, hub := { phase := .opened } } [] givenUp :=
    .begin .refl (.opening false [])
  have behind : (givenUp.callClose .normal "").RunIn session closedMeanwhile.1 closedMeanwhile.2 :=
    run_in_of_play _ .refl
  have returns : ⟨1, .report 1 (.closed (.ok ())), some ()⟩ ∈ closedMeanwhile.1 :=
    List.mem_of_getElem? (i := 13) rfl
  obtain ⟨-, -, tornDown⟩ := close_returns unended run behind returns
  exact ⟨returns, List.mem_of_getElem? (i := 0) rfl, tornDown.mpr rfl⟩

/-- The receive loop has come to the end of the stream and has closed the phase. -/
def streamEnded : History × World :=
  play [0, 0, 0, 0]
    ([], ({ setup := {}, hub := { phase := .opened } } : World).addActor
      ⟨(Task.receive [] { limits := {} }).script {}, false⟩)

def closedTooEarly : History × World := play [1, 1] ([], streamEnded.2.callClose .normal "")

theorem not_close_waits :
    RunIn session { setup := {}, hub := { phase := .opened } } streamEnded.1 streamEnded.2 ∧
      (streamEnded.2.callClose .normal "").RunIn session closedTooEarly.1 closedTooEarly.2 ∧
      CloseCode.normal.isValid = true ∧
      closedTooEarly.1 =
        [⟨1, .readPhase, some .closed⟩, ⟨1, .report 1 (.closed (.ok ())), some ()⟩] ∧
      closedTooEarly.2.hub.closedAnnounced = false ∧ closedTooEarly.2.hub.isCancelled = false ∧
      closedTooEarly.2.hub.hasWriter = true :=
  ⟨run_in_of_play _ (.begin .refl (.task (.receive [] { limits := {} }))), run_in_of_play _ .refl, rfl, rfl, rfl, rfl, rfl⟩

end World

end WebSocket
