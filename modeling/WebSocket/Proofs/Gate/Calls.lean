import WebSocket.Proofs.Frame.RoundTrip
import WebSocket.Proofs.Gate.Accounts
import WebSocket.Scenario.Gate

/-!
A gate by itself. Any number of calls send a frame or shut the gate down, each in
an actor of its own, over any stream and in any order of their steps.
-/

namespace WebSocket

inductive GateCall where
  | send (frame : Frame)
  | shutdown
  deriving DecidableEq, Repr

namespace GateCall

def operation : GateCall → GateOperation
  | send frame => .sendFrame frame
  | shutdown => .shutdown

def script (config : Config) : GateCall → Script Report
  | send frame => GateOperation.reportSent (Gate.sendFrame config frame)
  | shutdown => (Gate.shutdown config).bind fun _ => .done (.closed (.ok ()))

theorem scripts_of_operation (config : Config) (call : GateCall) :
    call.operation.scripts config = [call.script config] := by
  cases call <;> rfl

/-- What a call puts in the gate's line: its frame under some key, or nothing. -/
def Carries (call : GateCall) (content : Bytes) : Prop :=
  match call with
  | send frame => ∃ key, content = frame.serialize (some key)
  | shutdown => content = []

/-- What the calls do away from the gate. Each gets in line once, with what it
carries, and reports how its passage has ended. -/
def also (calls : List GateCall) (actor : Nat) (stand : Option Passage) : Action → Prop
  | .drawKey => stand = none
  | .queueForGate content => stand = none ∧ ∃ call, calls[actor]? = some call ∧ call.Carries content
  | .readClock | .shutdown _ => ∃ passage, stand = some passage ∧ passage.content = []
  | .report id (.sent (.ok status)) =>
      id = actor ∧ ∃ passage, stand = some passage ∧ passage.content ≠ [] ∧ passage.status = status
  | .report id (.closed (.ok ())) =>
      id = actor ∧ ∃ passage, stand = some passage ∧ passage.content = []
  | _ => False

open Script Passage

def actorScript (config : Config) (call : GateCall) (id : Nat) : Script (Option Task) :=
  (call.script config).bind fun result => .act (.report id result) fun _ => .done none

def Ended (next : Option Task) (stand : Option Passage) : Prop :=
  next = none ∧ ∃ passage, stand = some passage ∧ passage.stage = .gone

theorem follows {calls : List GateCall} {call : GateCall} {actor : Nat} (config : Config)
    (here : calls[actor]? = some call) :
    (call.actorScript config actor).Follows (conduct (also calls)) actor Ended none := by
  cases call with
  | send frame =>
      refine ⟨.inl ⟨is_away_none, rfl, rfl⟩, fun key => ?_⟩
      have nonempty := frame.serialize_nonempty (some key)
      have reports : (GateOperation.reportSent
          (Gate.send config (frame.serialize (some key)))).Follows (conduct (also calls)) actor
            (fun result stand => ∃ status, result = .sent (.ok status) ∧
              IsSent (frame.serialize (some key)) status stand) none :=
        (follows_send config nonempty is_away_none ⟨rfl, _, here, key, rfl⟩).bind
          fun status after sent => ⟨status, rfl, sent⟩
      refine reports.bind ?_
      rintro _ _ ⟨status, rfl, written, rfl, -⟩
      exact ⟨.inl ⟨away_of_gone rfl, rfl, rfl, _, rfl, nonempty, rfl⟩, fun _ => ⟨rfl, _, rfl, rfl⟩⟩
  | shutdown =>
      have mayShutDown : ∀ status action, action = .readClock ∨
          (∃ deadline, action = .shutdown deadline) →
            also calls actor (some ⟨[], [], .gone, status⟩) action := by
        rintro status action (rfl | ⟨deadline, rfl⟩) <;> exact ⟨_, rfl, rfl⟩
      have shuts : (Gate.shutdown config).Follows (conduct (also calls)) actor
          (fun _ after => ∃ status, after = some ⟨[], [], .gone, status⟩) none :=
        follows_shutdown config is_away_none ⟨rfl, _, here, rfl⟩ mayShutDown
      have reports : ((Gate.shutdown config).bind fun _ => .done (Report.closed (.ok ()))).Follows
          (conduct (also calls)) actor (fun result after => result = .closed (.ok ()) ∧
            ∃ status, after = some ⟨[], [], .gone, status⟩) none :=
        shuts.bind fun _ _ gone => ⟨rfl, gone⟩
      refine reports.bind ?_
      rintro _ _ ⟨rfl, status, rfl⟩
      exact ⟨.inl ⟨away_of_gone rfl, rfl, rfl, _, rfl, rfl⟩, fun _ => ⟨rfl, _, rfl, rfl⟩⟩

end GateCall

namespace World

open GateCall

/-- A free gate over a stream, and the calls that use it. -/
def ofCalls (setup : Setup) (stream : Stream) (calls : List GateCall) : World :=
  calls.foldl (fun world call => world.begin (call.script setup.config) false)
    { setup, hub := { stream } }

/-- Nobody else begins, but time may pass and the stream may bring more. -/
def isolated : Setting := ⟨fun _ _ => False, Hub.Drift⟩

variable {setup : Setup} {stream : Stream} {calls : List GateCall}

theorem of_calls_eq (setup : Setup) (stream : Stream) (calls : List GateCall) :
    ofCalls setup stream calls =
      { setup, hub := { stream }
        actors := calls.mapIdx fun id call => ⟨call.actorScript setup.config id, false⟩ } := by
  induction calls using List.reverseRecOn with
  | nil => rfl
  | append_singleton calls call induction =>
      rw [ofCalls, List.foldl_append]
      change (ofCalls setup stream calls).addActor
        ⟨call.actorScript setup.config (ofCalls setup stream calls).actors.length, false⟩ = _
      rw [induction, List.mapIdx_append]
      simp only [addActor, List.length_mapIdx, List.mapIdx_singleton, Nat.zero_add]

theorem call_of_actor {index : Nat} {actor : Actor}
    (here : (ofCalls setup stream calls).actors[index]? = some actor) :
    ∃ call, calls[index]? = some call ∧ actor.script = call.actorScript setup.config index := by
  rw [of_calls_eq, List.getElem?_mapIdx] at here
  obtain ⟨call, found, rfl⟩ := Option.map_eq_some_iff.mp here
  exact ⟨call, found, rfl⟩

theorem isolated_respects (setup : Setup) (calls : List GateCall) :
    isolated.Respects (Passage.conduct (also calls)) Ended setup where
  begins never := never.elim
  spawns := by
    rintro actor stand task (⟨-, -, never⟩ | ⟨passage, -, never⟩)
    · exact never.elim
    · exact never.elim
  resumes ended := nomatch ended.1

theorem obeys_of_calls (setup : Setup) (stream : Stream) (calls : List GateCall) :
    Obeys (Passage.conduct (also calls)) Ended [] (ofCalls setup stream calls) := by
  refine ⟨fun index actor here => ?_, fun _ absent => absurd absent List.not_mem_nil⟩
  obtain ⟨call, found, same⟩ := call_of_actor here
  rw [same]
  exact GateCall.follows setup.config found

theorem RunIn.writer_iff {start world : World} {setting : Setting} {history : History}
    (there : start.hub.hasWriter = true)
    (outside : ∀ hub next, setting.drifts hub next → hub.Drift next)
    (run : start.RunIn setting history world) :
    world.hub.hasWriter = true ↔ ∀ happening ∈ history, happening.action ≠ .takeWriter := by
  induction run with
  | refl => exact ⟨fun _ _ absent => absurd absent List.not_mem_nil, fun _ => there⟩
  | @act history world index actor action next effect before here doing member induction =>
      have newest : (∀ happening ∈ history ++ [⟨index, action, effect.reply⟩],
          happening.action ≠ .takeWriter) ↔
            (∀ happening ∈ history, happening.action ≠ .takeWriter) ∧ action ≠ .takeWriter := by
        simp only [List.mem_append, List.mem_singleton, or_imp, forall_and, forall_eq]
      rw [follow_eq, newest, ← induction]
      by_cases takes : action = .takeWriter
      · subst takes
        obtain rfl := List.mem_singleton.mp member
        exact ⟨nofun, fun both => absurd rfl both.2⟩
      · rw [Action.has_writer_of_effect takes member]
        exact ⟨fun there => ⟨there, takes⟩, fun both => both.1⟩
  | goOn _ _ _ induction => exact induction
  | begin _ _ induction => exact induction
  | drift _ drifts induction =>
      rw [← induction]
      cases outside _ _ drifts <;> exact Iff.rfl

section Calls

variable {world : World} {history : History}

theorem writer_of_calls (run : (ofCalls setup stream calls).RunIn isolated history world) :
    world.hub.hasWriter = true ↔ ∀ happening ∈ history, happening.action ≠ .takeWriter := by
  refine run.writer_iff ?_ fun _ _ drifts => drifts
  rw [of_calls_eq]

theorem booked_of_calls (run : (ofCalls setup stream calls).RunIn isolated history world) :
    ∃ ledger, Booked (also calls) history world.hub ledger ∧
      Account stream.written history world.hub ledger := by
  have hub : (ofCalls setup stream calls).hub = { stream } := by rw [of_calls_eq]
  have written : (ofCalls setup stream calls).hub.stream.written = stream.written := by rw [hub]
  rw [← written]
  refine run.booked (isolated_respects _ calls) (obeys_of_calls setup stream calls) ?_
    fun _ _ drifts => drifts
  rw [hub]

theorem permitted_of_calls (run : (ofCalls setup stream calls).RunIn isolated history world)
    {place : Nat} {happening : Happening} (found : history[place]? = some happening) :
    (Passage.conduct (also calls)).permits happening.actor
        (History.stand (history.take place) (Passage.conduct (also calls)) happening.actor)
        happening.action ∧
      ∃ before : World, (ofCalls setup stream calls).RunIn isolated (history.take place) before ∧
        ∃ effect ∈ happening.action.effects (ofCalls setup stream calls).setup happening.actor before.hub,
          effect.reply = happening.reply := by
  obtain ⟨before, stood, next, effect, earlier, here, doing, member, reply⟩ := run.at_place found
  have follows := (earlier.obeys (isolated_respects _ calls) (obeys_of_calls setup stream calls)).follows
    _ stood here
  rw [doing] at follows
  exact ⟨follows.1, before, earlier, effect, member, reply⟩

theorem queued_of_calls (run : (ofCalls setup stream calls).RunIn isolated history world)
    {place actor : Nat} {content : Bytes}
    (found : history[place]? = some ⟨actor, .queueForGate content, some ()⟩) :
    History.stand (history.take place) (Passage.conduct (also calls)) actor = none ∧
      ∃ call, calls[actor]? = some call ∧ call.Carries content := by
  rcases (permitted_of_calls run found).1 with ⟨-, -, permitted⟩ | ⟨passage, -, never⟩
  · exact permitted
  · exact never.elim

theorem carries_of_visit (run : (ofCalls setup stream calls).RunIn isolated history world)
    {visit : Visit} (member : visit ∈ history.visits) :
    ∃ call, calls[visit.actor]? = some call ∧ call.Carries visit.passage.content :=
  (queued_of_calls run (History.joined_of_visit member)).2

theorem stand_of_joined {also : Nat → Option Passage → Action → Prop} {history : History} {actor : Nat}
    {content : Bytes} (joined : ⟨actor, .queueForGate content, some ()⟩ ∈ history) :
    history.stand (Passage.conduct also) actor ≠ none := by
  revert joined
  refine History.stand_induction (motive := fun history passage =>
    ⟨actor, .queueForGate content, some ()⟩ ∈ history → passage ≠ none) ?_ ?_ ?_ history
  · exact nofun
  · intro history action reply before joined
    cases action with
    | queueForGate other => exact nofun
    | _ =>
        rcases List.mem_append.mp joined with earlier | last
        · exact fun none => before earlier (Option.map_eq_none_iff.mp none)
        · cases List.mem_singleton.mp last
  · intro history happening idle before joined
    rcases List.mem_append.mp joined with earlier | last
    · exact before earlier
    · obtain rfl := List.mem_singleton.mp last
      cases idle rfl

theorem actors_nodup (run : (ofCalls setup stream calls).RunIn isolated history world) :
    (history.visits.map Visit.actor).Nodup := by
  refine List.pairwise_map.mpr (history.visits_in_order.imp_of_mem ?_)
  intro first second member memberToo before same
  have joined := History.joined_of_visit member
  rw [same] at joined
  have stands := (queued_of_calls run (History.joined_of_visit memberToo)).1
  exact stand_of_joined (History.mem_take before joined) stands

theorem sound_of_visit (run : (ofCalls setup stream calls).RunIn isolated history world) {visit : Visit}
    (member : visit ∈ history.visits) : visit.passage.IsSound := by
  obtain ⟨ledger, booked, -⟩ := booked_of_calls run
  exact booked.sound visit (booked.visits ▸ member)

theorem visit_of_gone {place : Nat} {before : World} {actor : Nat} {passage : Passage}
    (earlier : (ofCalls setup stream calls).RunIn isolated (history.take place) before)
    (stands : History.stand (history.take place) (Passage.conduct (also calls)) actor = some passage)
    (gone : passage.stage = .gone) :
    ∃ visit ∈ history.visits, visit.actor = actor ∧ visit.passage = passage := by
  obtain ⟨ledger, booked, -⟩ := booked_of_calls earlier
  obtain ⟨visit, member, same, rfl⟩ := booked.latest actor passage stands
  rw [← booked.visits] at member
  exact ⟨visit, History.gone_of_take member gone, same, rfl⟩

theorem visit_of_report (run : (ofCalls setup stream calls).RunIn isolated history world)
    {id : Nat} {status : SendStatus}
    (reported : ⟨id, .report id (.sent (.ok status)), some ()⟩ ∈ history) :
    ∃ visit ∈ history.visits, visit.actor = id ∧ visit.passage.stage = .gone ∧
      visit.passage.status = status ∧ (status = .success → visit.passage.written = visit.passage.content) := by
  obtain ⟨place, found⟩ := List.mem_iff_getElem?.mp reported
  obtain ⟨permitted, before, earlier, -⟩ := permitted_of_calls run found
  rcases permitted with ⟨away, -, -, passage, stands, -, told⟩ | ⟨passage, -, never⟩
  · obtain ⟨visit, member, same, rfl⟩ := visit_of_gone earlier stands (away passage stands)
    have gone := away _ stands
    refine ⟨visit, member, same, gone, told, fun success => ?_⟩
    exact (sound_of_visit run member).whole gone (told.trans success)
  · exact never.elim

end Calls

end World

end WebSocket
