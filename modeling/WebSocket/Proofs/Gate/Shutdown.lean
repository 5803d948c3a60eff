import WebSocket.Proofs.Gate.Calls

/-!
A gate without a writer. Whoever gets in line behind the one who has taken the
writer writes nothing. It is told so in the end, because those in front of it
have nothing left to do but to leave.
-/

namespace WebSocket

def telling : Conduct Bool where
  start := false
  permits _ _ _ := True
  after stand
    | .report .., _ => true
    | _, _ => stand

theorem telling_follows {Result : Type} (script : Script Result) (next : Result → Report)
    (id actor : Nat) (stand : Bool) :
    (script.bind fun result =>
      .act (.report id (next result)) fun _ => .done (none : Option Task)).Follows telling actor
        (fun _ after => after = true) stand := by
  induction script generalizing stand with
  | done result => exact ⟨trivial, fun _ => rfl⟩
  | act action rest induction => exact ⟨trivial, fun reply => induction reply _⟩

theorem report_of_telling {history : History} {actor : Nat}
    (told : history.stand telling actor = true) :
    ∃ id report, ⟨actor, .report id report, some ()⟩ ∈ history := by
  revert told
  refine History.stand_induction (motive := fun history hasTold =>
    hasTold = true → ∃ id report, ⟨actor, .report id report, some ()⟩ ∈ history) ?_ ?_ ?_ history
  · exact nofun
  · intro history action reply before told
    cases action with
    | report id report => exact ⟨id, report, List.mem_append_right _ List.mem_cons_self⟩
    | _ =>
        obtain ⟨id, report, found⟩ := before told
        exact ⟨id, report, List.mem_append_left _ found⟩
  · intro history happening _ before told
    obtain ⟨id, report, found⟩ := before told
    exact ⟨id, report, List.mem_append_left _ found⟩

namespace World

open GateCall Passage

variable {setup : Setup} {stream : Stream} {calls : List GateCall} {world : World} {history : History}

theorem report_of_done (run : (ofCalls setup stream calls).RunIn isolated history world) {index : Nat}
    {actor : Actor} {result : Option Task} (here : world.actors[index]? = some actor)
    (done : actor.script = .done result) :
    ∃ id report, ⟨index, .report id report, some ()⟩ ∈ history := by
  have respects : isolated.Respects ((conduct (also calls)).both telling)
      (fun next stand => Ended next stand.1 ∧ stand.2 = true) (ofCalls setup stream calls).setup := by
    refine ⟨fun never => never.elim, ?_, fun ended => nomatch ended.1.1⟩
    rintro actor stand task ⟨⟨-, -, never⟩ | ⟨passage, -, never⟩, -⟩
    · exact never.elim
    · exact never.elim
  have obeys : Obeys ((conduct (also calls)).both telling)
      (fun next stand => Ended next stand.1 ∧ stand.2 = true) [] (ofCalls setup stream calls) := by
    refine ⟨fun index actor here => ?_, fun _ absent => absurd absent List.not_mem_nil⟩
    obtain ⟨call, found, same⟩ := call_of_actor here
    rw [same]
    exact (GateCall.follows setup.config found).both
      (telling_follows (call.script setup.config) id index index false)
  have follows := (run.obeys respects obeys).follows index actor here
  rw [done, History.stand_both] at follows
  exact report_of_telling follows.2

theorem follows_of_calls (run : (ofCalls setup stream calls).RunIn isolated history world)
    {index : Nat} {actor : Actor} (here : world.actors[index]? = some actor) :
    actor.script.Follows (conduct (also calls)) index Ended
      (history.stand (conduct (also calls)) index) :=
  (run.obeys (isolated_respects _ calls) (obeys_of_calls setup stream calls)).follows index actor here

theorem acts_at_gate (run : (ofCalls setup stream calls).RunIn isolated history world)
    {ledger : Ledger} (booked : Booked (also calls) history world.hub ledger) {visit : Visit}
    (member : visit ∈ ledger.present) :
    ∃ actor action next, world.actors[visit.actor]? = some actor ∧ actor.script = .act action next ∧
      visit.passage.permits action := by
  have inVisits : visit ∈ history.visits := by
    rw [booked.visits, Ledger.visits_eq]
    exact List.mem_append_right _ member
  have known := (run.obeys (isolated_respects _ calls) (obeys_of_calls setup stream calls)).known _
    (List.mem_of_getElem? (History.joined_of_visit inVisits))
  obtain ⟨actor, here⟩ : ∃ actor, world.actors[visit.actor]? = some actor :=
    ⟨_, List.getElem?_eq_getElem known⟩
  have follows := follows_of_calls run here
  rw [booked.stands visit member] at follows
  cases script : actor.script with
  | done result =>
      rw [script] at follows
      obtain ⟨-, passage, same, gone⟩ := follows
      cases same
      exact absurd gone (booked.not_gone member)
  | act action next =>
      rw [script] at follows
      rcases follows.1 with ⟨away, -⟩ | ⟨passage, same, permitted⟩
      · exact absurd (away _ rfl) (booked.not_gone member)
      · cases same
        exact ⟨actor, action, next, here, script, permitted⟩

theorem enters_of_waiting {passage : Passage} {action : Action} (waiting : passage.stage = .waiting)
    (permitted : passage.permits action) : action = .enterGate := by
  cases action <;> first | rfl | simp [permits, waiting] at permitted

theorem leaves_of_barred {passage : Passage} {action : Action} (barred : passage.stage = .barred)
    (permitted : passage.permits action) : action = .leaveGate := by
  cases action <;> first | rfl | simp [permits, barred] at permitted

theorem enters_on_turn {hub : Hub} {actor : Nat} (turn : hub.gate.canEnter actor = true) :
    (⟨{ hub with gate := hub.gate.enter actor }, some hub.hasWriter, []⟩ : Effect Bool) ∈
      Action.enterGate.effects setup actor hub := by
  rw [Action.effects, if_pos turn]
  exact List.mem_cons_self

theorem can_leave (run : (ofCalls setup stream calls).RunIn isolated history world) {old line : List Visit}
    {first : Visit} (booked : Booked (also calls) history world.hub ⟨old, some first, line⟩)
    (gone : world.hub.hasWriter = false) :
    ∃ step after, (ofCalls setup stream calls).RunIn isolated (history ++ [step]) after ∧
      after.hub.hasWriter = false ∧
      (∃ left, Booked (also calls) (history ++ [step]) after.hub ⟨left, none, line⟩) ∧
      ∀ other, first.actor ≠ other → after.actors[other]? = world.actors[other]? := by
  have barred := booked.inside first rfl
  rw [gone] at barred
  obtain ⟨actor, action, next, here, doing, permitted⟩ :=
    acts_at_gate run booked (List.mem_append_left _ List.mem_cons_self)
  obtain rfl := leaves_of_barred barred permitted
  obtain ⟨after, further, same, -, others⟩ := run.act_once here doing List.mem_cons_self
  have left := booked.leave permitted
  rw [← same] at left
  exact ⟨_, after, further, same.symm ▸ gone, ⟨_, left⟩, others⟩

theorem can_enter (run : (ofCalls setup stream calls).RunIn isolated history world) {old rest : List Visit}
    {first : Visit} (booked : Booked (also calls) history world.hub ⟨old, none, first :: rest⟩)
    (gone : world.hub.hasWriter = false) :
    ∃ step after, (ofCalls setup stream calls).RunIn isolated (history ++ [step]) after ∧
      after.hub.hasWriter = false ∧
      (∃ held, Booked (also calls) (history ++ [step]) after.hub ⟨old, some held, rest⟩) ∧
      ∀ other, first.actor ≠ other → after.actors[other]? = world.actors[other]? := by
  have turn : world.hub.gate.canEnter first.actor = true := by
    rw [booked.gate]
    simp [Lock.canEnter]
  obtain ⟨actor, action, next, here, doing, permitted⟩ := acts_at_gate run booked List.mem_cons_self
  obtain rfl := enters_of_waiting (booked.waiting first List.mem_cons_self) permitted
  obtain ⟨after, further, same, -, others⟩ := run.act_once here doing (enters_on_turn turn)
  have entered := booked.enter
  rw [← same] at entered
  exact ⟨_, after, further, same.symm ▸ gone, ⟨_, entered⟩, others⟩

/-- Without a writer everybody in line can come to its turn. Those in front have two
steps to do each, the one inside has one. -/
theorem comes_to_turn (size : Nat) {ledger : Ledger} {visit : Visit}
    (run : (ofCalls setup stream calls).RunIn isolated history world)
    (booked : Booked (also calls) history world.hub ledger) (gone : world.hub.hasWriter = false)
    (waits : visit ∈ ledger.line) (sized : 2 * ledger.line.length + ledger.held.toList.length = size) :
    ∃ more after, (ofCalls setup stream calls).RunIn isolated (history ++ more) after ∧
      after.hub.hasWriter = false ∧ after.hub.gate.canEnter visit.actor = true ∧
      after.actors[visit.actor]? = world.actors[visit.actor]? := by
  induction size using Nat.strongRecOn generalizing history world ledger with
  | ind size induction =>
  obtain ⟨old, held, line⟩ := ledger
  cases held with
  | some first =>
      have other : first.actor ≠ visit.actor := (booked.rest_other rfl visit waits).symm
      obtain ⟨step, after, further, still, ⟨left, booked⟩, others⟩ := can_leave run booked gone
      have fewer : 2 * line.length < size := by
        rw [← sized]
        exact Nat.lt_succ_self _
      obtain ⟨more, last, reached, still, turn, unchanged⟩ :=
        induction _ fewer further booked still waits rfl
      rw [List.append_assoc] at reached
      exact ⟨_, last, reached, still, turn, unchanged.trans (others _ other)⟩
  | none =>
      obtain ⟨first, rest, rfl⟩ : ∃ first rest, line = first :: rest :=
        List.exists_cons_of_ne_nil (List.ne_nil_of_mem waits)
      rcases List.mem_cons.mp waits with rfl | behind
      · refine ⟨[], world, by rwa [List.append_nil], gone, ?_, rfl⟩
        rw [booked.gate]
        simp [Lock.canEnter]
      · have other : first.actor ≠ visit.actor := (booked.rest_other rfl visit behind).symm
        obtain ⟨step, after, further, still, ⟨held, booked⟩, others⟩ := can_enter run booked gone
        have fewer : 2 * rest.length + 1 < size := by
          rw [← sized]
          exact Nat.lt_succ_self _
        obtain ⟨more, last, reached, still, turn, unchanged⟩ :=
          induction _ fewer further booked still behind rfl
        rw [List.append_assoc] at reached
        exact ⟨_, last, reached, still, turn, unchanged.trans (others _ other)⟩

theorem content_of_sender (run : (ofCalls setup stream calls).RunIn isolated history world)
    {sender : Nat} {frame : Frame} (sends : calls[sender]? = some (.send frame)) {passage : Passage}
    (stands : history.stand (conduct (also calls)) sender = some passage) : passage.content ≠ [] := by
  obtain ⟨ledger, booked, -⟩ := booked_of_calls run
  obtain ⟨visit, member, rfl, rfl⟩ := booked.latest sender passage stands
  obtain ⟨call, found, carries⟩ := carries_of_visit run (booked.visits ▸ member)
  cases Option.some.inj (found.symm.trans sends)
  obtain ⟨key, same⟩ := carries
  rw [same]
  exact frame.serialize_nonempty (some key)

/-- Some continuation of the run has answered the actor, and there still is no writer. -/
def Proceeds (start : World) (history : History) (index : Nat) {action : Action}
    (next : action.Reply → Script (Option Task)) : Prop :=
  ∃ more after reply stood, start.RunIn isolated (history ++ more) after ∧
    after.hub.hasWriter = false ∧ after.actors[index]? = some stood ∧ stood.script = next reply

theorem proceeds_at_once {start : World} (run : start.RunIn isolated history world)
    (gone : world.hub.hasWriter = false) {index : Nat} {actor : Actor} {action : Action}
    {next : action.Reply → Script (Option Task)} {hub : Hub} {reply : action.Reply}
    (here : world.actors[index]? = some actor) (doing : actor.script = .act action next)
    (member : (⟨hub, some reply, []⟩ : Effect action.Reply) ∈
      action.effects world.setup index world.hub) : Proceeds start history index next := by
  obtain ⟨after, further, same, there, -⟩ := run.act_once here doing member
  exact ⟨_, after, reply, _, further, same ▸ Action.no_writer_of_effect member gone, there, rfl⟩

theorem proceeds_of_sender (run : (ofCalls setup stream calls).RunIn isolated history world)
    (gone : world.hub.hasWriter = false) {sender : Nat} {frame : Frame}
    (sends : calls[sender]? = some (.send frame)) {actor : Actor} {action : Action}
    {next : action.Reply → Script (Option Task)} (here : world.actors[sender]? = some actor)
    (doing : actor.script = .act action next) :
    Proceeds (ofCalls setup stream calls) history sender next := by
  have follows := follows_of_calls run here
  rw [doing] at follows
  rcases follows.1 with ⟨-, -, permitted⟩ | ⟨passage, stands, permitted⟩
  · cases action with
    | drawKey | queueForGate | readClock | report =>
        exact proceeds_at_once run gone here doing List.mem_cons_self
    | shutdown deadline =>
        obtain ⟨passage, stands, empty⟩ := permitted
        exact absurd empty (content_of_sender run sends stands)
    | _ => exact permitted.elim
  · obtain ⟨ledger, booked, -⟩ := booked_of_calls run
    obtain ⟨visit, present, rfl, rfl⟩ := booked.present_of_permits stands permitted
    have notInside : visit.passage.stage ≠ .inside := by
      rcases List.mem_append.mp present with held | waits
      · rw [booked.inside visit (Option.mem_toList.mp held), gone]
        decide
      · rw [booked.waiting visit waits]
        decide
    cases action with
    | enterGate =>
        have waits : visit ∈ ledger.line := by
          rcases List.mem_append.mp present with held | waits
          · have stage := booked.inside visit (Option.mem_toList.mp held)
            rw [gone] at stage
            cases stage.symm.trans permitted
          · exact waits
        obtain ⟨more, last, reached, still, turn, unchanged⟩ :=
          comes_to_turn _ run booked gone waits rfl
        obtain ⟨further, after, reply, stood, run, goes⟩ :=
          proceeds_at_once reached still (unchanged.trans here) doing (enters_on_turn turn)
        rw [List.append_assoc] at run
        exact ⟨_, after, reply, stood, run, goes⟩
    | leaveGate => exact proceeds_at_once run gone here doing List.mem_cons_self
    | write | flush | sleep | takeWriter => exact absurd permitted.1 notInside
    | readClock => exact absurd permitted notInside
    | _ => exact permitted.elim

/-- Without a writer every sender can come to its report. -/
theorem sender_can_report (run : (ofCalls setup stream calls).RunIn isolated history world)
    (gone : world.hub.hasWriter = false) {sender : Nat} {frame : Frame}
    (sends : calls[sender]? = some (.send frame)) {actor : Actor}
    (here : world.actors[sender]? = some actor) :
    ∃ more after id report, (ofCalls setup stream calls).RunIn isolated (history ++ more) after ∧
      ⟨sender, .report id report, some ()⟩ ∈ history ++ more := by
  generalize same : actor.script = script
  induction script generalizing history world actor with
  | done result =>
      obtain ⟨id, report, found⟩ := report_of_done run here same
      exact ⟨[], world, id, report, by rwa [List.append_nil], by rwa [List.append_nil]⟩
  | act action next induction =>
      obtain ⟨more, after, reply, stood, further, still, there, goesOn⟩ :=
        proceeds_of_sender run gone sends here same
      obtain ⟨rest, last, id, report, reached, found⟩ := induction reply further still there goesOn
      rw [List.append_assoc] at reached found
      exact ⟨_, last, id, report, reached, found⟩

theorem refused_behind (run : (ofCalls setup stream calls).RunIn isolated history world)
    {shut visit : Visit} (shuts : shut ∈ history.visits) (member : visit ∈ history.visits)
    (empty : shut.passage.content = []) (behind : shut.place < visit.place) :
    visit.passage.IsRefused := by
  obtain ⟨ledger, booked, account⟩ := booked_of_calls run
  have pairs := account.behind
  rw [← booked.visits] at pairs
  exact History.related_of_place pairs shuts member behind empty

end World

end WebSocket
