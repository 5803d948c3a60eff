import WebSocket.Proofs.Connection.Choices
import WebSocket.Proofs.Connection.Strides

/-!
Failing observers do not interfere. Two connections that differ in which callbacks fail, and in the
source of their mask keys, come by the same choices to the same state, the same results and the same
frames, and their observers are told the same, in the same order.
-/

namespace WebSocket

open Script Connection

def toldBy (actor : Nat) (notes : List (Nat × Note)) : List (Nat × Notice) :=
  notes.filterMap fun (teller, note) => if teller = actor then note.telling? else none

theorem told_by_own (actor : Nat) (notes : List (Nat × Note)) (added : List Note) :
    toldBy actor (notes ++ added.map (actor, ·)) =
      toldBy actor notes ++ added.filterMap Note.telling? := by
  unfold toldBy
  rw [List.filterMap_append, List.filterMap_map]
  congr 2
  funext note
  exact if_pos rfl

theorem told_by_of_ne {actor : Nat} {notes : List (Nat × Note)}
    (others : ∀ note ∈ notes, note.1 ≠ actor) : toldBy actor notes = [] :=
  List.filterMap_eq_nil_iff.mpr fun note member => if_neg (others note member)

theorem told_by_other {actor other : Nat} (elsewhere : actor ≠ other) (notes : List (Nat × Note))
    (added : List Note) : toldBy other (notes ++ added.map (actor, ·)) = toldBy other notes := by
  have none : toldBy other (added.map (actor, ·)) = [] := by
    apply told_by_of_ne
    intro note member
    obtain ⟨_, _, rfl⟩ := List.mem_map.mp member
    exact elsewhere
  unfold toldBy at none ⊢
  rw [List.filterMap_append, none, List.append_nil]

namespace World

variable {twins : Twins} {notes : List (Nat × Note)} {world copy : World}

/-- Two worlds in step: their hubs differ in what is left behind only, and every actor of one does
the same as the actor of that number in the other. -/
structure InStep (twins : Twins) (notes : List (Nat × Note)) (world copy : World) : Prop where
  setup : world.setup = twins.mine
  setupToo : copy.setup = twins.yours
  hub : world.hub.IsRetold copy.hub
  length : copy.actors.length = world.actors.length
  actors : ∀ (index : Nat) (actor : Actor), world.actors[index]? = some actor →
    ∃ telling script, copy.actors[index]? = some { actor with script } ∧
      actor.script.InStep twins telling script ∧ TellsInTurn twins.count telling (toldBy index notes)
  known : ∀ note ∈ notes, note.1 < world.actors.length

namespace InStep

theorem addActor (inStep : InStep twins notes world copy) {script copyScript : Script (Option Task)}
    (begins : Abreast twins script copyScript) (isAbortable : Bool) :
    InStep twins notes (world.addActor ⟨script, isAbortable⟩) (copy.addActor ⟨copyScript, isAbortable⟩) := by
  obtain ⟨setup, setupToo, hub, length, actors, known⟩ := inStep
  refine ⟨setup, setupToo, hub, ?_, fun index actor here => ?_, fun note member => ?_⟩
  · rw [World.addActor, World.addActor, List.length_append, List.length_append, length]
    rfl
  · rw [World.addActor, List.getElem?_append] at here
    rw [World.addActor, List.getElem?_append, length]
    split at here
    · rename_i within
      rw [if_pos within]
      exact actors index actor here
    · rename_i late
      rw [if_neg late]
      obtain rfl := List.mem_singleton.mp (List.mem_of_getElem? here)
      refine ⟨none, copyScript, ?_, begins, ?_⟩
      · have first := (List.getElem?_eq_some_iff.mp here).1
        rw [List.length_singleton, Nat.lt_one_iff] at first
        rw [first]
        rfl
      · have unknown : ∀ note ∈ notes, note.1 ≠ index := by
          intro note member
          have before := known note member
          omega
        rw [told_by_of_ne unknown]
        exact .nil _
  · have before := known note member
    rw [World.addActor, List.length_append]
    omega

theorem addTasks (inStep : InStep twins notes world copy) (tasks : List Task) :
    InStep twins notes
      (tasks.foldl (fun grown task => grown.addActor ⟨task.script twins.mine, false⟩) world)
      (tasks.foldl (fun grown task => grown.addActor ⟨task.script twins.yours, false⟩) copy) := by
  induction tasks generalizing world copy with
  | nil => exact inStep
  | cons task rest induction => exact induction (inStep.addActor (task.in_step twins) false)

theorem putActor (inStep : InStep twins notes world copy) {next other : Hub} (hub : next.IsRetold other)
    {index : Nat} {actor : Actor} (here : world.actors[index]? = some actor) {added : List Note}
    {telling : Option (Notice × Nat)} {script copyScript : Script (Option Task)}
    (scripts : script.InStep twins telling copyScript)
    (inTurn : TellsInTurn twins.count telling (toldBy index (notes ++ added.map (index, ·)))) :
    InStep twins (notes ++ added.map (index, ·))
      (World.putActor { world with hub := next } index script)
      (World.putActor { copy with hub := other } index copyScript) := by
  refine ⟨inStep.setup, inStep.setupToo, hub, ?_, fun place found there => ?_, fun note member => ?_⟩
  · rw [World.putActor, World.putActor, List.length_modify, List.length_modify]
    exact inStep.length
  · by_cases own : index = place
    · subst own
      rw [World.putActor, List.getElem?_modify_eq] at there
      obtain ⟨before, known, rfl⟩ := Option.map_eq_some_iff.mp there
      obtain ⟨_, copied, counterpart, -, -⟩ := inStep.actors index before known
      rw [World.putActor, List.getElem?_modify_eq, counterpart]
      exact ⟨telling, copyScript, rfl, scripts, inTurn⟩
    · rw [World.putActor, List.getElem?_modify_ne _ _ own] at there
      rw [World.putActor, List.getElem?_modify_ne _ _ own, told_by_other own]
      exact inStep.actors place found there
  · rw [World.putActor, List.length_modify]
    rcases List.mem_append.mp member with member | member
    · exact inStep.known note member
    · obtain ⟨_, _, rfl⟩ := List.mem_map.mp member
      exact (List.getElem?_eq_some_iff.mp here).1

end InStep

def enact (world : World) (index : Nat) (sequel : Sequel (Option Task)) : World :=
  sequel.spawned.foldl (fun grown task => grown.addActor ⟨task.script world.setup, false⟩)
    (World.putActor { world with hub := sequel.hub } index sequel.script)

theorem follow_eq_enact {index : Nat} {actor : Actor} {action : Action}
    {next : action.Reply → Script (Option Task)} (here : world.actors[index]? = some actor)
    (doing : actor.script = act action next) (effect : Effect action.Reply) :
    world.follow index action next effect =
      world.enact index ⟨effect.hub, effect.reply.elim (act action next) next, effect.spawned⟩ := by
  obtain ⟨hub, reply, spawned⟩ := effect
  cases reply with
  | some reply => rfl
  | none =>
      have same : World.putActor { world with hub } index (act action next) = { world with hub } := by
        rw [World.putActor]
        congr 1
        apply List.ext_getElem?
        intro place
        rw [List.getElem?_modify]
        split
        · rename_i own
          rw [← own, here, ← doing]
          rfl
        · exact Option.map_id_apply
      rw [enact, Option.elim_none, same]
      rfl

theorem moves_eq {index : Nat} {actor : Actor} (here : world.actors[index]? = some actor) :
    world.moves index = (actor.sequels world.setup index world.hub).map (world.enact index) := by
  unfold moves Actor.sequels
  rw [here]
  dsimp only
  cases doing : actor.script with
  | done result => cases result <;> rfl
  | act action next =>
      dsimp only [Script.sequels]
      cases action.effects world.setup index world.hub with
      | nil =>
          dsimp only [List.map_nil, Sequel.orGiveUp]
          split <;> rfl
      | cons effect rest =>
          simp only [Sequel.orGiveUp, List.map_cons, List.map_map]
          congr 1
          · exact follow_eq_enact here doing effect
          · exact List.map_congr_left fun effect _ => follow_eq_enact here doing effect

def Moves (twins : Twins) (notes : List (Nat × Note)) (index : Nat) (world copy next other : World) :
    Prop :=
  ∃ stretches added, Hub.Strides twins stretches added world.hub copy.hub next.hub other.hub ∧
    InStep twins (notes ++ added.map (index, ·)) next other

theorem hub_of_enact (world : World) (index : Nat) (sequel : Sequel (Option Task)) :
    (world.enact index sequel).hub = sequel.hub := by
  have kept (tasks : List Task) (base : World) : (tasks.foldl (fun grown task =>
      grown.addActor ⟨task.script world.setup, false⟩) base).hub = base.hub := by
    induction tasks generalizing base with
    | nil => rfl
    | cons task rest induction => exact induction _
  exact kept sequel.spawned _

theorem InStep.moves (inStep : InStep twins notes world copy)
    (passive : twins.mine.observers.ArePassive) (passiveToo : twins.observers.ArePassive) (index : Nat) :
    List.Forall₂ (Moves twins notes index world copy) (world.moves index) (copy.moves index) := by
  cases here : world.actors[index]? with
  | none =>
      have absent : copy.actors[index]? = none := by
        rw [List.getElem?_eq_none_iff] at here ⊢
        rwa [inStep.length]
      unfold World.moves
      rw [here, absent]
      exact .nil
  | some actor =>
      obtain ⟨telling, script, counterpart, scripts, inTurn⟩ := inStep.actors index actor here
      rw [moves_eq here, moves_eq counterpart, inStep.setup, inStep.setupToo,
        List.forall₂_map_left_iff, List.forall₂_map_right_iff]
      refine (Actor.sequels_match scripts passive passiveToo inStep.hub index).imp ?_
      rintro sequel other ⟨stretches, added, after, strides, spawned, goesOn, turns⟩
      refine ⟨stretches, added, ?_, ?_⟩
      · rw [hub_of_enact, hub_of_enact]
        exact strides
      · have turn : TellsInTurn twins.count after (toldBy index (notes ++ added.map (index, ·))) := by
          rw [told_by_own]
          exact turns _ inTurn
        have grown := (inStep.putActor strides.rest here goesOn turn).addTasks sequel.spawned
        rw [← inStep.setup, ← inStep.setupToo] at grown
        rw [enact, enact, spawned]
        exact grown

def Chosen (twins : Twins) (notes : List (Nat × Note)) (choice : Choice) (world copy next other : World) :
    Prop :=
  ∃ stretches added,
    Hub.Strides twins stretches (added.map Prod.snd) world.hub copy.hub next.hub other.hub ∧
    world.noted next choice = added.map (fun (actor, note) => (actor, note.entry twins.mine.maskKey)) ∧
    copy.noted other choice = added.map (fun (actor, note) => (actor, note.entry twins.keys)) ∧
    InStep twins (notes ++ added) next other

theorem Moves.chosen {index : Nat} {next other : World} (moves : Moves twins notes index world copy next other)
    (pick : Nat) : Chosen twins notes (.move index pick) world copy next other := by
  obtain ⟨stretches, added, strides, inStep⟩ := moves
  refine ⟨stretches, added.map (index, ·), ?_, ?_, ?_, inStep⟩
  · rw [List.map_map]
    exact (List.map_id added).symm ▸ strides
  · rw [noted, strides.journal, List.drop_left, List.map_map, List.map_map]
    rfl
  · rw [noted, strides.journalToo, List.drop_left, List.map_map, List.map_map]
    rfl

theorem InStep.chosen {next other : World} (inStep : InStep twins notes next other) {choice : Choice}
    (wire : next.hub.stream.written = world.hub.stream.written)
    (wireToo : other.hub.stream.written = copy.hub.stream.written)
    (journal : next.hub.journal = world.hub.journal) (journalToo : other.hub.journal = copy.hub.journal)
    (noted : world.noted next choice = []) (notedToo : copy.noted other choice = []) :
    Chosen twins notes choice world copy next other :=
  ⟨[], [], .silent inStep.hub wire wireToo journal journalToo, noted, notedToo,
    (List.append_nil notes).symm ▸ inStep⟩

theorem InStep.drift (inStep : InStep twins notes world copy) (drift : Hub → Hub)
    (blind : ∀ hub written journal failed,
      drift (hub.retold written journal failed) = (drift hub).retold written journal failed) :
    InStep twins notes { world with hub := drift world.hub } { copy with hub := drift copy.hub } := by
  obtain ⟨written, journal, failed, same⟩ := inStep.hub
  refine ⟨inStep.setup, inStep.setupToo, ⟨written, journal, failed, ?_⟩, inStep.length, inStep.actors,
    inStep.known⟩
  exact (congrArg drift same).trans (blind _ _ _ _)

theorem InStep.begin (inStep : InStep twins notes world copy) {script copyScript : Script Report}
    (begins : Abreast twins script copyScript) (isAbortable : Bool) :
    InStep twins notes (world.begin script isAbortable) (copy.begin copyScript isAbortable) := by
  unfold World.begin
  rw [inStep.length]
  exact inStep.addActor (begins.bind fun result => .report _ result (.done none)) isAbortable

theorem rel_of_forall₂ {First Second : Type} {Rel : First → Second → Prop} {firsts : List First}
    {seconds : List Second} (all : List.Forall₂ Rel firsts seconds) (pick : Nat) :
    Option.Rel Rel firsts[pick]? seconds[pick]? := by
  induction all generalizing pick with
  | nil => exact .none
  | cons first _ induction =>
      cases pick with
      | zero => exact .some first
      | succ pick => exact induction pick

theorem InStep.choose (inStep : InStep twins notes world copy)
    (passive : twins.mine.observers.ArePassive) (passiveToo : twins.observers.ArePassive)
    (choice : Choice) :
    Option.Rel (Chosen twins notes choice world copy) (world.choose choice) (copy.choose choice) := by
  have setup := inStep.setup
  have setupToo := inStep.setupToo
  cases choice with
  | move index pick =>
      have moves := (inStep.moves passive passiveToo index).imp fun _ _ moves => moves.chosen pick
      exact rel_of_forall₂ moves pick
  | connect timeout request =>
      have begins := (in_step_connect twins timeout request).bind fun result =>
        Script.InStep.done (Report.connected result)
      rw [← setup, ← setupToo] at begins
      exact .some ((inStep.begin begins true).chosen rfl rfl rfl rfl rfl rfl)
  | call call =>
      have begins := call.in_step twins
      rw [← setup, ← setupToo] at begins
      exact .some ((inStep.begin begins false).chosen rfl rfl rfl rfl rfl rfl)
  | errand errand =>
      have begins := (errand.in_step twins).bind fun _ => Script.InStep.done (none : Option Task)
      rw [← setup, ← setupToo] at begins
      exact .some ((inStep.addActor begins false).chosen rfl rfl rfl rfl rfl rfl)
  | task task =>
      have begins := task.in_step twins
      rw [← setup, ← setupToo] at begins
      exact .some ((inStep.addActor begins false).chosen rfl rfl rfl rfl rfl rfl)
  | tick =>
      have later := inStep.drift (fun hub => { hub with now := hub.now + 1 }) fun _ _ _ _ => rfl
      exact .some (later.chosen rfl rfl rfl rfl rfl rfl)
  | cancel =>
      have later := inStep.drift (fun hub => { hub with isCancelled := true }) fun _ _ _ _ => rfl
      exact .some (later.chosen rfl rfl rfl rfl rfl rfl)
  | feed cue =>
      have later := inStep.drift (fun hub =>
        { hub with
          stream := { hub.stream with
            reading := { hub.stream.reading with cues := hub.stream.reading.cues ++ [cue] } } })
        fun _ _ _ _ => rfl
      exact .some (later.chosen rfl rfl rfl rfl rfl rfl)

/-- A run leaves behind what has been outlined, with the keys of its own connection. -/
structure Renders (keys : KeySource) (start : Hub) (stretches : List Stretch)
    (notes : List (Nat × Note)) (run : List (Nat × Entry) × World) : Prop where
  wire : run.2.hub.stream.written = start.stream.written ++ stretches.flatMap (·.bytes keys)
  entries : run.1 = notes.map fun (actor, note) => (actor, note.entry keys)
  journal : run.2.hub.journal = start.journal ++ run.1.map Prod.snd

theorem Renders.cons {keys : KeySource} {start : Hub} {stretches more : List Stretch}
    {added later : List (Nat × Note)} {next : World} {noted : List (Nat × Entry)}
    {run : List (Nat × Entry) × World} (renders : Renders keys next.hub more later run)
    (wire : next.hub.stream.written = start.stream.written ++ stretches.flatMap (·.bytes keys))
    (journal : next.hub.journal = start.journal ++ (added.map Prod.snd).map (·.entry keys))
    (entries : noted = added.map fun (actor, note) => (actor, note.entry keys)) :
    Renders keys start (stretches ++ more) (added ++ later) (noted ++ run.1, run.2) := by
  constructor
  case wire => rw [renders.wire, wire, List.flatMap_append, List.append_assoc]
  case entries => rw [renders.entries, entries, List.map_append]
  case journal =>
    rw [renders.journal, journal, entries, List.map_append, List.append_assoc, List.map_map, List.map_map]
    rfl

/-- A run by the same choices on both sides comes to the same. -/
theorem InStep.pursue (inStep : InStep twins notes world copy)
    (passive : twins.mine.observers.ArePassive) (passiveToo : twins.observers.ArePassive)
    (choices : List Choice) :
    Option.Rel
      (fun run other => ∃ stretches added,
        Renders twins.mine.maskKey world.hub stretches added run ∧
        Renders twins.keys copy.hub stretches added other ∧ InStep twins (notes ++ added) run.2 other.2)
      (world.pursue choices) (copy.pursue choices) := by
  induction choices generalizing notes world copy with
  | nil =>
      refine .some ⟨[], [], ?_, ?_, (List.append_nil notes).symm ▸ inStep⟩
      · exact ⟨(List.append_nil _).symm, rfl, (List.append_nil _).symm⟩
      · exact ⟨(List.append_nil _).symm, rfl, (List.append_nil _).symm⟩
  | cons choice rest induction =>
      have chosen := inStep.choose passive passiveToo choice
      unfold World.pursue
      generalize world.choose choice = one, copy.choose choice = two at chosen
      cases chosen with
      | none => exact .none
      | @some next other chosen =>
          obtain ⟨stretches, added, strides, noted, notedToo, later⟩ := chosen
          have behind := induction later
          dsimp only
          generalize next.pursue rest = run, other.pursue rest = runToo at behind
          cases behind with
          | none => exact .none
          | some behind =>
              obtain ⟨more, addedLater, renders, rendersToo, last⟩ := behind
              refine .some ⟨stretches ++ more, added ++ addedLater, ?_, ?_, ?_⟩
              · exact renders.cons strides.wire strides.journal noted
              · exact rendersToo.cons strides.wireToo strides.journalToo notedToo
              · rwa [← List.append_assoc]

/-- The actor has told every notice to all observers in the order of their registration; or it is in
the middle of that, and the next thing that it does is to tell the next observer. -/
def HasToldInTurn (keys : KeySource) (count : Nat) (notes : List (Nat × Note)) (world : World)
    (actor : Nat) : Prop :=
  ∃ notices : List Notice,
    toldBy actor notes = notices.flatMap (Notice.toAll count) ∨
    ∃ (notice : Notice) (reached : Nat) (next : Unit → Script (Option Task)) (isAbortable : Bool),
      reached < count ∧
      toldBy actor notes =
        notices.flatMap (Notice.toAll count) ++ (notice.toAll count).take reached ∧
      world.actors[actor]? = some ⟨act (.tell reached (notice.event keys)) next, isAbortable⟩

theorem InStep.in_turn (inStep : InStep twins notes world copy) (actor : Nat) :
    HasToldInTurn twins.mine.maskKey twins.count notes world actor ∧
      HasToldInTurn twins.keys twins.count notes copy actor := by
  cases here : world.actors[actor]? with
  | none =>
      have unknown : toldBy actor notes = [] := by
        apply told_by_of_ne
        intro note member
        have before := inStep.known note member
        rw [List.getElem?_eq_none_iff] at here
        omega
      exact ⟨⟨[], .inl unknown⟩, ⟨[], .inl unknown⟩⟩
  | some found =>
      obtain ⟨telling, script, counterpart, scripts, notices, told⟩ := inStep.actors actor found here
      obtain ⟨doing, isAbortable⟩ := found
      cases telling with
      | none =>
          rw [Option.elim_none, List.append_nil] at told
          exact ⟨⟨notices, .inl told⟩, ⟨notices, .inl told⟩⟩
      | some underway =>
          dsimp only at scripts counterpart
          cases scripts with
          | @tell _ notice observer next other turn within rest =>
              rw [Notice.underway] at turn
              split at turn
              · cases turn
                exact ⟨⟨notices, .inr ⟨notice, observer, _, _, within, told, here⟩⟩,
                  ⟨notices, .inr ⟨notice, observer, _, _, within, told, counterpart⟩⟩⟩
              · cases turn

theorem report_of_renders {keys : KeySource} {start : Hub} {stretches : List Stretch}
    {run : List (Nat × Entry) × World} (renders : Renders keys start stretches notes run) (id : Nat) :
    run.2.reportOf id =
      ((notes.reverse.findSome? fun (_, note) =>
        match note with
        | .reported reporter result _ => if reporter = id then some result else none
        | .told .. => none).or
        (start.journal.reverse.findSome? fun entry =>
          match entry with
          | .reported reporter result _ => if reporter = id then some result else none
          | .told .. => none)) := by
  unfold World.reportOf
  rw [renders.journal, renders.entries, List.reverse_append, List.findSome?_append, List.map_map,
    ← List.map_reverse, List.findSome?_map]
  congr 2
  funext ⟨actor, note⟩
  cases note <;> rfl

/-- Two runs that have come to the same, each with its own random digits. -/
structure Coincide (twins : Twins) (start : Hub) (run other : List (Nat × Entry) × World) : Prop where
  /-- The same frames are on the wire, and the same entries are in the journal, in the same order. -/
  traces : ∃ stretches notes,
    Renders twins.mine.maskKey start stretches notes run ∧ Renders twins.keys start stretches notes other ∧
      ∀ actor, HasToldInTurn twins.mine.maskKey twins.count notes run.2 actor ∧
        HasToldInTurn twins.keys twins.count notes other.2 actor
  /-- All else that the actors share is the same. -/
  state : run.2.hub.IsRetold other.2.hub
  results : ∀ id, other.2.reportOf id = run.2.reportOf id
  moves : ∀ index, (other.2.moves index).length = (run.2.moves index).length
  /-- With the same keys nothing differs but who has failed. -/
  equal : twins.keys = twins.mine.maskKey → other.1 = run.1 ∧
    other.2.hub = { run.2.hub with failedCallbacks := other.2.hub.failedCallbacks }

/-- Which callbacks fail makes no difference. Take two connections whose observers do not act on
them, and which differ in these observers and in the source of the mask keys only. By the same
choices either both of them cannot go on, or they come to the same state with the same results; both
have put the same frames onto the wire and told their observers the same, in the order of
registration. -/
theorem failing_observers_change_nothing (twins : Twins) (passive : twins.mine.observers.ArePassive)
    (passiveToo : twins.yours.observers.ArePassive) (start : Hub) (choices : List Choice) :
    Option.Rel (Coincide twins start) (pursue ⟨twins.mine, start, []⟩ choices)
      (pursue ⟨twins.yours, start, []⟩ choices) := by
  have fresh : InStep twins [] ⟨twins.mine, start, []⟩ ⟨twins.yours, start, []⟩ := by
    refine ⟨rfl, rfl, ⟨_, _, _, rfl⟩, rfl, fun index actor here => ?_,
      fun note absent => absurd absent List.not_mem_nil⟩
    cases here
  have runs := fresh.pursue passive passiveToo choices
  generalize pursue ⟨twins.mine, start, []⟩ choices = run at runs ⊢
  generalize pursue ⟨twins.yours, start, []⟩ choices = other at runs ⊢
  cases runs with
  | none => exact .none
  | @some run other runs =>
      obtain ⟨stretches, notes, renders, rendersToo, inStep⟩ := runs
      rw [List.nil_append] at inStep
      constructor
      apply Coincide.mk
      case traces => exact ⟨stretches, notes, renders, rendersToo, inStep.in_turn⟩
      case state => exact inStep.hub
      case results =>
        intro id
        rw [report_of_renders renders, report_of_renders rendersToo]
      case moves => exact fun index => (inStep.moves passive passiveToo index).length_eq.symm
      case equal =>
        intro same
        rw [same] at rendersToo
        have entries : other.1 = run.1 := rendersToo.entries.trans renders.entries.symm
        have wire := rendersToo.wire.trans renders.wire.symm
        have journal : other.2.hub.journal = run.2.hub.journal := by
          rw [rendersToo.journal, renders.journal, entries]
        obtain ⟨written, noted, failed, retold⟩ := inStep.hub
        refine ⟨entries, ?_⟩
        rw [retold] at wire journal ⊢
        obtain rfl : written = _ := wire
        obtain rfl : noted = _ := journal
        rfl

/-- Two observers of which the first one always fails, or the second one at a Ping that is the first
thing it hears, with and without keys. -/
def unreliable : Twins where
  mine := { observers := [{ fails := fun _ => true }, {}], maskKey := fun _ => ⟨1, 2, 3, 4⟩ }
  observers := [{}, { fails := fun callback => callback.name == "ping" && callback.heard.isEmpty }]
  keys := fun _ => ⟨0, 0, 0, 0⟩
  same := rfl

/-- The receive loop answers a Ping that holds the letter `a`. -/
def answering : List Choice := .task (.receive [0x89, 1, 97] { limits := {} }) :: List.replicate 12 (.move 0 0)

theorem failing_observers_change_nothing_of_pong :
    ∃ run other, pursue ⟨unreliable.mine, { phase := .opened }, []⟩ answering = some run ∧
      pursue ⟨unreliable.yours, { phase := .opened }, []⟩ answering = some other ∧
      Coincide unreliable { phase := .opened } run other ∧
      run.2.hub.failedCallbacks.map Prod.fst = [0, 0] ∧
      other.2.hub.failedCallbacks.map Prod.fst = [1] ∧
      run.2.hub.stream.written = [0x8A, 0x81, 1, 2, 3, 4, 96] ∧
      other.2.hub.stream.written = [0x8A, 0x81, 0, 0, 0, 0, 97] := by
  have passive : unreliable.mine.observers.ArePassive :=
    List.forall_mem_cons.mpr ⟨fun _ => rfl, List.forall_mem_singleton.mpr fun _ => rfl⟩
  have passiveToo : unreliable.yours.observers.ArePassive :=
    List.forall_mem_cons.mpr ⟨fun _ => rfl, List.forall_mem_singleton.mpr fun _ => rfl⟩
  have coincide := failing_observers_change_nothing unreliable passive passiveToo
    { phase := .opened } answering
  have mine : (pursue ⟨unreliable.mine, { phase := .opened }, []⟩ answering).map (fun run =>
      (run.2.hub.failedCallbacks.map Prod.fst, run.2.hub.stream.written)) =
        some ([0, 0], [0x8A, 0x81, 1, 2, 3, 4, 96]) := by decide +kernel
  have yours : (pursue ⟨unreliable.yours, { phase := .opened }, []⟩ answering).map (fun run =>
      (run.2.hub.failedCallbacks.map Prod.fst, run.2.hub.stream.written)) =
        some ([1], [0x8A, 0x81, 0, 0, 0, 0, 97]) := by decide +kernel
  obtain ⟨run, ran, facts⟩ := Option.map_eq_some_iff.mp mine
  obtain ⟨other, ranToo, factsToo⟩ := Option.map_eq_some_iff.mp yours
  rw [ran, ranToo] at coincide
  cases coincide with
  | some coincide =>
      exact ⟨run, other, ran, ranToo, coincide, congrArg Prod.fst facts, congrArg Prod.fst factsToo,
        congrArg Prod.snd facts, congrArg Prod.snd factsToo⟩

end World

end WebSocket
