import WebSocket.Proofs.Connection.Deeds

/-!
How a session ends. Whatever bytes come in, and however they are cut, the receive loop of
an idle connection does what the course of these bytes says, in order and nothing else;
at the end of the course the connection is closed.
-/

namespace WebSocket

namespace Connection

open Script World

structure Prospect where
  ending : Option Finale
  streamEnds : Bool
  peerClose : Option CloseFrame

/-- The loop is between two frames, and the rest of the course is still to come. -/
structure OnCourse (limits : Limits) (prospect : Prospect) (pending : Bytes) (begun : Option Draft)
    (ground : Ground) : Prop where
  idle : ground.IsIdle
  ends : ground.inflow.ends = prospect.streamEnds
  peerClose : ground.peerClose = prospect.peerClose
  ending : (Course.ofBytes limits begun (pending ++ ground.inflow.bytes)).ending = prospect.ending

def remaining (limits : Limits) (pending : Bytes) (begun : Option Draft) (ground : Ground) :
    List Deed :=
  (Course.ofBytes limits begun (pending ++ ground.inflow.bytes)).deeds ground.inflow.ends

/-- Every round takes some bytes away, those that are not read yet counting twice. -/
def bytesLeft (pending : Bytes) (ground : Ground) : Nat :=
  pending.length + 2 * ground.inflow.bytes.length

structure Concluded (prospect : Prospect) (ground : Ground) : Prop where
  closed : ground.phase = .closed
  peerClose : ground.peerClose =
    prospect.ending.elim prospect.peerClose (Finale.peerClose prospect.peerClose)
  reason : prospect.ending.isSome ∨ prospect.streamEnds = true

def Onward (setup : Setup) (limits : Limits) (prospect : Prospect) (bound : Nat) (result : Option Task)
    (ground : Ground) (rest : List Output) : Prop :=
  match result with
  | none => Concluded prospect ground ∧ rest = []
  | some task => ∃ pending begun, task = .receive pending (.holding limits begun) ∧
      OnCourse limits prospect pending begun ground ∧ bytesLeft pending ground < bound ∧
      rest = setup.outputs ground.keysDrawn (remaining limits pending begun ground)

variable {setup : Setup} {limits : Limits} {prospect : Prospect} {pending : Bytes}
variable {begun : Option Draft} {ground : Ground}

theorem yields_ending (onCourse : OnCourse limits prospect pending begun ground) {ending : Finale}
    (ends : Course.ofBytes limits begun (pending ++ ground.inflow.bytes) = ⟨[], some ending⟩)
    {script : Script (Option Task)} (does : script.Does setup ground
      (setup.outputs ground.keysDrawn ending.deeds) none (ground.after ending)) (bound : Nat) :
    script.Yields setup (Onward setup limits prospect bound) ground
      (setup.outputs ground.keysDrawn (remaining limits pending begun ground)) := by
  have found : some ending = prospect.ending := by
    rw [← onCourse.ending, ends]
  have left : remaining limits pending begun ground = ending.deeds := by
    rw [remaining, ends]
    rfl
  have concluded : Concluded prospect (ground.after ending) := by
    refine ⟨rfl, ?_, .inl ?_⟩
    · rw [← found]
      exact congrArg (Finale.peerClose · ending) onCourse.peerClose
    · rw [← found]
      rfl
  rw [left, ← List.append_nil (setup.outputs _ _)]
  exact does.yields ⟨concluded, rfl⟩

theorem yields_handled (onCourse : OnCourse limits prospect pending begun ground)
    {parsed : Frame.Parsed} (result : Frame.parse (.serverFrames limits) pending = .ok parsed)
    (complete : 0 < parsed.consumed) (goesOn : parsed.ending? limits begun = none)
    {script : Script (Option Task)} (does : script.Does setup ground
      (setup.outputs ground.keysDrawn (parsed.deeds begun))
      (some (.receive (pending.drop parsed.consumed) (.holding limits (parsed.remains begun))))
      (ground.draw (keysOf (parsed.deeds begun)))) :
    script.Yields setup (Onward setup limits prospect (bytesLeft pending ground)) ground
      (setup.outputs ground.keysDrawn (remaining limits pending begun ground)) := by
  have handled := Course.of_handled result complete goesOn ground.inflow.bytes
  have left : remaining limits pending begun ground = parsed.deeds begun ++
      remaining limits (pending.drop parsed.consumed) (parsed.remains begun)
        (ground.draw (keysOf (parsed.deeds begun))) := by
    rw [remaining, handled, Course.deeds, List.flatMap_cons, List.append_assoc]
    rfl
  have shorter : bytesLeft (pending.drop parsed.consumed) (ground.draw (keysOf (parsed.deeds begun))) <
      bytesLeft pending ground := by
    rcases Frame.parse_consumed result with ⟨needed, rfl⟩ | bounds
    · exact absurd complete (Nat.lt_irrefl 0)
    · simp only [bytesLeft, List.length_drop, Ground.draw]
      omega
  have onward : OnCourse limits prospect (pending.drop parsed.consumed) (parsed.remains begun)
      (ground.draw (keysOf (parsed.deeds begun))) := by
    refine ⟨onCourse.idle.draw _, onCourse.ends, onCourse.peerClose, ?_⟩
    rw [← onCourse.ending, handled]
    rfl
  rw [left, Setup.outputs_append]
  exact does.yields ⟨_, _, rfl, onward, shorter, rfl⟩

theorem yields_decided (tolerant : setup.config.closeOnViolation = false)
    (onCourse : OnCourse setup.config.limits prospect pending begun ground)
    (decided : ∀ needed,
      Frame.parse (.serverFrames setup.config.limits) pending ≠ .ok (.incomplete needed)) :
    (receive setup pending (.holding setup.config.limits begun)).Yields setup
      (Onward setup setup.config.limits prospect (bytesLeft pending ground)) ground
      (setup.outputs ground.keysDrawn (remaining setup.config.limits pending begun ground)) := by
  unfold receive
  cases result : Frame.parse (.serverFrames setup.config.limits) pending with
  | error failure =>
      obtain ⟨fault, ends, code⟩ := Course.of_refused begun result ground.inflow.bytes
      exact yields_ending onCourse ends ((does_fail onCourse.idle code).returns rfl) _
  | ok parsed =>
      have complete : 0 < parsed.consumed := by
        rcases Frame.parse_consumed result with ⟨needed, rfl⟩ | bounds
        · exact absurd result (decided needed)
        · omega
      cases parsed with
      | incomplete needed => exact absurd result (decided needed)
      | unexpected opcode consumed =>
          refine yields_handled onCourse result complete rfl ?_
          exact (does_skip tolerant opcode ground).returns rfl
      | frame frame consumed =>
          have dispatched := does_dispatch setup onCourse.idle setup.config.limits begun frame
          cases ending : frame.ending? setup.config.limits begun with
          | some ending' =>
              rw [ending] at dispatched
              have ends := Course.of_ending result complete ending ground.inflow.bytes
              exact yields_ending onCourse ends (dispatched.returns rfl) _
          | none =>
              rw [ending] at dispatched
              exact yields_handled onCourse result complete ending (dispatched.returns rfl)

section

variable {bytes left : Bytes}

theorem joined_read (joined : ground.inflow.bytes = bytes ++ left) :
    pending ++ bytes ++ left = pending ++ ground.inflow.bytes := by
  rw [joined, List.append_assoc]

theorem OnCourse.read (onCourse : OnCourse limits prospect pending begun ground)
    (joined : ground.inflow.bytes = bytes ++ left) :
    OnCourse limits prospect (pending ++ bytes) begun
      { ground with inflow := ⟨left, ground.inflow.ends⟩ } := by
  obtain ⟨opened, live, unclaimed, hasWriter, gate⟩ := onCourse.idle
  refine ⟨⟨opened, live, unclaimed, hasWriter, gate⟩, onCourse.ends, onCourse.peerClose, ?_⟩
  rw [joined_read joined]
  exact onCourse.ending

theorem remaining_read (joined : ground.inflow.bytes = bytes ++ left) :
    remaining limits (pending ++ bytes) begun { ground with inflow := ⟨left, ground.inflow.ends⟩ } =
      remaining limits pending begun ground := by
  unfold remaining
  rw [joined_read joined]

theorem bytes_left_read (pending : Bytes) (joined : ground.inflow.bytes = bytes ++ left) :
    bytesLeft (pending ++ bytes) { ground with inflow := ⟨left, ground.inflow.ends⟩ } + bytes.length =
      bytesLeft pending ground := by
  simp only [bytesLeft, joined, List.length_append]
  omega

end

theorem yields_stream_end (setup : Setup) (onCourse : OnCourse limits prospect pending begun ground)
    (waits : Frame.Waits (.serverFrames limits) pending) (ended : ground.inflow = ⟨[], true⟩)
    (inflow : Inflow) (bound : Nat) :
    (teardown setup >>= fun _ => (pure none : Script (Option Task))).Yields setup
      (Onward setup limits prospect bound) { ground with inflow }
      (setup.outputs ground.keysDrawn (remaining limits pending begun ground)) := by
  have bytes : ground.inflow.bytes = [] := congrArg Inflow.bytes ended
  have ends : ground.inflow.ends = true := congrArg Inflow.ends ended
  have course : Course.ofBytes limits begun (pending ++ ground.inflow.bytes) = ⟨[], none⟩ := by
    rw [bytes, List.append_nil]
    exact Course.of_waits begun waits
  have left : remaining limits pending begun ground = [.tells .closed] := by
    rw [remaining, course, ends]
    rfl
  have unended : none = prospect.ending := by
    rw [← onCourse.ending, course]
  have torn : (teardown setup).Does setup { ground with inflow } (Deed.told setup .closed) ()
      (Ground.closed { ground with inflow }) := by
    refine does_teardown ?_ onCourse.idle.hasWriter onCourse.idle.gate
    rw [onCourse.idle.opened]
    nofun
  have concluded : Concluded prospect (Ground.closed { ground with inflow }) := by
    refine ⟨rfl, ?_, .inr ?_⟩
    · rw [← unended]
      exact onCourse.peerClose
    · rw [← onCourse.ends, ends]
  have closed : setup.outputs ground.keysDrawn [.tells .closed] = Deed.told setup .closed ++ [] := rfl
  rw [left, closed]
  exact Does.yields (torn.returns rfl) ⟨concluded, rfl⟩

theorem yields_read_more (setup : Setup) (onCourse : OnCourse limits prospect pending begun ground)
    (waits : Frame.Waits (.serverFrames limits) pending) :
    (readMore setup pending (.holding limits begun)).Yields setup
      (Onward setup limits prospect (bytesLeft pending ground + 1)) ground
      (setup.outputs ground.keysDrawn (remaining limits pending begun ground)) := by
  refine Yields.perform trivial (fun _ => rfl) fun isCancelled _ leads => ?_
  obtain ⟨rfl, rfl⟩ := leads
  rw [onCourse.idle.live]
  refine Yields.perform trivial (fun _ => rfl) fun start _ leads => ?_
  obtain rfl := leads
  refine Yields.perform rfl (fun _ => rfl) fun reading after leads => ?_
  cases reading with
  | data bytes =>
      obtain ⟨-, left, joined, rfl⟩ := leads
      have fewer := bytes_left_read pending joined
      exact ⟨pending ++ bytes, begun, rfl, onCourse.read joined, by omega,
        by rw [remaining_read joined]⟩
  | timedOut =>
      obtain rfl := leads
      exact ⟨pending, begun, rfl, onCourse, Nat.lt_succ_self _, rfl⟩
  | cancelled =>
      obtain ⟨-, cancelled, -⟩ := leads
      rw [onCourse.idle.live] at cancelled
      cases cancelled
  | ended | failed =>
      obtain ⟨ended, inflow, rfl⟩ := leads
      exact yields_stream_end setup onCourse waits ended inflow _

theorem receive_of_waits {assembler : Assembler}
    (waits : Frame.Waits (.serverFrames setup.config.limits) pending) :
    receive setup pending assembler = readMore setup pending assembler := by
  obtain ⟨needed, result⟩ := waits
  rw [receive, result]

def Ahead (setup : Setup) (prospect : Prospect) (result : Option Task) (ground : Ground)
    (rest : List Output) : Prop :=
  ∃ bound, Onward setup setup.config.limits prospect bound result ground rest

theorem yields_receive (tolerant : setup.config.closeOnViolation = false)
    (onCourse : OnCourse setup.config.limits prospect pending begun ground) :
    (receive setup pending (.holding setup.config.limits begun)).Yields setup
      (Ahead setup prospect) ground
      (setup.outputs ground.keysDrawn (remaining setup.config.limits pending begun ground)) := by
  by_cases waits : Frame.Waits (.serverFrames setup.config.limits) pending
  · rw [receive_of_waits waits]
    exact (yields_read_more setup onCourse waits).mono fun _ _ _ onward => ⟨_, onward⟩
  · have decided := yields_decided tolerant onCourse fun needed result => waits ⟨needed, result⟩
    exact decided.mono fun _ _ _ onward => ⟨_, onward⟩

theorem ahead_goes_on (tolerant : setup.config.closeOnViolation = false) (task : Task)
    (ground : Ground) (left : List Output) (ahead : Ahead setup prospect (some task) ground left) :
    (task.script setup).Yields setup (Ahead setup prospect) ground left := by
  obtain ⟨_, pending, begun, rfl, onCourse, -, rfl⟩ := ahead
  exact yields_receive tolerant onCourse

def afterRead (setup : Setup) (pending : Bytes) (assembler : Assembler) :
    Reading → Script (Option Task)
  | .data bytes => done (some (.receive (pending ++ bytes) assembler))
  | .timedOut => done (some (.receive pending assembler))
  | _ => teardown setup >>= fun _ => done none

theorem read_more_eq (setup : Setup) (pending : Bytes) (assembler : Assembler) :
    readMore setup pending assembler =
      act .readToken fun isCancelled =>
        if isCancelled then teardown setup >>= fun _ => done none
        else act .readClock fun start =>
          act (.read (readRoom setup.config) (start + setup.config.timeouts.read) true)
            (afterRead setup pending assembler) := by
  refine congrArg (act .readToken) (funext fun isCancelled => ?_)
  cases isCancelled with
  | true => rfl
  | false =>
      refine congrArg (act .readClock) (funext fun start => ?_)
      refine congrArg (act (.read _ _ true)) (funext fun reading => ?_)
      cases reading <;> rfl

section

variable {hub : Hub}

theorem smooth_to_read (setup : Setup) (pending : Bytes) (assembler : Assembler)
    (calm : ∀ observer ∈ setup.observers, ∀ event, observer.cancels event = false)
    (live : hub.isCancelled = false) (flows : hub.Flows) :
    ∃ history later deadline, (solo setup hub (readMore setup pending assembler)).Smooth history
        (solo setup later
          (act (.read (readRoom setup.config) deadline true) (afterRead setup pending assembler))) ∧
      later.Flows ∧ later.ground = hub.ground ∧ history.flatMap Happening.outputs = [] := by
  rw [read_more_eq]
  have asked : Answers setup .readToken hub hub.isCancelled :=
    ⟨rfl, hub, .refl, _, List.mem_singleton_self _, rfl⟩
  obtain ⟨first, awake, looked, flowing, ⟨-, same⟩, silent⟩ :=
    smooth_of_answers _ calm asked trivial flows
  rw [live] at looked
  have timed : Answers setup .readClock awake awake.now :=
    ⟨rfl, awake, .refl, _, List.mem_singleton_self _, rfl⟩
  obtain ⟨second, later, started, flowsOn, still, silentToo⟩ :=
    smooth_of_answers _ calm timed trivial flowing
  refine ⟨first ++ second, later, _, looked.trans started, flowsOn, Eq.trans still same, ?_⟩
  rw [List.flatMap_append, silent, silentToo]
  rfl

theorem smooth_read (calm : ∀ observer ∈ setup.observers, ∀ event, observer.cancels event = false)
    (onCourse : OnCourse limits prospect pending begun hub.ground) (flows : hub.Flows)
    (waits : Frame.Waits (.serverFrames limits) pending)
    (brings : hub.ground.inflow ≠ ⟨[], false⟩) :
    ∃ history now result left, (solo setup hub (readMore setup pending (.holding limits begun))).Smooth
        history (solo setup now (done result)) ∧ now.Flows ∧
      setup.outputs hub.ground.keysDrawn (remaining limits pending begun hub.ground) =
        history.flatMap Happening.outputs ++ left ∧
      Onward setup limits prospect (bytesLeft pending hub.ground) result now.ground left := by
  obtain ⟨history, later, deadline, reads, flowing, same, silent⟩ :=
    smooth_to_read setup pending (.holding limits begun) calm onCourse.idle.live flows
  rw [← same] at brings onCourse ⊢
  obtain ⟨reply, prompt, answers⟩ := answers_read setup (readRoom setup.config) deadline brings
  obtain ⟨more, now, answered, flowsOn, leads, silentToo⟩ :=
    smooth_of_answers (afterRead setup pending (.holding limits begun)) calm answers rfl flowing
  have arrived := reads.trans answered
  have unnoticed : (history ++ more).flatMap Happening.outputs = [] := by
    rw [List.flatMap_append, silent, silentToo]
    rfl
  cases reply with
  | data bytes =>
      obtain ⟨nonempty, left, joined, moved⟩ := leads
      have some' := List.length_pos_iff.mpr (nonempty (read_room_pos setup.config))
      have fewer := bytes_left_read pending joined
      have onward := onCourse.read joined
      rw [← moved] at fewer onward
      have toCome : remaining limits (pending ++ bytes) begun now.ground =
          remaining limits pending begun later.ground := by
        rw [moved]
        exact remaining_read joined
      have keys : now.ground.keysDrawn = later.ground.keysDrawn := by rw [moved]
      refine ⟨_, now, _, _, arrived, flowsOn, ?_, pending ++ bytes, begun, rfl, onward, by omega, rfl⟩
      rw [unnoticed, toCome, keys]
      rfl
  | timedOut => exact absurd rfl prompt
  | cancelled =>
      obtain ⟨-, cancelled, -⟩ := leads
      rw [onCourse.idle.live] at cancelled
      cases cancelled
  | ended | failed =>
      obtain ⟨ended, inflow, moved⟩ := leads
      have torn := yields_stream_end setup onCourse waits ended inflow
        (bytesLeft pending later.ground)
      rw [← moved] at torn
      obtain ⟨last, final, result, left, finished, flowsLast, split, onward⟩ :=
        finishes calm torn flowsOn
      refine ⟨_, final, result, left, arrived.trans finished, flowsLast, ?_, onward⟩
      rw [List.flatMap_append, unnoticed]
      exact split

theorem remaining_of_waits (waits : Frame.Waits (.serverFrames limits) pending)
    (nothing : ground.inflow = ⟨[], false⟩) : remaining limits pending begun ground = [] := by
  rw [remaining, nothing, List.append_nil, Course.of_waits begun waits]
  rfl

/-- The script can be brought to have had all these outputs. If there is a reason to end, it
comes to its end. -/
def CatchesUp (setup : Setup) (prospect : Prospect) (hub : Hub) (script : Script (Option Task))
    (rest : List Output) : Prop :=
  ∃ history now last, (solo setup hub script).Smooth history (solo setup now last) ∧
    history.flatMap Happening.outputs = rest ∧
    (prospect.ending.isSome ∨ prospect.streamEnds = true → last = done none)

theorem catches_up_behind {script : Script (Option Task)} {history : History} {now : Hub}
    {result : Option Task} {rest left : List Output} {bound : Nat}
    (smooth : (solo setup hub script).Smooth history (solo setup now (done result)))
    (split : rest = history.flatMap Happening.outputs ++ left)
    (onward : Onward setup limits prospect bound result now.ground left)
    (further : ∀ pending begun, OnCourse limits prospect pending begun now.ground →
      bytesLeft pending now.ground < bound →
      CatchesUp setup prospect now (receive setup pending (.holding limits begun))
        (setup.outputs now.ground.keysDrawn (remaining limits pending begun now.ground))) :
    CatchesUp setup prospect hub script rest := by
  subst split
  cases result with
  | none =>
      obtain ⟨-, rfl⟩ := onward
      exact ⟨history, now, _, smooth, (List.append_nil _).symm, fun _ => rfl⟩
  | some task =>
      obtain ⟨pending, begun, rfl, onCourse, fewer, rfl⟩ := onward
      obtain ⟨more, final, last, behind, outputs, ends⟩ := further pending begun onCourse fewer
      refine ⟨_, final, last, smooth.trans ((smooth_go_on now _).trans behind), ?_, ends⟩
      rw [List.nil_append, List.flatMap_append, outputs]

theorem receive_catches_up (tolerant : setup.config.closeOnViolation = false)
    (calm : ∀ observer ∈ setup.observers, ∀ event, observer.cancels event = false)
    (onCourse : OnCourse setup.config.limits prospect pending begun hub.ground) (flows : hub.Flows) :
    CatchesUp setup prospect hub (receive setup pending (.holding setup.config.limits begun))
      (setup.outputs hub.ground.keysDrawn
        (remaining setup.config.limits pending begun hub.ground)) := by
  -- every round that is not the last one leaves fewer bytes
  induction size : bytesLeft pending hub.ground using Nat.strongRecOn
    generalizing pending begun hub with
  | ind bound induction =>
      by_cases waits : Frame.Waits (.serverFrames setup.config.limits) pending
      · by_cases nothing : hub.ground.inflow = ⟨[], false⟩
        · refine ⟨[], hub, _, .refl _, ?_, fun reason => ?_⟩
          · rw [remaining_of_waits waits nothing]
            rfl
          · rw [← onCourse.ending, ← onCourse.ends, nothing, List.append_nil,
              Course.of_waits begun waits] at reason
            rcases reason with absurd | absurd <;> cases absurd
        · obtain ⟨history, now, result, left, smooth, flowing, split, onward⟩ :=
            smooth_read calm onCourse flows waits nothing
          rw [receive_of_waits waits]
          exact catches_up_behind smooth split onward fun pending begun onCourse fewer =>
            induction _ (size ▸ fewer) onCourse flowing rfl
      · have decided := yields_decided tolerant onCourse fun needed result => waits ⟨needed, result⟩
        obtain ⟨history, now, result, left, smooth, flowing, split, onward⟩ :=
          finishes calm decided flows
        exact catches_up_behind smooth split onward fun pending begun onCourse fewer =>
          induction _ (size ▸ fewer) onCourse flowing rfl

/-- Wherever the loop stands, it can be brought to do all that is left to do. -/
theorem catches_up (tolerant : setup.config.closeOnViolation = false)
    (calm : ∀ observer ∈ setup.observers, ∀ event, observer.cancels event = false)
    {script : Script (Option Task)} {rest : List Output}
    (yields : script.Yields setup (Ahead setup prospect) hub.ground rest) (flows : hub.Flows) :
    CatchesUp setup prospect hub script rest := by
  obtain ⟨history, now, result, left, smooth, flowing, split, bound, onward⟩ :=
    finishes calm yields flows
  exact catches_up_behind smooth split onward fun pending begun onCourse _ =>
    receive_catches_up tolerant calm onCourse flowing

/-- What the course of the bytes lets expect of a session that begins with this loop. -/
def prospectOf (setup : Setup) (hub : Hub) (pending : Bytes) : Prospect :=
  let inflow := hub.stream.reading.inflow
  ⟨(Course.ofBytes setup.config.limits none (pending ++ inflow.bytes)).ending, inflow.ends,
    hub.peerClose⟩

/-- All that others notice of the session. -/
def allOutputs (setup : Setup) (hub : Hub) (pending : Bytes) : List Output :=
  let inflow := hub.stream.reading.inflow
  setup.outputs hub.keysDrawn
    ((Course.ofBytes setup.config.limits none (pending ++ inflow.bytes)).deeds inflow.ends)

/-- A run without trouble has had a beginning of these outputs, and the rest is to come. -/
theorem course_of_run (tolerant : setup.config.closeOnViolation = false)
    (calm : ∀ observer ∈ setup.observers, ∀ event, observer.cancels event = false)
    (idle : hub.ground.IsIdle) {history : History} {world : World}
    (smooth : (solo setup hub
      ((Task.receive pending { limits := setup.config.limits }).script setup)).Smooth history world) :
    ∃ now script left, world = solo setup now script ∧
      allOutputs setup hub pending = history.flatMap Happening.outputs ++ left ∧
      script.Yields setup (Ahead setup (prospectOf setup hub pending)) now.ground left := by
  have onCourse : OnCourse setup.config.limits (prospectOf setup hub pending) pending none
      hub.ground := ⟨idle, rfl, rfl, rfl⟩
  exact yields_of_run calm (fun task ground left => ahead_goes_on tolerant task ground left)
    (yields_receive tolerant onCourse) smooth

end

end Connection

open Connection

def World.IsThrough (world : World) : Prop := ∀ actor ∈ world.actors, actor.script = .done none

theorem World.through_of_one {world : World} {actor : Actor} (alone : world.actors = [actor])
    (finished : actor.script = .done none) : world.IsThrough := by
  intro other member
  rw [alone] at member
  obtain rfl := List.mem_singleton.mp member
  exact finished

theorem World.solo_through {setup : Setup} {hub : Hub} {script : Script (Option Task)} :
    (solo setup hub script).IsThrough ↔ script = .done none := by
  constructor
  · intro through
    exact through _ (List.mem_singleton_self _)
  · intro finished
    exact through_of_one rfl finished

/-- Without trouble, a receive loop that is alone with an open connection does what the
course of its bytes says, in order and nothing else, and the only Close frame it sends is
the answer to the ending. Once the loop is through, all of this has been done and the
connection is closed. Over a stream that lets everything through, all of it can be done. -/
theorem World.session_ends (setup : Setup) (hub : Hub) (pending : Bytes)
    (tolerant : setup.config.closeOnViolation = false)
    (calm : ∀ observer ∈ setup.observers, ∀ event, observer.cancels event = false)
    (idle : hub.ground.IsIdle) {history : History} {world : World}
    (smooth : (solo setup hub
      ((Task.receive pending { limits := setup.config.limits }).script setup)).Smooth history world) :
    let inflow := hub.stream.reading.inflow
    let course := Course.ofBytes setup.config.limits none (pending ++ inflow.bytes)
    let deeds := course.deeds inflow.ends
    let outputs := setup.outputs hub.keysDrawn deeds
    (deeds.filterMap Deed.sent?).filter (fun frame => frame.opcode = .close) =
        course.ending.toList.map Finale.answer ∧
      history.flatMap Happening.outputs <+: outputs ∧
      (world.IsThrough → history.flatMap Happening.outputs = outputs ∧ world.hub.phase = .closed ∧
        world.hub.peerClose = course.ending.elim hub.peerClose (Finale.peerClose hub.peerClose) ∧
        (course.ending.isSome ∨ inflow.ends = true)) ∧
      (hub.Flows → ∃ later final, world.Smooth later final ∧
        (history ++ later).flatMap Happening.outputs = outputs ∧
        (course.ending.isSome ∨ inflow.ends = true → final.IsThrough)) := by
  intro inflow course deeds outputs
  obtain ⟨now, script, left, rfl, split, yields⟩ := course_of_run tolerant calm idle smooth
  refine ⟨Course.closes_of_deeds _ _ _ _, ⟨left, split.symm⟩, fun through => ?_, fun flows => ?_⟩
  · rw [solo_through] at through
    subst through
    obtain ⟨_, ⟨closed, peerClose, reason⟩, rfl⟩ := yields
    exact ⟨(split.trans (List.append_nil _)).symm, closed, peerClose, reason⟩
  · have flowing := flows_of_run smooth.run flows
    obtain ⟨later, final, last, further, rfl, ends⟩ := catches_up tolerant calm yields flowing
    refine ⟨later, _, further, ?_, fun reason => solo_through.mpr (ends reason)⟩
    rw [List.flatMap_append]
    exact split.symm

namespace World

/-- A Ping, the first fragment of a text, a Ping that claims to be a fragment, and a Close
that comes too late. The bytes come in two parts. -/
def brokenPing : World :=
  solo { observers := [{}] }
    { phase := .opened
      stream := { reading := { cues :=
        [.data [0x89, 0x01, 0x07, 0x01, 0x01], .data [0x61, 0x09, 0x00, 0x88, 0x00]] } } }
    ((Task.receive [] { limits := {} }).script { observers := [{}] })

def brokenPingPlayed : History × World := play (List.replicate 41 0) ([], brokenPing)

theorem session_ends_with_broken_ping :
    brokenPingPlayed.2.hub.phase = .closed ∧
      brokenPingPlayed.1.flatMap Happening.outputs = Setup.outputs { observers := [{}] } 0
        [.tells (.ping [7]), .sends (.pong [7]), .sends (.close (some 1002) "protocol error"),
          .tells .closed] ∧
      ∃ later final, brokenPing.Smooth later final ∧ final.IsThrough := by
  have calm : ∀ observer ∈ [({} : Observer)], ∀ event, observer.cancels event = false := by
    intro observer member event
    obtain rfl := List.mem_singleton.mp member
    rfl
  have idle : brokenPing.hub.ground.IsIdle := ⟨rfl, rfl, rfl, rfl, rfl⟩
  have smooth : brokenPing.Smooth brokenPingPlayed.1 brokenPingPlayed.2 :=
    ⟨run_in_of_play _ .refl, by decide⟩
  have alone : brokenPingPlayed.2.actors = [⟨.done none, false⟩] := rfl
  have course : (Course.ofBytes {} none
      [0x89, 0x01, 0x07, 0x01, 0x01, 0x61, 0x09, 0x00, 0x88, 0x00]).deeds true =
        [.tells (.ping [7]), .sends (.pong [7]), .sends (.close (some 1002) "protocol error"),
          .tells .closed] := by
    decide +kernel
  have empty : ({} : Side).Flows := ⟨nofun, rfl, nofun⟩
  obtain ⟨-, -, whole, -⟩ := session_ends _ _ [] rfl calm idle smooth
  obtain ⟨-, -, -, leads⟩ := session_ends _ _ [] rfl calm idle (.refl brokenPing)
  obtain ⟨outputs, closed, -⟩ := whole (through_of_one alone rfl)
  obtain ⟨later, final, further, -, ends⟩ := leads ⟨empty, empty⟩
  exact ⟨closed, outputs.trans (congrArg (Setup.outputs _ 0) course), later, final, further,
    ends (.inr rfl)⟩

end World

end WebSocket
