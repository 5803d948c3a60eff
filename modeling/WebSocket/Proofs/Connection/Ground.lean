import WebSocket.Proofs.Connection.Session
import WebSocket.Proofs.Connection.Undisturbed
import WebSocket.Proofs.Gate.Accounts
import WebSocket.Proofs.Transport.Works

/-!
What an actor stands on that is alone with a connection. Of the hub only that counts
which its actions can tell from the answers; the time, the pace of the stream and the
journal are left out. A successful action leads from one ground to another.
-/

namespace WebSocket

inductive Output where
  | told (observer : Nat) (event : Event)
  | wrote (byte : Byte)
  deriving DecidableEq

def Happening.outputs : Happening → List Output
  | ⟨_, .tell observer event, some _⟩ => [.told observer event]
  | other => other.wrote.map .wrote

/-- What a stream still brings: bytes, and behind them its end or nothing at all. -/
structure Inflow where
  bytes : Bytes
  ends : Bool
  deriving DecidableEq, Repr

namespace Side

/-- What the cues of a reading side bring. A stream that fails has come to its end. -/
def bring (idles : Bool) : List Cue → Inflow
  | [] => ⟨[], !idles⟩
  | .wait _ :: rest => bring idles rest
  | .hang :: _ => ⟨[], false⟩
  | .data (first :: more) :: rest =>
      ⟨first :: more ++ (bring idles rest).bytes, (bring idles rest).ends⟩
  | _ :: _ => ⟨[], true⟩

def inflow (side : Side) : Inflow := bring side.idles side.cues

theorem inflow_of_waiting {side next : Side} {now : Nat} (turned : side.turn now = .waiting next) :
    next.inflow = side.inflow := by
  obtain ⟨milliseconds, rest, cues, remaining, idles⟩ := waiting_of_turn turned
  rw [inflow, inflow, remaining, idles, cues]
  rfl

theorem inflow_of_plays {side next : Side} {now : Nat} {cue : Option Cue}
    (turned : side.turn now = .plays cue next) :
    (∃ first more, cue = some (.data (first :: more)) ∧
        side.inflow = ⟨first :: more ++ next.inflow.bytes, next.inflow.ends⟩) ∨
      (∀ first more, cue ≠ some (.data (first :: more))) ∧ side.inflow = ⟨[], true⟩ := by
  unfold turn at turned
  split at turned
  · cases turned
  · split at turned
    · rename_i cues
      split at turned
      · cases turned
      · rename_i idles
        cases turned
        refine .inr ⟨nofun, ?_⟩
        rw [inflow, cues, bring]
        simpa using idles
    · cases turned
    · cases turned
    · rename_i failure rest cues
      cases turned
      exact .inr ⟨nofun, by rw [inflow, cues]; rfl⟩
    · rename_i played rest notWait notHang notBroken cues
      cases turned
      cases played with
      | wait milliseconds => exact absurd rfl (notWait milliseconds)
      | hang => exact absurd rfl notHang
      | data bytes =>
          cases bytes with
          | nil => exact .inr ⟨nofun, by rw [inflow, cues]; rfl⟩
          | cons first more => exact .inl ⟨first, more, rfl, by rw [inflow, cues]; rfl⟩
      | _ => exact .inr ⟨nofun, by rw [inflow, cues]; rfl⟩

end Side

structure Ground where
  phase : Phase
  isCancelled : Bool
  closeClaimed : Bool
  peerClose : Option CloseFrame
  hasWriter : Bool
  gate : Lock
  keysDrawn : Nat
  inflow : Inflow
  deriving DecidableEq, Repr

def Hub.ground (hub : Hub) : Ground :=
  ⟨hub.phase, hub.isCancelled, hub.closeClaimed, hub.peerClose, hub.hasWriter, hub.gate,
    hub.keysDrawn, hub.stream.reading.inflow⟩

/-- Where an action leads with an answer, if it is no trouble and no observer cancels
the token. -/
def Action.Leads (setup : Setup) (ground : Ground) : (action : Action) → action.Reply → Ground → Prop
  | readPhase, reply, after => reply = ground.phase ∧ after = ground
  | movePhase source target, reply, after =>
      reply = decide (ground.phase = source) ∧
        after = { ground with phase := if ground.phase = source then target else ground.phase }
  | closePhase, reply, after => reply = ground.phase ∧ after = { ground with phase := .closed }
  | claimClose, reply, after =>
      reply = !ground.closeClaimed ∧ after = { ground with closeClaimed := true }
  | recordPeerClose frame, _, after => after = { ground with peerClose := frame }
  | readToken, reply, after => reply = ground.isCancelled ∧ after = ground
  | cancelToken, _, after => after = { ground with isCancelled := true }
  | queueForGate _, _, after => after = { ground with gate := ground.gate.join 0 }
  | enterGate, reply, after =>
      reply = ground.hasWriter ∧ after = { ground with gate := ground.gate.enter 0 }
  | leaveGate, _, after => after = { ground with gate := ground.gate.leave }
  | takeWriter, _, after => after = { ground with hasWriter := false }
  | write .., reply, after => (∃ count, reply = .done (count + 1)) ∧ after = ground
  | flush _, reply, after => reply = .done 0 ∧ after = ground
  | sleep .., reply, after => reply = true ∧ after = ground
  | drawKey, reply, after =>
      reply = setup.maskKey ground.keysDrawn ∧
        after = { ground with keysDrawn := ground.keysDrawn + 1 }
  | read room _ _, .data bytes, after =>
      (0 < room → bytes ≠ []) ∧ ∃ left, ground.inflow.bytes = bytes ++ left ∧
        after = { ground with inflow := ⟨left, ground.inflow.ends⟩ }
  | read .., .timedOut, after => after = ground
  | read _ _ isCancellable, .cancelled, after =>
      isCancellable = true ∧ ground.isCancelled = true ∧ after = ground
  | read .., _, after =>
      ground.inflow = ⟨[], true⟩ ∧ ∃ inflow, after = { ground with inflow }
  | _, _, after => after = ground

theorem Hub.ground_tell {hub : Hub} {observers : Observers}
    (calm : ∀ observer ∈ observers, ∀ event, observer.cancels event = false) (index : Nat)
    (event : Event) : (hub.tell observers index event).ground = hub.ground := by
  unfold Hub.tell
  split
  · rfl
  · rename_i observer found
    rw [calm observer (List.mem_of_getElem? found) event, Bool.and_false, Bool.or_false]
    dsimp only
    split <;> rfl

theorem Hub.ground_transfer {hub : Hub} {side : Side} {deadline : Nat}
    {store : Stream → Side → Stream} {play : Stream → Option Cue → Transfer × Stream}
    {effect : Effect Transfer} (member : effect ∈ hub.transfer side deadline store play)
    (stores : ∀ stream side, (store stream side).reading = stream.reading)
    (plays : ∀ stream cue, (play stream cue).2.reading = stream.reading) :
    effect.hub.ground = hub.ground ∧
      ∀ result, effect.reply = some result → result.status = .success →
        ∃ stream cue, result = (play stream cue).1 := by
  unfold Hub.transfer at member
  split at member
  · split at member
    · obtain rfl := List.mem_singleton.mp member
      refine ⟨rfl, fun result told success => ?_⟩
      cases told
      cases success
    · cases member
  · obtain rfl := List.mem_singleton.mp member
    exact ⟨congrArg (fun side : Side => { hub.ground with inflow := side.inflow }) (stores _ _), nofun⟩
  · obtain rfl := List.mem_singleton.mp member
    refine ⟨?_, fun result told _ => ⟨_, _, (Option.some.inj told).symm⟩⟩
    exact congrArg (fun side : Side => { hub.ground with inflow := side.inflow })
      ((plays _ _).trans (stores _ _))

theorem Stream.inflow_of_read (stream : Stream) (first : Byte) (more : Bytes) (room : Nat) :
    ∃ bytes left, (stream.read (some (.data (first :: more))) room).1 = .data bytes ∧
      (0 < room → bytes ≠ []) ∧
      first :: more ++ stream.reading.inflow.bytes = bytes ++ left ∧
      (stream.read (some (.data (first :: more))) room).2.reading.inflow =
        ⟨left, stream.reading.inflow.ends⟩ := by
  by_cases fitting : (first :: more).length ≤ room
  · simp only [Stream.read, if_pos fitting]
    exact ⟨first :: more, stream.reading.inflow.bytes, rfl, fun _ => List.cons_ne_nil _ _, rfl, rfl⟩
  · simp only [Stream.read, if_neg fitting]
    have remains : (first :: more).drop room ≠ [] := by
      intro empty
      have lengths := congrArg List.length empty
      rw [List.length_drop, List.length_nil] at lengths
      omega
    obtain ⟨next, others, shape⟩ := List.exists_cons_of_ne_nil remains
    refine ⟨(first :: more).take room, (first :: more).drop room ++ stream.reading.inflow.bytes, rfl,
      fun roomy empty => ?_, ?_, ?_⟩
    · have lengths := congrArg List.length empty
      rw [List.length_take, List.length_nil, List.length_cons] at lengths
      omega
    · rw [← List.append_assoc, List.take_append_drop]
    · rw [Side.inflow, shape]
      rfl

theorem Stream.read_ends (stream : Stream) {cue : Option Cue} (room : Nat)
    (empty : ∀ first more, cue ≠ some (.data (first :: more))) :
    (stream.read cue room).1 = .ended ∧ (stream.read cue room).2 = stream ∨
      ∃ failure, (stream.read cue room).1 = .failed failure ∧ (stream.read cue room).2 = stream := by
  unfold Stream.read
  split
  · exact .inr ⟨_, rfl, rfl⟩
  · exact absurd rfl (empty _ _)
  · exact .inl ⟨rfl, rfl⟩

theorem Hub.leads_of_receive {setup : Setup} {hub : Hub} {room deadline : Nat} {isCancellable : Bool}
    {effect : Effect Reading} (member : effect ∈ hub.receive room deadline) :
    (effect.reply = none → effect.hub.ground = hub.ground) ∧
      ∀ reply, effect.reply = some reply →
        (Action.read room deadline isCancellable).Leads setup hub.ground reply effect.hub.ground := by
  unfold Hub.receive at member
  split at member
  · split at member
    · obtain rfl := List.mem_singleton.mp member
      refine ⟨nofun, fun reply told => ?_⟩
      cases told
      exact rfl
    · cases member
  · rename_i side turned
    obtain rfl := List.mem_singleton.mp member
    refine ⟨fun _ => ?_, nofun⟩
    exact congrArg (fun inflow => { hub.ground with inflow }) (Side.inflow_of_waiting turned)
  · rename_i cue side turned
    obtain rfl := List.mem_singleton.mp member
    refine ⟨nofun, fun reply told => ?_⟩
    let stream := { hub.stream with reading := side }
    have leads : (Action.read room deadline isCancellable).Leads setup hub.ground (stream.read cue room).1
        { hub.ground with inflow := (stream.read cue room).2.reading.inflow } := by
      rcases Side.inflow_of_plays turned with ⟨first, more, rfl, inflow⟩ | ⟨empty, ended⟩
      · obtain ⟨bytes, left, taken, nonempty, joined, after⟩ := stream.inflow_of_read first more room
        have ends : hub.ground.inflow.ends = stream.reading.inflow.ends := by
          rw [Hub.ground, inflow]
        rw [taken, after, ← ends]
        exact ⟨nonempty, left, (congrArg Inflow.bytes inflow).trans joined, rfl⟩
      · rcases stream.read_ends room empty with ⟨answer, after⟩ | ⟨failure, answer, after⟩
        · rw [answer, after]
          exact ⟨ended, side.inflow, rfl⟩
        · rw [answer, after]
          exact ⟨ended, side.inflow, rfl⟩
    exact Option.some.inj told ▸ leads

theorem Stream.taken_of_success {stream : Stream} {cue : Option Cue} {bytes : Bytes}
    (success : (stream.write cue bytes).1.status = .success) :
    ∃ count, (stream.write cue bytes).1 = .done (count + 1) := by
  unfold Stream.write at success ⊢
  split at success
  · obtain ⟨count, absurd⟩ := Transfer.done_of_success success
    cases absurd
  · cases success
  · rename_i count positive _
    exact ⟨count - 1, congrArg Transfer.done (Nat.succ_pred_eq_of_ne_zero positive).symm⟩

theorem Stream.flushed_of_success {stream : Stream} {cue : Option Cue}
    (success : (stream.flush cue).1.status = .success) : (stream.flush cue).1 = .done 0 := by
  unfold Stream.flush at success ⊢
  split at success
  · obtain ⟨count, absurd⟩ := Transfer.done_of_success success
    cases absurd
  · rfl

theorem Action.leads_of_reply {setup : Setup} {hub : Hub} (action : Action)
    {effect : Effect action.Reply} {reply : action.Reply} (given : effect.reply = some reply)
    (leads : action.Leads setup hub.ground reply effect.hub.ground) :
    (effect.reply = none → effect.hub.ground = hub.ground) ∧
      ∀ reply, effect.reply = some reply → action.Leads setup hub.ground reply effect.hub.ground :=
  ⟨fun silent => absurd (given.symm.trans silent) (Option.some_ne_none reply),
    fun _ told => Option.some.inj (given.symm.trans told) ▸ leads⟩

/-- An action that is no trouble leads from the ground of the hub to that of its effect. -/
theorem Action.leads_of_effect {setup : Setup} {action : Action} {hub : Hub}
    {effect : Effect action.Reply}
    (calm : ∀ observer ∈ setup.observers, ∀ event, observer.cancels event = false)
    (member : effect ∈ action.effects setup 0 hub)
    (fine : Happening.isTrouble ⟨0, action, effect.reply⟩ = false) :
    (effect.reply = none → effect.hub.ground = hub.ground) ∧
      ∀ reply, effect.reply = some reply → action.Leads setup hub.ground reply effect.hub.ground := by
  cases action with
  | tell observer event =>
      obtain rfl := List.mem_singleton.mp member
      refine leads_of_reply (.tell observer event) rfl ?_
      exact Hub.ground_tell calm observer event
  | write bytes deadline =>
      simp only [effects] at member
      obtain ⟨same, played⟩ := Hub.ground_transfer member (fun _ _ => rfl) fun stream cue => by
        unfold Stream.write
        split <;> rfl
      refine ⟨fun _ => same, fun reply told => ⟨?_, same⟩⟩
      rw [told] at fine
      have success : reply.status = .success := by simpa [Happening.isTrouble] using fine
      obtain ⟨stream, cue, rfl⟩ := played reply told success
      exact Stream.taken_of_success success
  | flush deadline =>
      simp only [effects] at member
      obtain ⟨same, played⟩ := Hub.ground_transfer member (fun _ _ => rfl) fun stream cue => by
        unfold Stream.flush
        split <;> rfl
      refine ⟨fun _ => same, fun reply told => ⟨?_, same⟩⟩
      rw [told] at fine
      have success : reply.status = .success := by simpa [Happening.isTrouble] using fine
      obtain ⟨stream, cue, rfl⟩ := played reply told success
      exact Stream.flushed_of_success success
  | shutdown deadline =>
      simp only [effects] at member
      obtain ⟨same, -⟩ := Hub.ground_transfer member (fun _ _ => rfl) fun stream cue => by
        unfold Stream.shutdown
        split <;> rfl
      exact ⟨fun _ => same, fun _ _ => same⟩
  | read room deadline isCancellable =>
      simp only [effects] at member
      rcases List.mem_append.mp member with cancelled | member
      · split at cancelled
        · rename_i both
          obtain rfl := List.mem_singleton.mp cancelled
          have apart := Bool.and_eq_true_iff.mp both
          refine leads_of_reply (.read room deadline isCancellable) rfl ?_
          exact ⟨apart.1, apart.2, rfl⟩
        · cases cancelled
      · exact Hub.leads_of_receive member
  | movePhase source target =>
      simp only [effects, Hub.answer] at member
      split at member
      · rename_i there
        obtain rfl := List.mem_singleton.mp member
        refine leads_of_reply (.movePhase source target) rfl ?_
        exact ⟨(decide_eq_true there).symm, by simp [Hub.ground, there]⟩
      · rename_i elsewhere
        obtain rfl := List.mem_singleton.mp member
        refine leads_of_reply (.movePhase source target) rfl ?_
        exact ⟨(decide_eq_false elsewhere).symm, by simp [Hub.ground, elsewhere]⟩
  | enterGate =>
      simp only [effects, Hub.answer] at member
      split at member
      · obtain rfl := List.mem_singleton.mp member
        refine leads_of_reply .enterGate rfl ?_
        exact ⟨rfl, rfl⟩
      · cases member
  | sleep till deadline =>
      have asleep : effect.hub = hub ∧ effect.reply.isSome := by
        simp only [effects, Hub.answer] at member
        grind
      refine ⟨fun silent => ?_, fun reply told => ⟨?_, congrArg Hub.ground asleep.1⟩⟩
      · rw [silent] at asleep
        cases asleep.2
      · rw [told] at fine
        simpa [Happening.isTrouble] using fine
  | readPhase | closePhase | claimClose | readToken | drawKey =>
      obtain rfl := List.mem_singleton.mp member
      refine leads_of_reply _ rfl ?_
      exact ⟨rfl, rfl⟩
  | awaitClosed | awaitTick | enterGuard | attachScheduler =>
      have same : effect.hub.ground = hub.ground := by
        simp only [effects, Hub.answer, Hub.updateScheduler] at member
        grind [Hub.ground]
      exact ⟨fun _ => same, fun _ _ => same⟩
  | _ =>
      obtain rfl := List.mem_singleton.mp member
      refine leads_of_reply _ rfl ?_
      exact rfl

end WebSocket
