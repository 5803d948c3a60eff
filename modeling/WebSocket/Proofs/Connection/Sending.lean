import WebSocket.Proofs.Connection.Undisturbed
import WebSocket.Proofs.Transport.Works

/-!
Telling observers and sending frames while the connection is open and nobody
else is about. Over a stream whose writes do not fail, a send ends with the gate
free again and with a status that is not fatal.
-/

namespace WebSocket

abbrev Delivery := Nat × Event × Phase

/-- What an observer was told, but for the frames that were sent. -/
def Entry.delivery? : Entry → Option Delivery
  | told _ (.frameSent _) _ => none
  | told observer event phase => some (observer, event, phase)
  | reported .. => none

def Hub.deliveries (hub : Hub) : List Delivery := hub.journal.filterMap Entry.delivery?

def tellings (indices : List Nat) (event : Event) : List Delivery :=
  indices.filterMap fun index => (Entry.told index event .opened).delivery?

def Action.isRead : Action → Bool
  | read .. => true
  | _ => false

/-- An open connection with all that it needs, where nobody but the receive loop
is at the gate. -/
structure Steady (gate : Lock) (reading : Side) (heard : List Delivery) (hub : Hub) : Prop where
  opened : hub.phase = .opened
  live : hub.isCancelled = false
  hasWriter : hub.hasWriter = true
  gate : hub.gate = gate
  writes : hub.stream.writing.Works
  flushes : hub.stream.flushing.Works
  reading : hub.stream.reading = reading
  heard : hub.deliveries = heard

/-- The connection is open, what was told is a beginning of what is to be told,
and it is all of it whenever there is nothing more to read. -/
def Delivering (total : List Delivery) (action : Action) (hub : Hub) : Prop :=
  hub.phase = .opened ∧ hub.deliveries <+: total ∧
    (action.isRead → hub.stream.reading.cues = [] → hub.deliveries = total)

theorem Steady.after {gate : Lock} {reading : Side} {heard : List Delivery} {hub : Hub}
    (steady : Steady gate reading heard hub) (time : Nat) :
    Steady gate reading heard (hub.after time) :=
  ⟨steady.opened, steady.live, steady.hasWriter, steady.gate, steady.writes, steady.flushes,
    steady.reading, steady.heard⟩

theorem Steady.pass {gate next : Lock} {reading : Side} {heard : List Delivery} {hub : Hub}
    (steady : Steady gate reading heard hub) :
    Steady next reading heard { hub with gate := next } :=
  ⟨steady.opened, steady.live, steady.hasWriter, rfl, steady.writes, steady.flushes,
    steady.reading, steady.heard⟩

theorem Steady.delivering {gate : Lock} {reading : Side} {total heard : List Delivery} {hub : Hub}
    {action : Action} (steady : Steady gate reading heard hub) (upTo : heard <+: total)
    (still : action.isRead = false) : Delivering total action hub := by
  refine ⟨steady.opened, steady.heard.symm ▸ upTo, fun isRead => ?_⟩
  rw [still] at isRead
  cases isRead

namespace Script

variable {setup : Setup} {action : Action}

/-- An action on one side of the stream has an answer ahead of it: either the
side plays a cue some time, or the deadline comes while the side is blocked. -/
theorem answered_of_turn (side : Hub → Side) (deadline : Nat)
    (kept : ∀ hub time, side (hub.after time) = side hub)
    (blocked : ∀ hub, (side hub).turn hub.now = .blocked → deadline ≤ hub.now →
      ∃ effect ∈ action.effects setup 0 hub, effect.reply.isSome)
    (waits : ∀ hub next, (side hub).turn hub.now = .waiting next →
      ∃ effect ∈ action.effects setup 0 hub,
        effect.reply = none ∧ effect.spawned = [] ∧ side effect.hub = next)
    (plays : ∀ hub cue next, (side hub).turn hub.now = .plays cue next →
      ∃ effect ∈ action.effects setup 0 hub, effect.reply.isSome)
    (hub : Hub) : Answered setup action hub := by
  -- on the cues that are left: each wait uses one up
  induction left : (side hub).cues.length using Nat.strongRecOn generalizing hub with
  | ind count induction =>
      apply Answered.of_waiting (waiting_after setup action hub (deadline - hub.now))
      have late : deadline ≤ (hub.after (deadline - hub.now)).now := by
        simp only [Hub.after]
        omega
      cases turned : (side (hub.after (deadline - hub.now))).turn
          (hub.after (deadline - hub.now)).now with
      | blocked => exact ⟨_, .refl, blocked _ turned late⟩
      | plays cue next => exact ⟨_, .refl, plays _ cue next turned⟩
      | waiting next =>
          obtain ⟨effect, member, silent, alone, same⟩ := waits _ next turned
          obtain ⟨_, rest, cues, remaining, _⟩ := Side.waiting_of_turn turned
          rw [kept] at cues
          refine Answered.of_waiting (Waiting.refl.further member silent alone)
            (induction rest.length ?_ _ (by rw [same, remaining]))
          rw [← left, cues]
          exact Nat.lt_succ_self _

end Script

def Action.IsOnStream : Action → Prop
  | write .. | flush _ | shutdown _ | read _ _ false => True
  | _ => False

theorem Hub.transfer_turns (side : Hub → Side) (deadline : Nat) (store : Stream → Side → Stream)
    (play : Stream → Option Cue → Transfer × Stream)
    (stored : ∀ (hub : Hub) (next : Side), side { hub with stream := store hub.stream next } = next) :
    (∀ hub, (side hub).turn hub.now = .blocked → deadline ≤ hub.now →
      ∃ effect ∈ hub.transfer (side hub) deadline store play, effect.reply.isSome) ∧
    (∀ hub next, (side hub).turn hub.now = .waiting next →
      ∃ effect ∈ hub.transfer (side hub) deadline store play,
        effect.reply = none ∧ effect.spawned = [] ∧ side effect.hub = next) ∧
    ∀ hub cue next, (side hub).turn hub.now = .plays cue next →
      ∃ effect ∈ hub.transfer (side hub) deadline store play, effect.reply.isSome := by
  refine ⟨fun hub turned late => ?_, fun hub next turned => ?_, fun hub cue next turned => ?_⟩
  · simp [transfer, turned, late, answer]
  · simp [transfer, turned, stored]
  · simp [transfer, turned, answer]

theorem Action.answered_on_stream (action : Action) (onStream : action.IsOnStream) (setup : Setup)
    (hub : Hub) : Script.Answered setup action hub := by
  cases action with
  | write bytes deadline =>
      obtain ⟨late, waits, plays⟩ := Hub.transfer_turns (·.stream.writing) deadline
        (fun stream side => { stream with writing := side }) (fun stream cue => stream.write cue bytes)
        fun _ _ => rfl
      refine Script.answered_of_turn (·.stream.writing) deadline (fun _ _ => rfl) ?_ ?_ ?_ hub
      · exact late
      · exact waits
      · exact plays
  | flush deadline =>
      obtain ⟨late, waits, plays⟩ := Hub.transfer_turns (·.stream.flushing) deadline
        (fun stream side => { stream with flushing := side }) Stream.flush fun _ _ => rfl
      refine Script.answered_of_turn (·.stream.flushing) deadline (fun _ _ => rfl) ?_ ?_ ?_ hub
      · exact late
      · exact waits
      · exact plays
  | shutdown deadline =>
      obtain ⟨late, waits, plays⟩ := Hub.transfer_turns (·.stream.closing) deadline
        (fun stream side => { stream with closing := side }) Stream.shutdown fun _ _ => rfl
      refine Script.answered_of_turn (·.stream.closing) deadline (fun _ _ => rfl) ?_ ?_ ?_ hub
      · exact late
      · exact waits
      · exact plays
  | read room deadline isCancellable =>
      cases isCancellable with
      | true => exact onStream.elim
      | false =>
          apply Script.answered_of_turn (·.stream.reading) deadline (fun _ _ => rfl)
          · intro hub turned late
            simp [effects, Hub.receive, turned, late, Hub.answer]
          · intro hub next turned
            simp [effects, Hub.receive, turned]
          · intro hub cue next turned
            simp [effects, Hub.receive, turned, Hub.answer]
  | _ => exact onStream.elim

namespace Connection

open Script

variable {setup : Setup} {total heard : List Delivery} {gate : Lock} {reading : Side} {hub : Hub}

theorem safe_instant {Result : Type} {post : Result → Hub → Prop} {action : Action}
    {next : action.Reply → Script Result} (upTo : heard <+: total) (still : action.isRead = false)
    (steady : Steady gate reading heard hub)
    (answer : ∀ now, Steady gate reading heard now → ∃ reply later,
      action.effects setup 0 now = [⟨later, some reply, []⟩] ∧
        (next reply).Safe setup (Delivering total) post later) :
    (act action next).Safe setup (Delivering total) post hub :=
  safe_answer (Steady gate reading heard) steady (fun _ held => held.after 1)
    (fun _ held => held.delivering upTo still) answer

theorem safe_is_open (upTo : heard <+: total) (steady : Steady gate reading heard hub) :
    isOpen.Safe setup (Delivering total)
      (fun isOpen now => isOpen = true ∧ Steady gate reading heard now) hub := by
  apply safe_instant upTo rfl steady
  intro now held
  refine ⟨_, now, rfl, ?_⟩
  exact ⟨by rw [held.opened]; rfl, held⟩

theorem steady_tell {observers : Observers} {index : Nat} {event : Event}
    (calm : ∀ observer ∈ observers, observer.cancels event = false) (known : index < observers.length)
    (steady : Steady gate reading heard hub) :
    Steady gate reading (heard ++ tellings [index] event) (hub.tell observers index event) := by
  obtain ⟨observer, found⟩ : ∃ observer, observers[index]? = some observer :=
    ⟨_, List.getElem?_eq_getElem known⟩
  have quiet := calm observer (List.mem_of_getElem? found)
  have entry : (Entry.told index event hub.phase).delivery?.toList = tellings [index] event := by
    rw [steady.opened]
    cases delivered : (Entry.told index event .opened).delivery? <;> simp [tellings, delivered]
  have told : (hub.log (.told index event hub.phase)).deliveries =
      heard ++ tellings [index] event := by
    rw [← steady.heard, ← entry, Hub.deliveries, Hub.log, List.filterMap_append]
    rfl
  rw [Hub.tell, found]
  dsimp only
  rw [quiet, Bool.and_false, Bool.or_false]
  split
  all_goals
    exact ⟨steady.opened, steady.live, steady.hasWriter, steady.gate, steady.writes,
      steady.flushes, steady.reading, told⟩

theorem safe_notify {event : Event}
    (calm : ∀ observer ∈ setup.observers, observer.cancels event = false)
    (upTo : heard ++ tellings (List.range setup.observers.length) event <+: total)
    (steady : Steady gate reading heard hub) :
    (notify setup event).Safe setup (Delivering total)
      (fun _ now =>
        Steady gate reading (heard ++ tellings (List.range setup.observers.length) event) now)
      hub := by
  unfold notify
  have known : ∀ index ∈ List.range setup.observers.length, index < setup.observers.length :=
    fun _ member => List.mem_range.mp member
  generalize List.range setup.observers.length = indices at upTo known ⊢
  induction indices generalizing heard hub with
  | nil => exact (List.append_nil heard).symm ▸ steady
  | cons index rest induction =>
      have split : tellings (index :: rest) event = tellings [index] event ++ tellings rest event := by
        rw [tellings, tellings, tellings, ← List.filterMap_append]
        rfl
      rw [split, ← List.append_assoc] at upTo ⊢
      have before : heard <+: total :=
        ((List.prefix_append _ _).trans (List.prefix_append _ _)).trans upTo
      apply safe_instant before rfl steady
      intro now held
      refine ⟨_, _, rfl, ?_⟩
      exact induction (steady_tell calm (known index List.mem_cons_self) held) upTo
        fun index member => known index (List.mem_cons_of_mem _ member)

theorem steady_transfer {side : Side} {deadline : Nat} {store : Stream → Side → Stream}
    {play : Stream → Option Cue → Transfer × Stream} {effect : Effect Transfer}
    (steady : Steady gate reading heard hub) (works : side.Works)
    (stored : ∀ next, next.Works →
      Steady gate reading heard { hub with stream := store hub.stream next })
    (played : ∀ cue next stream, store hub.stream next = stream → next.Works →
      (∀ played, cue = some played → played.isFailing = false) →
      (play stream cue).1.status ≠ .fatalError ∧
        Steady gate reading heard { hub with stream := (play stream cue).2 })
    (member : effect ∈ hub.transfer side deadline store play) :
    effect.spawned = [] ∧ (effect.reply = none → Steady gate reading heard effect.hub) ∧
      ∀ reply, effect.reply = some reply →
        reply.status ≠ .fatalError ∧ Steady gate reading heard effect.hub := by
  unfold Hub.transfer at member
  split at member
  · split at member
    · obtain rfl := List.mem_singleton.mp member
      refine ⟨rfl, (nomatch ·), fun reply told => ?_⟩
      cases told
      exact ⟨by decide, steady⟩
    · cases member
  · rename_i next turned
    obtain rfl := List.mem_singleton.mp member
    exact ⟨rfl, fun _ => stored next (Side.works_of_waiting works turned), fun _ => (nomatch ·)⟩
  · rename_i cue next turned
    obtain ⟨kept, fine⟩ := Side.works_of_plays works turned
    obtain rfl := List.mem_singleton.mp member
    refine ⟨rfl, (nomatch ·), fun reply told => ?_⟩
    cases told
    exact played cue next _ rfl kept fine

/-- How a transfer ends on a stream that works: in time or late, but not fatally. -/
def Sent (gate : Lock) (reading : Side) (heard : List Delivery) (result : Transfer) (hub : Hub) :
    Prop :=
  result.status ≠ .fatalError ∧ Steady gate reading heard hub

theorem steady_written {bytes : Bytes} {deadline : Nat} {effect : Effect Transfer}
    (steady : Steady gate reading heard hub) (offered : bytes ≠ [])
    (member : effect ∈ (Action.write bytes deadline).effects setup 0 hub) :
    effect.spawned = [] ∧ (effect.reply = none → Steady gate reading heard effect.hub) ∧
      ∀ reply, effect.reply = some reply → Sent gate reading heard reply effect.hub := by
  simp only [Action.effects] at member
  refine steady_transfer steady steady.writes ?_ ?_ member
  · intro next works
    exact ⟨steady.opened, steady.live, steady.hasWriter, steady.gate, works, steady.flushes,
      steady.reading, steady.heard⟩
  · intro cue next stream stored works fine
    obtain ⟨count, written, taken⟩ := stream.write_works offered fine
    rw [taken]
    subst stored
    exact ⟨by simp [Transfer.status], steady.opened, steady.live, steady.hasWriter, steady.gate,
      works, steady.flushes, steady.reading, steady.heard⟩

theorem safe_write_all (upTo : heard <+: total) (deadline : Nat) (bytes : Bytes) (taken : Nat)
    (steady : Steady gate reading heard hub) :
    (Gate.writeAll deadline bytes taken).Safe setup (Delivering total)
      (Sent gate reading heard) hub := by
  induction bytes generalizing taken hub with
  | nil => exact ⟨by decide, steady⟩
  | cons byte rest induction =>
      cases taken with
      | succ taken => exact induction taken steady
      | zero =>
          refine ⟨Steady gate reading heard, steady, fun now held =>
            ⟨held.delivering upTo rfl, held.after 1,
              Action.answered_on_stream (.write (byte :: rest) deadline) trivial setup now,
              fun effect member => ?_⟩⟩
          obtain ⟨alone, silent, answer⟩ := steady_written held (List.cons_ne_nil _ _) member
          refine ⟨alone, silent, fun reply told => ?_⟩
          obtain ⟨fine, after⟩ := answer reply told
          cases reply with
          | done count => exact induction (count - 1) after
          | failed failure => exact ⟨fine, after⟩
          | timedOut => exact ⟨fine, after⟩

theorem safe_flush (upTo : heard <+: total) (deadline : Nat)
    (steady : Steady gate reading heard hub) :
    (Gate.flush deadline).Safe setup (Delivering total) (Sent gate reading heard) hub := by
  refine ⟨Steady gate reading heard, steady, fun now held =>
    ⟨held.delivering upTo rfl, held.after 1,
      Action.answered_on_stream (.flush deadline) trivial setup now, fun effect member => ?_⟩⟩
  simp only [Action.effects] at member
  refine steady_transfer held held.flushes ?_ ?_ member
  · intro next works
    exact ⟨held.opened, held.live, held.hasWriter, held.gate, held.writes, works, held.reading,
      held.heard⟩
  · intro cue next stream stored works fine
    obtain ⟨flushes, flushed⟩ := stream.flush_works fine
    rw [flushed]
    subst stored
    exact ⟨by simp [Transfer.status], held.opened, held.live, held.hasWriter, held.gate,
      held.writes, works, held.reading, held.heard⟩

theorem safe_then_transfer {first second : Script Transfer}
    (before : first.Safe setup (Delivering total) (Sent gate reading heard) hub)
    (behind : ∀ now, Steady gate reading heard now →
      second.Safe setup (Delivering total) (Sent gate reading heard) now) :
    (Gate.thenTransfer first second).Safe setup (Delivering total) (Sent gate reading heard) hub := by
  refine safe_bind (safe_mono ?_ before)
  intro result now sent
  cases result with
  | done count => exact behind now sent.2
  | failed failure => exact sent
  | timedOut => exact sent

theorem safe_pause (upTo : heard <+: total) (milliseconds deadline : Nat)
    (steady : Steady gate reading heard hub) :
    (Gate.pause milliseconds deadline).Safe setup (Delivering total) (Sent gate reading heard) hub := by
  apply safe_instant upTo rfl steady
  intro start began
  refine ⟨_, start, rfl, ?_⟩
  refine ⟨Steady gate reading heard, began, fun now held =>
    ⟨held.delivering upTo rfl, held.after 1, ?_, fun effect member => ?_⟩⟩
  · refine ⟨_, waiting_after setup _ now (start.now + milliseconds - now.now),
      ⟨now.after (start.now + milliseconds - now.now), some true, []⟩, ?_, rfl⟩
    have awake : start.now + milliseconds ≤
        (now.after (start.now + milliseconds - now.now)).now := by
      simp only [Hub.after]
      omega
    simp only [Action.effects, if_pos awake, Hub.answer]
    exact List.mem_singleton_self _
  · have asleep : effect.hub = now ∧ effect.spawned = [] ∧ effect.reply.isSome := by
      simp only [Action.effects, Hub.answer] at member
      split at member
      · obtain rfl := List.mem_singleton.mp member
        exact ⟨rfl, rfl, rfl⟩
      · split at member
        · obtain rfl := List.mem_singleton.mp member
          exact ⟨rfl, rfl, rfl⟩
        · cases member
    refine ⟨asleep.2.1, fun silent => ?_, fun inTime told => ?_⟩
    · rw [silent] at asleep
      exact absurd asleep.2.2 (by simp)
    · rw [asleep.1]
      cases inTime <;> exact ⟨by decide, held⟩

theorem safe_write_slowly (upTo : heard <+: total) (delay deadline : Nat) (bytes : Bytes)
    (steady : Steady gate reading heard hub) :
    (Gate.writeSlowly delay deadline bytes).Safe setup (Delivering total)
      (Sent gate reading heard) hub := by
  induction bytes generalizing hub with
  | nil => exact ⟨by decide, steady⟩
  | cons byte rest induction =>
      refine safe_then_transfer (safe_write_all upTo deadline [byte] 0 steady) fun _ written => ?_
      refine safe_then_transfer (safe_flush upTo deadline written) fun _ flushed => ?_
      exact safe_then_transfer (safe_pause upTo delay deadline flushed) fun _ paused =>
        induction paused

theorem safe_transfer_all (upTo : heard <+: total) (slowWrite : Option Nat) (deadline : Nat)
    (bytes : Bytes) (steady : Steady gate reading heard hub) :
    (Gate.transferAll slowWrite deadline bytes).Safe setup (Delivering total)
      (Sent gate reading heard) hub := by
  refine safe_then_transfer ?_ fun _ written => safe_flush upTo deadline written
  cases slowWrite with
  | none => exact safe_write_all upTo deadline bytes 0 steady
  | some delay => exact safe_write_slowly upTo delay deadline bytes steady

theorem safe_send (upTo : heard <+: total) (bytes : Bytes) (steady : Steady {} reading heard hub) :
    (Gate.send setup.config bytes).Safe setup (Delivering total)
      (fun status now => status ≠ .fatalError ∧ Steady {} reading heard now) hub := by
  apply safe_instant upTo rfl steady
  intro now free
  refine ⟨_, _, rfl, ?_⟩
  have queued : Steady ⟨none, [0]⟩ reading heard { now with gate := now.gate.join 0 } := by
    rw [free.gate]
    exact free.pass
  refine safe_instant upTo rfl queued fun now first =>
    ⟨true, { now with gate := now.gate.enter 0 }, ?_, ?_⟩
  · simp only [Action.effects, first.gate, first.hasWriter]
    rfl
  have inside : Steady ⟨some 0, []⟩ reading heard { now with gate := now.gate.enter 0 } := by
    rw [first.gate]
    exact first.pass
  apply safe_instant upTo rfl inside
  intro now entered
  refine ⟨_, now, rfl, ?_⟩
  change (Gate.transferAll _ _ _ >>= _).Safe _ _ _ _
  refine safe_bind (safe_mono ?_ (safe_transfer_all upTo setup.config.slowWrite
    (now.now + setup.config.timeouts.write) bytes entered))
  intro result now sent
  apply safe_instant upTo rfl sent.2
  intro now done
  refine ⟨_, _, rfl, sent.1, ?_⟩
  have left : now.gate.leave = {} := by
    rw [done.gate]
    rfl
  rw [left]
  exact done.pass

theorem safe_send_frame (upTo : heard <+: total) (frame : Frame)
    (steady : Steady {} reading heard hub) :
    (Gate.sendFrame setup.config frame).Safe setup (Delivering total)
      (fun status now => status ≠ .fatalError ∧ Steady {} reading heard now) hub := by
  apply safe_instant upTo rfl steady
  intro now held
  refine ⟨_, _, rfl, ?_⟩
  exact safe_send upTo _ ⟨held.opened, held.live, held.hasWriter, held.gate, held.writes,
    held.flushes, held.reading, held.heard⟩

theorem tellings_frame_sent (indices : List Nat) (frame : Frame) :
    tellings indices (.frameSent frame) = [] := by
  simp [tellings, Entry.delivery?]

theorem safe_transmit (calm : ∀ observer ∈ setup.observers, ∀ event, observer.cancels event = false)
    (upTo : heard <+: total) (frame : Frame) (steady : Steady {} reading heard hub) :
    (transmit setup frame).Safe setup (Delivering total)
      (fun status now => status ≠ .fatalError ∧ Steady {} reading heard now) hub := by
  refine safe_bind (safe_mono ?_ (safe_send_frame upTo frame steady))
  intro status now sent
  have unheard : heard ++ tellings (List.range setup.observers.length) (.frameSent frame) = heard := by
    rw [tellings_frame_sent, List.append_nil]
  cases success : status.isSuccess with
  | false => exact sent
  | true =>
      refine safe_bind (safe_mono ?_ (safe_notify (fun observer member => calm observer member _)
        (unheard.symm ▸ upTo) sent.2))
      intro _ now told
      rw [unheard] at told
      exact ⟨sent.1, told⟩

end Connection

end WebSocket
