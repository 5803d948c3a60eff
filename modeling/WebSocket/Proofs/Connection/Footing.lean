import WebSocket.Proofs.Connection.Yields

/-!
Runs of an actor that is alone with a stream, as far as nothing fails or comes too late.
What a script meets in all of them follows from what has been written, what is still to be
read and what has been reported; and where the stream lets things through and does bring
something, the script can be brought to its end.
-/

namespace WebSocket

def Happening.isFailure : Happening → Bool
  | ⟨_, .read .., some (.failed _)⟩ | ⟨_, .read .., some .timedOut⟩ => true
  | other => other.isTrouble

/-- What one actor's transfers and reads have come to. -/
structure Footing where
  written : Bytes
  inflow : Inflow
  report : Option Report

def Hub.footing (hub : Hub) : Footing :=
  ⟨hub.stream.written, hub.stream.reading.inflow, (⟨{}, hub, []⟩ : World).reportOf 0⟩

/-- The actions of somebody who writes, reads and reports, and needs nobody else. -/
def Action.isOwn : Action → Bool
  | readClock | write .. | flush _ | report .. => true
  | read _ _ isCancellable => !isCancellable
  | _ => false

def Action.Takes (footing : Footing) : (action : Action) → action.Reply → Footing → Prop
  | write bytes _, reply, after =>
      ∃ count, reply = .done (count + 1) ∧
        after = { footing with written := footing.written ++ bytes.take (count + 1) }
  | flush _, reply, after => reply = .done 0 ∧ after = footing
  | read room _ _, .data bytes, after =>
      (0 < room → bytes ≠ []) ∧ bytes.length ≤ room ∧
        ∃ left, footing.inflow.bytes = bytes ++ left ∧
          after = { footing with inflow := ⟨left, footing.inflow.ends⟩ }
  | read .., reply, after =>
      reply = .ended ∧ footing.inflow = ⟨[], true⟩ ∧ ∃ inflow, after = { footing with inflow }
  | report id content, _, after =>
      after = { footing with report := if id = 0 then some content else footing.report }
  | _, _, after => after = footing

namespace Script

variable {Result Other : Type}

/-- Whatever the answers are, `during` holds at every action, and `post` at the end. -/
def Meets (during : Action → Footing → Prop) (post : Result → Footing → Prop) :
    Script Result → Footing → Prop
  | done result, footing => post result footing
  | act action next, footing =>
      during action footing ∧
        ∀ reply after, action.Takes footing reply after → Meets during post (next reply) after

theorem Meets.bind {during : Action → Footing → Prop} {post : Other → Footing → Prop}
    {script : Script Result} {next : Result → Script Other} {footing : Footing}
    (meets : script.Meets during (fun result => (next result).Meets during post) footing) :
    (script.bind next).Meets during post footing := by
  induction script generalizing footing with
  | done result => exact meets
  | act action rest induction =>
      obtain ⟨holds, further⟩ := meets
      exact ⟨holds, fun reply after takes => induction reply (further reply after takes)⟩

end Script

theorem Stream.read_within_room (stream : Stream) (cue : Option Cue) (room : Nat) {bytes : Bytes}
    (read : (stream.read cue room).1 = .data bytes) : bytes.length ≤ room := by
  unfold Stream.read at read
  split at read
  · cases read
  · dsimp only at read
    split at read
    · rename_i fits
      cases read
      exact fits
    · cases read
      exact List.length_take_le ..
  · cases read

section

variable {hub : Hub} {room deadline : Nat}

theorem Hub.stream_of_receive {effect : Effect Reading} (member : effect ∈ hub.receive room deadline) :
    (∃ stream, effect.hub = { hub with stream }) ∧
      ∀ bytes, effect.reply = some (.data bytes) → bytes.length ≤ room := by
  unfold Hub.receive at member
  split at member
  · split at member
    · obtain rfl := List.mem_singleton.mp member
      exact ⟨⟨hub.stream, rfl⟩, nofun⟩
    · cases member
  · obtain rfl := List.mem_singleton.mp member
    exact ⟨⟨_, rfl⟩, nofun⟩
  · obtain rfl := List.mem_singleton.mp member
    exact ⟨⟨_, rfl⟩, fun bytes told => Stream.read_within_room _ _ _ (Option.some.inj told)⟩

theorem Hub.stream_of_transfer {side : Side} {store : Stream → Side → Stream}
    {play : Stream → Option Cue → Transfer × Stream} {effect : Effect Transfer}
    (member : effect ∈ hub.transfer side deadline store play)
    (stores : ∀ stream side, (store stream side).reading = stream.reading)
    (plays : ∀ stream cue, (play stream cue).2.reading = stream.reading) :
    ∃ stream, effect.hub = { hub with stream } ∧ stream.reading = hub.stream.reading := by
  unfold Hub.transfer at member
  split at member
  · split at member
    · obtain rfl := List.mem_singleton.mp member
      exact ⟨hub.stream, rfl, rfl⟩
    · cases member
  · obtain rfl := List.mem_singleton.mp member
    exact ⟨_, rfl, stores _ _⟩
  · obtain rfl := List.mem_singleton.mp member
    exact ⟨_, rfl, (plays _ _).trans (stores _ _)⟩

theorem Action.stream_of_write {setup : Setup} {bytes : Bytes} {effect : Effect Transfer}
    (member : effect ∈ (write bytes deadline).effects setup 0 hub) :
    ∃ stream, effect.hub = { hub with stream } ∧ stream.reading = hub.stream.reading := by
  simp only [effects] at member
  apply Hub.stream_of_transfer member
  · exact fun _ _ => rfl
  · intro stream cue
    unfold Stream.write
    split <;> rfl

theorem Action.stream_of_flush {setup : Setup} {effect : Effect Transfer}
    (member : effect ∈ (flush deadline).effects setup 0 hub) :
    ∃ stream, effect.hub = { hub with stream } ∧ stream.reading = hub.stream.reading := by
  simp only [effects] at member
  apply Hub.stream_of_transfer member
  · exact fun _ _ => rfl
  · intro stream cue
    unfold Stream.flush
    split <;> rfl

theorem Hub.report_log (hub : Hub) (id : Nat) (content : Report) (phase : Phase) :
    (hub.log (.reported id content phase)).footing =
      { hub.footing with report := if id = 0 then some content else hub.footing.report } := by
  unfold footing World.reportOf log
  rw [List.reverse_append, List.reverse_singleton, List.singleton_append, List.findSome?_cons]
  by_cases own : id = 0 <;> simp [own]

end

theorem not_trouble_of_fine {happening : Happening} (fine : happening.isFailure = false) :
    happening.isTrouble = false := by
  unfold Happening.isFailure at fine
  split at fine
  · cases fine
  · cases fine
  · exact fine

section

variable {setup : Setup} {hub : Hub}

/-- An action that works on the stream adds to what is written and takes from what is to be
read. -/
theorem Action.footing_of_stream {action : Action} {effect : Effect action.Reply}
    (member : effect ∈ action.effects setup 0 hub) (moved : ∃ stream, effect.hub = { hub with stream }) :
    effect.hub.footing =
      { hub.footing with
        written := hub.stream.written ++ Happening.wrote ⟨0, action, effect.reply⟩
        inflow := effect.hub.ground.inflow } := by
  have written := Action.written_of_effect member
  obtain ⟨stream, moved⟩ := moved
  rw [← written, moved]
  rfl

theorem Action.footing_of_quiet {action : Action} {effect : Effect action.Reply}
    (member : effect ∈ action.effects setup 0 hub) (moved : ∃ stream, effect.hub = { hub with stream })
    (quiet : Happening.wrote ⟨0, action, effect.reply⟩ = []) :
    effect.hub.footing = { hub.footing with inflow := effect.hub.ground.inflow } := by
  rw [footing_of_stream member moved, quiet, List.append_nil]
  rfl

theorem Action.effects_of_own {action : Action} (own : action.isOwn = true) :
    action.effects setup 0 hub = action.effects {} 0 hub := by
  cases action <;> first | rfl | cases own

theorem Action.takes_of_effect {action : Action} {effect : Effect action.Reply}
    (own : action.isOwn = true) (member : effect ∈ action.effects setup 0 hub)
    (fine : Happening.isFailure ⟨0, action, effect.reply⟩ = false) :
    (effect.reply = none → effect.hub.footing = hub.footing) ∧
      ∀ reply, effect.reply = some reply → action.Takes hub.footing reply effect.hub.footing := by
  rw [effects_of_own own] at member
  obtain ⟨silent, leads⟩ := leads_of_effect (List.forall_mem_nil _) member (not_trouble_of_fine fine)
  have unheard (moved : ∃ stream, effect.hub = { hub with stream }) (told : effect.reply = none) :
      effect.hub.footing = hub.footing := by
    have quiet : Happening.wrote ⟨0, action, effect.reply⟩ = [] := by
      rw [told]
      cases action <;> rfl
    rw [footing_of_quiet member moved quiet, silent told]
    rfl
  cases action with
  | readClock =>
      obtain rfl := List.mem_singleton.mp member
      exact ⟨nofun, fun _ _ => rfl⟩
  | report id content =>
      obtain rfl := List.mem_singleton.mp member
      exact ⟨nofun, fun _ _ => hub.report_log id content hub.phase⟩
  | read room deadline isCancellable =>
      obtain rfl : isCancellable = false := by simpa [isOwn] using own
      have receives : effect ∈ hub.receive room deadline := member
      obtain ⟨moved, within⟩ := Hub.stream_of_receive receives
      refine ⟨unheard moved, fun reply told => ?_⟩
      have led := leads reply told
      rw [footing_of_quiet member moved rfl]
      rw [told] at fine
      cases reply with
      | data bytes =>
          obtain ⟨nonempty, left, joined, after⟩ := led
          exact ⟨nonempty, within bytes told, left, joined, after ▸ rfl⟩
      | ended => exact ⟨rfl, led.1, effect.hub.ground.inflow, rfl⟩
      | cancelled => cases led.1
      | failed failure => cases fine
      | timedOut => cases fine
  | write bytes deadline =>
      have moved := (stream_of_write member).imp fun _ both => both.1
      refine ⟨unheard moved, fun reply told => ?_⟩
      obtain ⟨⟨count, rfl⟩, after⟩ := leads reply told
      refine ⟨count, rfl, ?_⟩
      rw [footing_of_stream member moved, told, after]
      rfl
  | flush deadline =>
      have moved := (stream_of_flush member).imp fun _ both => both.1
      refine ⟨unheard moved, fun reply told => ?_⟩
      obtain ⟨rfl, after⟩ := leads reply told
      refine ⟨rfl, ?_⟩
      rw [footing_of_quiet member moved rfl, after]
      rfl
  | _ => cases own

theorem Happening.fine_of_waiting (action : Action) :
    Happening.isFailure ⟨0, action, none⟩ = false := by
  cases action <;> rfl

theorem Action.footing_of_waiting {action : Action} (own : action.isOwn = true) {later : Hub}
    (waiting : Script.Waiting setup action hub later) : later.footing = hub.footing := by
  induction waiting with
  | refl => rfl
  | tick _ induction => exact induction
  | @further now _ effect member told _ induction =>
      have fine : Happening.isFailure ⟨0, action, effect.reply⟩ = false :=
        told ▸ Happening.fine_of_waiting action
      exact ((takes_of_effect own member fine).1 told).trans induction

end

/-- The stream lets through what is written, and either the bytes that it brings are enough
or reads of it do not fail. -/
structure Hub.Serves (isEnough : Prop) (hub : Hub) : Prop where
  flows : hub.Flows
  reads : isEnough ∨ hub.stream.reading.Works

def Action.IsServed (isEnough : Prop) (footing : Footing) : Action → Prop
  | write bytes _ => bytes ≠ []
  | read .. => footing.inflow ≠ ⟨[], false⟩ ∧ (isEnough → footing.inflow.bytes ≠ [])
  | _ => True

theorem Stream.works_of_read {stream : Stream} (works : stream.reading.Works) (cue : Option Cue)
    (room : Nat) : (stream.read cue room).2.reading.Works := by
  unfold Stream.read
  split
  · exact works
  · dsimp only
    split
    · exact works
    · intro later member
      rcases List.mem_cons.mp member with rfl | behind
      · rfl
      · exact works later behind
  · exact works

section

variable {isEnough : Prop} {setup : Setup} {action : Action} {hub : Hub}

theorem Hub.works_of_receive {room deadline : Nat} {effect : Effect Reading}
    (works : hub.stream.reading.Works) (member : effect ∈ hub.receive room deadline) :
    effect.hub.stream.reading.Works := by
  unfold Hub.receive at member
  split at member
  · split at member
    · obtain rfl := List.mem_singleton.mp member
      exact works
    · cases member
  · rename_i next turned
    obtain rfl := List.mem_singleton.mp member
    exact Side.works_of_waiting works turned
  · rename_i cue next turned
    obtain rfl := List.mem_singleton.mp member
    exact Stream.works_of_read (Side.works_of_plays works turned).1 cue room

theorem Hub.serves_of_effect {effect : Effect action.Reply} (own : action.isOwn = true)
    (serves : hub.Serves isEnough) (member : effect ∈ action.effects setup 0 hub) :
    effect.hub.Serves isEnough := by
  refine ⟨Action.flows_of_effect serves.flows member, serves.reads.imp_right fun works => ?_⟩
  cases action with
  | readClock | report =>
      obtain rfl := List.mem_singleton.mp member
      exact works
  | read room deadline isCancellable =>
      obtain rfl : isCancellable = false := by simpa [Action.isOwn] using own
      have receives : effect ∈ hub.receive room deadline := member
      exact Hub.works_of_receive works receives
  | write bytes deadline =>
      obtain ⟨stream, moved, reading⟩ := Action.stream_of_write member
      rw [moved]
      exact reading.symm ▸ works
  | flush deadline =>
      obtain ⟨stream, moved, reading⟩ := Action.stream_of_flush member
      rw [moved]
      exact reading.symm ▸ works
  | _ => cases own

theorem Hub.serves_after (serves : hub.Serves isEnough) : (hub.after 1).Serves isEnough :=
  ⟨⟨serves.flows.writes, serves.flows.flushes⟩, serves.reads⟩

theorem Action.kept_of_waiting {condition : Hub → Prop} (later : ∀ hub, condition hub → condition (hub.after 1))
    (kept : ∀ hub, condition hub → ∀ effect ∈ action.effects setup 0 hub, condition effect.hub)
    (holds : condition hub) {now : Hub} (waiting : Script.Waiting setup action hub now) :
    condition now := by
  induction waiting with
  | refl => exact holds
  | tick _ induction => exact later _ induction
  | further _ member _ _ induction => exact kept _ induction _ member

theorem Stream.read_succeeds (stream : Stream) {cue : Option Cue} (room deadline : Nat)
    (works : ∀ played, cue = some played → played.isFailing = false) :
    Happening.isFailure ⟨0, .read room deadline false, some (stream.read cue room).1⟩ = false := by
  unfold Stream.read
  split
  · have failing := works _ rfl
    simp [Cue.isFailing] at failing
  · dsimp only
    split <;> rfl
  · rfl

def Action.Succeeds (setup : Setup) (action : Action) (hub : Hub) : Prop :=
  ∃ later, Script.Waiting setup action hub later ∧
    ∃ effect ∈ action.effects setup 0 later, ∃ reply, effect.reply = some reply ∧
      Happening.isFailure ⟨0, action, some reply⟩ = false

theorem Action.succeeds_read (setup : Setup) (room deadline : Nat) (serves : hub.Serves isEnough)
    (served : (read room deadline false).IsServed isEnough hub.footing) :
    (read room deadline false).Succeeds setup hub := by
  obtain ⟨brings, enough⟩ := served
  obtain ⟨later, waiting, cue, next, turned⟩ :=
    Script.plays_in_time setup (.read room deadline false) (fun hub => hub.stream.reading)
      (fun _ _ => rfl) (fun hub next turned => ⟨_, Hub.receive_waits turned, rfl, rfl, rfl⟩) brings
  have same : later.stream.reading.inflow = hub.stream.reading.inflow :=
    congrArg Footing.inflow (footing_of_waiting rfl waiting)
  have works : ∀ played, cue = some played → played.isFailing = false := by
    rcases Side.inflow_of_plays turned with ⟨first, more, rfl, -⟩ | ⟨-, ended⟩
    · rintro _ ⟨⟩
      rfl
    · have servesThen := Action.kept_of_waiting (fun _ => Hub.serves_after)
        (fun _ holds _ among => Hub.serves_of_effect rfl holds among) serves waiting
      rcases servesThen.reads with isEnough | works
      · rw [same] at ended
        exact absurd (congrArg Inflow.bytes ended) (enough isEnough)
      · exact (Side.works_of_plays works turned).2
  refine ⟨later, waiting, _, Hub.receive_plays turned, _, rfl, ?_⟩
  exact Stream.read_succeeds _ room deadline works

theorem Action.succeeds_of_served (setup : Setup) (own : action.isOwn = true)
    (serves : hub.Serves isEnough) (served : action.IsServed isEnough hub.footing) :
    action.Succeeds setup hub := by
  cases action with
  | read room deadline isCancellable =>
      obtain rfl : isCancellable = false := by simpa [isOwn] using own
      exact succeeds_read setup room deadline serves served
  | write bytes deadline =>
      obtain ⟨reply, fine, later, waiting, effect, member, told⟩ :=
        World.answers_of_open setup (show (write bytes deadline).IsOpen hub.ground from served) serves.flows
      exact ⟨later, waiting, effect, member, reply, told, fine⟩
  | flush deadline =>
      obtain ⟨reply, fine, later, waiting, effect, member, told⟩ :=
        World.answers_of_open setup (show (flush deadline).IsOpen hub.ground from trivial) serves.flows
      exact ⟨later, waiting, effect, member, reply, told, fine⟩
  | readClock | report =>
      exact ⟨hub, .refl, _, List.mem_singleton_self _, _, rfl, rfl⟩
  | _ => cases own

end

namespace World

open Script

/-- A run of actors that are alone, in which nothing fails or comes too late. -/
structure Unfailing (start : World) (history : History) (world : World) : Prop where
  run : start.RunIn alone history world
  fine : ∀ happening ∈ history, happening.isFailure = false

theorem Unfailing.refl (start : World) : start.Unfailing [] start :=
  ⟨.refl, List.forall_mem_nil _⟩

theorem Unfailing.trans {start middle world : World} {history later : History}
    (unfailing : start.Unfailing history middle) (behind : middle.Unfailing later world) :
    start.Unfailing (history ++ later) world := by
  refine ⟨unfailing.run.trans behind.run, fun happening among => ?_⟩
  rcases List.mem_append.mp among with earlier | further
  · exact unfailing.fine happening earlier
  · exact behind.fine happening further

variable {setup : Setup} {during : Action → Footing → Prop} {post : Option Task → Footing → Prop}

theorem not_spawn_of_own {action : Action} (own : action.isOwn = true) (task : Task) :
    action ≠ .spawn task := by
  rintro rfl
  cases own

/-- Where a run stands from `start` on: every action in it was met on the footing that its
part of the history gives, and what is left of the script meets the rest. -/
structure Stands (during : Action → Footing → Prop) (post : Option Task → Footing → Prop)
    (start : Hub) (history : History) (now : Hub) (remaining : Script (Option Task)) : Prop where
  meets : remaining.Meets during post now.footing
  written : now.stream.written = start.stream.written ++ history.flatMap Happening.wrote
  met : ∀ place happening, history[place]? = some happening → ∃ footing,
    during happening.action footing ∧
      footing.written = start.stream.written ++ (history.take place).flatMap Happening.wrote
  serves : ∀ isEnough, start.Serves isEnough → now.Serves isEnough

theorem Stands.refl {hub : Hub} {script : Script (Option Task)}
    (meets : script.Meets during post hub.footing) : Stands during post hub [] hub script := by
  refine ⟨meets, (List.append_nil _).symm, fun place happening found => ?_, fun _ served => served⟩
  cases List.getElem?_nil.symm.trans found

theorem Stands.act {start now : Hub} {history : History} {action : Action}
    {next : action.Reply → Script (Option Task)} {effect : Effect action.Reply}
    (own : ∀ action footing, during action footing → action.isOwn = true)
    (stands : Stands during post start history now (act action next))
    (member : effect ∈ action.effects setup 0 now)
    (fine : Happening.isFailure ⟨0, action, effect.reply⟩ = false) :
    Stands during post start (history ++ [⟨0, action, effect.reply⟩]) effect.hub
      (effect.reply.elim (.act action next) next) := by
  obtain ⟨⟨holds, further⟩, written, met, serves⟩ := stands
  have ownAction := own action now.footing holds
  obtain ⟨silent, takes⟩ := Action.takes_of_effect ownAction member fine
  constructor
  · cases told : effect.reply with
    | none =>
        rw [silent told]
        exact ⟨holds, further⟩
    | some reply => exact further reply _ (takes reply told)
  · rw [List.flatMap_append, List.flatMap_singleton, ← List.append_assoc, ← written]
    exact Action.written_of_effect member
  · intro place happening found
    rcases History.of_append found with ⟨before, found⟩ | ⟨rfl, rfl⟩
    · rw [List.take_append_of_le_length (Nat.le_of_lt before)]
      exact met place happening found
    · rw [List.take_left]
      exact ⟨now.footing, holds, written⟩
  · intro isEnough served
    exact Hub.serves_of_effect ownAction (serves isEnough served) member

/-- What a script meets, it meets in every run in which nothing fails. -/
theorem stands_of_run (own : ∀ action footing, during action footing → action.isOwn = true)
    (last : ∀ task footing, ¬post (some task) footing) {hub : Hub} {script : Script (Option Task)}
    (meets : script.Meets during post hub.footing) {history : History} {world : World}
    (unfailing : (solo setup hub script).Unfailing history world) :
    ∃ now remaining, world = solo setup now remaining ∧
      Stands during post hub history now remaining := by
  obtain ⟨run, fine⟩ := unfailing
  induction run with
  | refl => exact ⟨hub, script, rfl, .refl meets⟩
  | begin _ begins _ => exact begins.elim
  | drift _ drifts induction =>
      obtain ⟨now, remaining, rfl, meets, written, met, serves⟩ := induction fine
      obtain rfl := drifts
      refine ⟨now.after 1, remaining, rfl, meets, written, met, fun isEnough served => ?_⟩
      exact Hub.serves_after (serves isEnough served)
  | @goOn history world index actor task _ here ended induction =>
      obtain ⟨now, remaining, rfl, stands⟩ := induction fine
      cases index with
      | succ index => cases here
      | zero =>
          cases here
          subst ended
          exact absurd stands.meets (last task now.footing)
  | @act history world index actor action next effect _ here doing member induction =>
      obtain ⟨now, remaining, rfl, stands⟩ :=
        induction fun happening before => fine happening (List.mem_append_left _ before)
      cases index with
      | succ index => cases here
      | zero =>
          cases here
          subst doing
          have ownAction := own action now.footing stands.meets.1
          have member : effect ∈ action.effects setup 0 now := member
          have moved : (solo setup now (.act action next)).follow 0 action next effect =
              solo setup effect.hub (effect.reply.elim (.act action next) next) :=
            (solo_of_act rfl rfl member (not_spawn_of_own ownAction)).2.2
          have fineHere := fine _ (List.mem_append_right _ (List.mem_singleton_self _))
          exact ⟨effect.hub, _, moved, stands.act own member fineHere⟩

section

variable {action : Action} {hub : Hub} (next : action.Reply → Script (Option Task))

theorem unfailing_act {effect : Effect action.Reply} (own : action.isOwn = true)
    (member : effect ∈ action.effects setup 0 hub)
    (fine : Happening.isFailure ⟨0, action, effect.reply⟩ = false) :
    (solo setup hub (act action next)).Unfailing [⟨0, action, effect.reply⟩]
      (solo setup effect.hub (effect.reply.elim (act action next) next)) := by
  have moved : (solo setup hub (act action next)).RunIn alone ([] ++ [⟨0, action, effect.reply⟩])
      ((solo setup hub (act action next)).follow 0 action next effect) :=
    .act .refl rfl rfl member
  have same : (solo setup hub (act action next)).follow 0 action next effect =
      solo setup effect.hub (effect.reply.elim (act action next) next) :=
    (solo_of_act rfl rfl member (not_spawn_of_own own)).2.2
  rw [same] at moved
  refine ⟨moved, fun happening among => ?_⟩
  obtain rfl := List.mem_singleton.mp among
  exact fine

theorem unfailing_of_waiting (own : action.isOwn = true) {later : Hub}
    (waiting : Waiting setup action hub later) : ∃ history,
      (solo setup hub (act action next)).Unfailing history (solo setup later (act action next)) := by
  induction waiting with
  | refl => exact ⟨[], .refl _⟩
  | tick _ induction =>
      obtain ⟨history, run, fine⟩ := induction
      exact ⟨history, .drift run rfl, fine⟩
  | @further now _ effect member told _ induction =>
      obtain ⟨history, unfailing⟩ := induction
      have fine : Happening.isFailure ⟨0, action, effect.reply⟩ = false :=
        told ▸ Happening.fine_of_waiting action
      have moved := unfailing_act next own member fine
      rw [told] at moved
      exact ⟨_, unfailing.trans moved⟩

end

/-- Where every action succeeds that the script meets, the script can be brought to its end. -/
theorem comes_to_end (condition : Hub → Prop)
    (own : ∀ action footing, during action footing → action.isOwn = true)
    (later : ∀ hub, condition hub → condition (hub.after 1))
    (kept : ∀ action : Action, action.isOwn = true → ∀ hub, condition hub →
      ∀ effect ∈ action.effects setup 0 hub, condition effect.hub)
    (succeeds : ∀ action hub, during action hub.footing → condition hub → action.Succeeds setup hub)
    {hub : Hub} {script : Script (Option Task)} (meets : script.Meets during post hub.footing)
    (holds : condition hub) :
    ∃ history now result, (solo setup hub script).Unfailing history (solo setup now (done result)) ∧
      post result now.footing := by
  induction script generalizing hub with
  | done result => exact ⟨[], hub, result, .refl _, meets⟩
  | act action next induction =>
      obtain ⟨met, further⟩ := meets
      have ownAction := own action hub.footing met
      obtain ⟨late, waiting, effect, member, reply, told, fine⟩ := succeeds action hub met holds
      obtain ⟨waits, unfailing⟩ := unfailing_of_waiting next ownAction waiting
      rw [← told] at fine
      have moved := unfailing_act next ownAction member fine
      have takes := (Action.takes_of_effect ownAction member fine).2 reply told
      rw [told] at moved
      rw [Action.footing_of_waiting ownAction waiting] at takes
      have holdsThen := Action.kept_of_waiting later (kept action ownAction) holds waiting
      obtain ⟨history, now, result, behind, ends⟩ :=
        induction reply (further reply _ takes) (kept action ownAction _ holdsThen effect member)
      exact ⟨_, now, result, (unfailing.trans moved).trans behind, ends⟩

end World

end WebSocket
