import WebSocket.Proofs.Connection.Exchanging
import WebSocket.Proofs.Connection.Stages

/-!
What a client does to a connection until it is open, or closed for good. The whole hub is known
after each part, but for the time that has passed and for callbacks that have failed; and once the
token is cancelled, there is only one action left that may have to wait.
-/

namespace WebSocket

namespace Hub

/-- The hub is like the other one, but for the time and for callbacks that have failed. -/
def IsLike (hub base : Hub) : Prop :=
  ∃ now failedCallbacks, hub = { base with now, failedCallbacks }

theorem IsLike.after {hub base : Hub} (like : hub.IsLike base) (time : Nat) :
    (hub.after time).IsLike base := by
  obtain ⟨now, failed, rfl⟩ := like
  exact ⟨now + time, failed, rfl⟩

def withoutWriter (stream : Stream) (journal : List Entry) : Hub :=
  { phase := .closed, isCancelled := true, hasWriter := false, stream, journal }

/-- Of these bytes a beginning has been written, and all of them if it is done. -/
def Writes (base : Hub) (bytes : Bytes) (isDone : Prop) (hub : Hub) : Prop :=
  ∃ stream sent, hub.IsLike { base with stream } ∧
    stream.written = base.stream.written ++ sent ∧ sent <+: bytes ∧ (isDone → sent = bytes)

theorem Writes.nothing {base hub : Hub} (like : hub.IsLike base) (isDone : Prop) :
    base.Writes [] isDone hub :=
  ⟨base.stream, [], like, (List.append_nil _).symm, List.prefix_refl [], fun _ => rfl⟩

theorem Writes.halted {base hub : Hub} {stream : Stream} {isDone : Prop}
    (came : hub.IsLike { base with stream }) (written : stream.written = base.stream.written ++ [])
    (bytes : Bytes) (undone : ¬isDone) : base.Writes bytes isDone hub :=
  ⟨stream, [], came, written, List.nil_prefix, fun done => absurd done undone⟩

theorem Writes.behind {base hub : Hub} {stream : Stream} {first second : Bytes} {isDone : Prop}
    (before : stream.written = base.stream.written ++ first)
    (writes : ({ base with stream } : Hub).Writes second isDone hub) :
    base.Writes (first ++ second) isDone hub := by
  obtain ⟨later, sent, like, written, part, whole⟩ := writes
  refine ⟨later, first ++ sent, like, ?_, (List.prefix_append_right_inj first).mpr part, ?_⟩
  · rw [written, before, List.append_assoc]
  · exact fun isDone => congrArg (first ++ ·) (whole isDone)

def Conversed (base : Hub) (bytes : Bytes) (result : Except Error (Response × Bytes)) (hub : Hub) :
    Prop :=
  base.Writes bytes (∃ answer, result = .ok answer) hub ∧
    ∀ response leftover, result = .ok (response, leftover) → response.isSynthetic = false

end Hub

namespace Action

variable {setup : Setup} {action : Action}

theorem stream_of_effect (onStream : action.IsOnStream) {hub : Hub} {effect : Effect action.Reply}
    (member : effect ∈ action.effects setup 0 hub) :
    effect.spawned = [] ∧ ∃ stream, effect.hub = { hub with stream } := by
  constructor
  · apply List.eq_nil_iff_forall_not_mem.mpr
    intro task inside
    obtain rfl := Action.spawned_of_effect member task inside
    exact onStream
  · cases action with
    | write bytes deadline => exact (stream_of_write member).imp fun _ both => both.1
    | flush deadline => exact (stream_of_flush member).imp fun _ both => both.1
    | shutdown deadline =>
        simp only [effects] at member
        have moved := Hub.stream_of_transfer member (fun _ _ => rfl) fun stream cue => by
          unfold Stream.shutdown
          split <;> rfl
        exact moved.imp fun _ both => both.1
    | read room deadline isCancellable =>
        cases isCancellable with
        | true => exact onStream.elim
        | false => exact (Hub.stream_of_receive member).1
    | _ => exact onStream.elim

end Action

theorem Response.genuine_of_parse {head : Bytes} {response : Response}
    (parsed : Response.parse head = .ok response) : response.isSynthetic = false := by
  unfold Response.parse at parsed
  split at parsed
  · cases parsed
  · split at parsed
    · cases parsed
    · unfold Response.parseLines at parsed
      dsimp only at parsed
      split at parsed
      · cases parsed
      · split at parsed
        · cases parsed
        · cases parsed
          rfl

theorem Head.genuine_of_split {limits : Limits} {buffer leftover : Bytes} {response : Response}
    (found : Head.split limits buffer = .ok (some (response, leftover))) :
    response.isSynthetic = false := by
  unfold Head.split at found
  split at found
  · split at found <;> cases found
  · split at found
    · cases found
    · split at found
      · cases found
      · rename_i parsed
        cases found
        exact Response.genuine_of_parse parsed

namespace Connection

/-- Once the token is cancelled, nothing has to wait but the shutdown of the writer, and that is
met under a condition. -/
def WaitsLast (setup : Setup) (condition : Hub → Prop) (action : Action) (hub : Hub) : Prop :=
  (∀ deadline, action = .shutdown deadline → condition hub) ∧
    (hub.isCancelled = true → action.effects setup 0 hub = [] →
      ∃ deadline, action = .shutdown deadline)

/-- What the journal has when every observer has been told. -/
def tells (setup : Setup) (event : Event) (phase : Phase) : List Entry :=
  (List.range setup.observers.length).map fun index => .told index event phase

end Connection

namespace Attempt

open Script Connection

variable {setup : Setup} {condition : Hub → Prop} {Result : Type} {post : Result → Hub → Prop}
variable {hub base : Hub}

theorem safe_at_once (action : Action) {next : action.Reply → Script Result}
    (like : hub.IsLike base) (notShutdown : ∀ deadline, action ≠ .shutdown deadline)
    (answer : ∀ now, now.IsLike base → ∃ reply later,
      action.effects setup 0 now = [⟨later, some reply, []⟩] ∧
        (next reply).Safe setup (WaitsLast setup condition) post later) :
    (act action next).Safe setup (WaitsLast setup condition) post hub := by
  apply safe_answer (·.IsLike base) like (fun _ held => held.after 1) _ answer
  intro now held
  refine ⟨fun deadline same => absurd same (notShutdown deadline), fun _ stuck => ?_⟩
  obtain ⟨reply, later, effects, -⟩ := answer now held
  rw [effects] at stuck
  cases stuck

theorem safe_on_stream (action : Action) {next : action.Reply → Script Result}
    (onStream : action.IsOnStream) (like : hub.IsLike base)
    (met : ∀ stream now, stream.written = base.stream.written → now.IsLike { base with stream } →
      WaitsLast setup condition action now)
    (goesOn : ∀ (effect : Effect action.Reply) reply stream now,
      effect ∈ action.effects setup 0 now → effect.reply = some reply →
      stream.written = base.stream.written ++ Happening.wrote ⟨0, action, some reply⟩ →
      effect.hub.IsLike { base with stream } →
      (next reply).Safe setup (WaitsLast setup condition) post effect.hub) :
    (act action next).Safe setup (WaitsLast setup condition) post hub := by
  refine ⟨fun now => ∃ stream, stream.written = base.stream.written ∧
    now.IsLike { base with stream }, ⟨base.stream, rfl, like⟩, ?_⟩
  rintro now ⟨stream, same, held⟩
  refine ⟨met stream now same held, ⟨stream, same, held.after 1⟩,
    action.answered_on_stream onStream setup now, fun effect member => ?_⟩
  obtain ⟨unspawned, moved, became⟩ := Action.stream_of_effect onStream member
  have written := Action.written_of_effect member
  have heldThen : effect.hub.IsLike { base with stream := moved } := by
    obtain ⟨time, failed, rfl⟩ := held
    exact ⟨time, failed, became⟩
  have brought : moved.written =
      base.stream.written ++ Happening.wrote ⟨0, action, effect.reply⟩ := by
    have before : now.stream.written = base.stream.written := by
      obtain ⟨time, failed, rfl⟩ := held
      exact same
    rw [became, before] at written
    exact written
  refine ⟨unspawned, fun silent => ⟨moved, ?_, heldThen⟩, fun reply told => ?_⟩
  · have quiet : Happening.wrote ⟨0, action, none⟩ = [] := by
      cases action <;> rfl
    rw [brought, silent, quiet, List.append_nil]
  · exact goesOn effect reply moved now member told (told ▸ brought) heldThen

theorem safe_while_live (action : Action) {next : action.Reply → Script Result}
    (onStream : action.IsOnStream) (notShutdown : ∀ deadline, action ≠ .shutdown deadline)
    (like : hub.IsLike base) (live : base.isCancelled = false)
    (goesOn : ∀ (effect : Effect action.Reply) reply stream now,
      effect ∈ action.effects setup 0 now → effect.reply = some reply →
      stream.written = base.stream.written ++ Happening.wrote ⟨0, action, some reply⟩ →
      effect.hub.IsLike { base with stream } →
      (next reply).Safe setup (WaitsLast setup condition) post effect.hub) :
    (act action next).Safe setup (WaitsLast setup condition) post hub := by
  apply safe_on_stream action onStream like _ goesOn
  rintro stream now - ⟨time, failed, rfl⟩
  refine ⟨fun deadline same => absurd same (notShutdown deadline), fun cancelled => ?_⟩
  cases live.symm.trans cancelled

theorem safe_write_all (deadline : Nat) (bytes : Bytes) (taken : Nat)
    (like : hub.IsLike base) (live : base.isCancelled = false) :
    (Gate.writeAll deadline bytes taken).Safe setup (WaitsLast setup condition)
      (fun result => base.Writes (bytes.drop taken) (∃ count, result = .done count)) hub := by
  induction bytes generalizing taken base hub with
  | nil =>
      rw [List.drop_nil]
      exact Hub.Writes.nothing like _
  | cons byte rest induction =>
      cases taken with
      | succ taken => exact induction taken like live
      | zero =>
          apply safe_while_live (.write (byte :: rest) deadline) trivial (by rintro _ ⟨⟩) like live
          intro effect reply stream now member told written came
          cases reply with
          | done count =>
              have fine : Happening.isFailure
                  ⟨0, .write (byte :: rest) deadline, effect.reply⟩ = false := told ▸ rfl
              obtain ⟨more, same, -⟩ := (Action.takes_of_effect rfl member fine).2 _ told
              cases same
              apply safe_mono _ (induction more came live)
              intro result later writes
              have behind := Hub.Writes.behind written writes
              rwa [Happening.wrote, Transfer.taken, List.take_succ_cons, List.cons_append,
                List.take_append_drop] at behind
          | failed failure => exact .halted came written _ (by rintro ⟨_, ⟨⟩⟩)
          | timedOut => exact .halted came written _ (by rintro ⟨_, ⟨⟩⟩)

theorem safe_send_request (deadline : Nat) (text : String) (like : hub.IsLike base)
    (live : base.isCancelled = false) :
    (sendRequest deadline text).Safe setup (WaitsLast setup condition)
      (fun result => base.Writes (Utf8.encode text) (∃ count, result = .done count)) hub := by
  apply safe_bind (safe_mono _ (safe_write_all deadline (Utf8.encode text) 0 like live))
  intro result now writes
  cases result with
  | done count =>
      obtain ⟨stream, sent, came, written, -, whole⟩ := writes
      obtain rfl := whole ⟨count, rfl⟩
      apply safe_while_live (.flush deadline) trivial nofun came live
      intro effect reply later now member told flushed behind
      have same : later.written = base.stream.written ++ Utf8.encode text :=
        (flushed.trans (List.append_nil _)).trans written
      exact ⟨later, _, behind, same, List.prefix_refl _, fun _ => rfl⟩
  | failed failure => exact writes
  | timedOut => exact writes

theorem safe_read_head (limits : Limits) (deadline timeout reads : Nat) (buffer : Bytes)
    (capacity : Nat) (like : hub.IsLike base) (live : base.isCancelled = false) :
    (readHead limits deadline timeout reads buffer capacity).Safe setup (WaitsLast setup condition)
      (base.Conversed []) hub := by
  have fails : ∀ {base hub : Hub}, hub.IsLike base → ∀ failure : Error,
      base.Conversed [] (.error failure) hub :=
    fun like failure => ⟨.nothing like _, nofun⟩
  induction reads generalizing buffer capacity base hub with
  | zero => exact fails like _
  | succ reads induction =>
      unfold readHead
      cases found : Head.split limits buffer with
      | error failure => exact fails like failure
      | ok answer =>
          cases answer with
          | some head =>
              refine ⟨.nothing like _, fun response leftover same => ?_⟩
              cases same
              exact Head.genuine_of_split found
          | none =>
              apply safe_while_live (.read _ deadline false) trivial (by rintro _ ⟨⟩) like live
              intro effect reply stream now member told written came
              have goesOn : ∀ {result hub}, Hub.Conversed { base with stream } [] result hub →
                  base.Conversed [] result hub :=
                fun conversed => ⟨conversed.1.behind written, conversed.2⟩
              cases reply with
              | data bytes => exact safe_mono (fun _ _ => goesOn) (induction _ _ came live)
              | _ => exact goesOn (fails came _)

theorem safe_exchange {request : Request} {text : String} (limits : Limits) (timeout : Nat)
    (writes : request.write = (.ok (), text)) (like : hub.IsLike base)
    (live : base.isCancelled = false) :
    (exchange limits timeout request).Safe setup (WaitsLast setup condition)
      (base.Conversed (Utf8.encode text)) hub := by
  unfold exchange
  rw [writes]
  apply safe_at_once .readClock like nofun
  intro now began
  refine ⟨now.now, now, rfl, ?_⟩
  apply safe_bind (safe_mono _ (safe_send_request (now.now + timeout) text began live))
  intro result later sends
  have fails : ∀ failure : Error, base.Conversed (Utf8.encode text) (.error failure) later := by
    intro failure
    obtain ⟨stream, sent, came, written, part, -⟩ := sends
    exact ⟨⟨stream, sent, came, written, part, fun ⟨_, same⟩ => nomatch same⟩, nofun⟩
  cases result with
  | done count =>
      obtain ⟨stream, sent, came, written, -, whole⟩ := sends
      obtain rfl := whole ⟨count, rfl⟩
      apply safe_mono _ (safe_read_head limits _ timeout _ [] headCapacity came live)
      intro answer last conversed
      have behind := conversed.1.behind written
      rw [List.append_nil] at behind
      exact ⟨behind, conversed.2⟩
  | failed failure => exact fails _
  | timedOut => exact fails _

theorem tell_like {index : Nat} (known : index < setup.observers.length) (event : Event)
    (like : hub.IsLike base) : ∃ isCancelled,
      (hub.tell setup.observers index event).IsLike
        { base with isCancelled, journal := base.journal ++ [.told index event base.phase] } ∧
      (event.hasConnection = false ∨ base.isCancelled = true → isCancelled = base.isCancelled) := by
  obtain ⟨now, failed, rfl⟩ := like
  have found : setup.observers[index]? = some setup.observers[index] := List.getElem?_eq_getElem known
  refine ⟨base.isCancelled || (event.hasConnection && setup.observers[index].cancels event), ?_, ?_⟩
  · unfold Hub.tell
    rw [found]
    dsimp only
    split
    · exact ⟨now, _, rfl⟩
    · exact ⟨now, failed, rfl⟩
  · rintro (apart | cancelled)
    · rw [apart, Bool.false_and, Bool.or_false]
    · rw [cancelled, Bool.true_or]

theorem safe_notify (event : Event) (like : hub.IsLike base) :
    (notify setup event).Safe setup (WaitsLast setup condition)
      (fun _ now => ∃ isCancelled,
        now.IsLike
          { base with isCancelled, journal := base.journal ++ tells setup event base.phase } ∧
        (event.hasConnection = false ∨ base.isCancelled = true → isCancelled = base.isCancelled))
      hub := by
  unfold notify tells
  have known : ∀ index ∈ List.range setup.observers.length, index < setup.observers.length :=
    fun _ member => List.mem_range.mp member
  generalize List.range setup.observers.length = indices at known ⊢
  induction indices generalizing base hub with
  | nil =>
      refine ⟨base.isCancelled, ?_, fun _ => rfl⟩
      rw [List.map_nil, List.append_nil]
      exact like
  | cons index rest induction =>
      apply safe_at_once (.tell index event) like nofun
      intro now held
      refine ⟨(), _, rfl, ?_⟩
      obtain ⟨isCancelled, told, kept⟩ := tell_like (known index List.mem_cons_self) event held
      apply safe_mono _ (induction told fun index member => known index (List.mem_cons_of_mem _ member))
      rintro - later ⟨cancelledThen, heard, keptThen⟩
      rw [List.append_assoc] at heard
      refine ⟨cancelledThen, heard, fun quiet => ?_⟩
      have same := kept quiet
      exact (keptThen (quiet.imp_right same.trans)).trans same

theorem safe_step (action : Action) (base later : Hub) (reply : action.Reply)
    {next : action.Reply → Script Result} (notShutdown : ∀ deadline, action ≠ .shutdown deadline)
    (moves : ∀ now failedCallbacks, action.effects setup 0 { base with now, failedCallbacks } =
      [⟨{ later with now, failedCallbacks }, some reply, []⟩])
    (like : hub.IsLike base)
    (goesOn : ∀ now, now.IsLike later →
      (next reply).Safe setup (WaitsLast setup condition) post now) :
    (act action next).Safe setup (WaitsLast setup condition) post hub := by
  apply safe_at_once action like notShutdown
  rintro - ⟨now, failed, rfl⟩
  exact ⟨reply, _, moves now failed, goesOn _ ⟨now, failed, rfl⟩⟩

theorem safe_shutdown {stream : Stream} {journal : List Entry}
    (like : hub.IsLike { phase := .closed, isCancelled := true, stream, journal })
    (meets : ∀ now left, left.written = stream.written →
      now.IsLike (.withoutWriter left journal) → condition now) :
    (Gate.shutdown setup.config).Safe setup (WaitsLast setup condition)
      (fun _ now => ∃ left, left.written = stream.written ∧
        now.IsLike (.withoutWriter left journal)) hub := by
  apply safe_step (.queueForGate []) _
    { phase := .closed, isCancelled := true, gate := ⟨none, [0]⟩, stream, journal } () nofun
    (fun _ _ => rfl) like
  intro now like
  apply safe_step .enterGate _
    { phase := .closed, isCancelled := true, gate := ⟨some 0, []⟩, stream, journal } true nofun
    (fun _ _ => rfl) like
  intro now like
  apply safe_step .takeWriter _
    { Hub.withoutWriter stream journal with gate := ⟨some 0, []⟩ } () nofun (fun _ _ => rfl) like
  intro now like
  apply safe_step .leaveGate _ (.withoutWriter stream journal) () nofun (fun _ _ => rfl) like
  intro now like
  apply safe_at_once .readClock like nofun
  intro now like
  refine ⟨now.now, now, rfl, ?_⟩
  apply safe_on_stream (.shutdown (now.now + setup.config.timeouts.write)) trivial like
  · intro left now same held
    exact ⟨fun _ _ => meets now left same held, fun _ _ => ⟨_, rfl⟩⟩
  · intro effect reply left now member told same held
    exact ⟨left, same.trans (List.append_nil _), held⟩

theorem safe_teardown {stream : Stream} {journal : List Entry}
    (like : hub.IsLike { stream, journal })
    (meets : ∀ now left, left.written = stream.written →
      now.IsLike (.withoutWriter left journal) → condition now) :
    (teardown setup).Safe setup (WaitsLast setup condition)
      (fun _ now => ∃ left, left.written = stream.written ∧
        now.IsLike
          { Hub.withoutWriter left (journal ++ tells setup .closed .closed) with
            closedAnnounced := true }) hub := by
  apply safe_step .closePhase _ { phase := .closed, stream, journal } .handshaking nofun
    (fun _ _ => rfl) like
  intro now like
  apply safe_step .cancelToken _ { phase := .closed, isCancelled := true, stream, journal } () nofun
    (fun _ _ => rfl) like
  intro now like
  apply safe_step .takeScheduler _ { phase := .closed, isCancelled := true, stream, journal } none
    nofun (fun _ _ => rfl) like
  intro now like
  apply safe_bind (safe_mono _ (safe_shutdown like meets))
  rintro - now ⟨left, same, like⟩
  apply safe_step .announceClosed _ { Hub.withoutWriter left journal with closedAnnounced := true } ()
    nofun (fun _ _ => rfl) like
  intro now like
  apply safe_mono _ (safe_notify .closed like)
  rintro - now ⟨isCancelled, told, kept⟩
  obtain rfl : isCancelled = true := kept (.inr rfl)
  exact ⟨left, same, told⟩

end Attempt

namespace Connection

open Script

def openOrTeardown (setup : Setup) (isOpen : Bool) : Script Bool := do
  if !isOpen then
    teardown setup
    return false
  else if ← perform (.movePhase .handshaking .opened) then
    notify setup .opened
    return true
  else return false

theorem proceed_eq (setup : Setup) (isOpen : Bool) (leftover : Bytes) :
    proceed setup isOpen leftover =
      (openOrTeardown setup isOpen).bind fun isOpened =>
        if isOpened then start setup leftover else done () := by
  unfold proceed openOrTeardown
  cases isOpen with
  | false =>
      change teardown setup = ((teardown setup).bind fun _ => done false).bind _
      rw [bind_assoc]
      exact (bind_done (teardown setup)).symm
  | true =>
      refine congrArg (act _) (funext fun isMoved => ?_)
      cases isMoved with
      | false => rfl
      | true =>
          change (notify setup .opened).bind _ =
            ((notify setup .opened).bind fun _ => done true).bind _
          rw [bind_assoc]
          rfl

def attempt (setup : Setup) (timeout : Nat) (request : Request) (text : String) :
    Script (Except Error (Response × Bytes) × Bool) :=
  (notify setup (.request text)).bind fun _ =>
    (exchange setup.config.limits timeout request).bind fun exchanged =>
      let outcome := (judge setup request exchanged).1
      (notify setup (.response outcome.response)).bind fun _ =>
        (openOrTeardown setup outcome.isOpen).bind fun isOpened => done (exchanged, isOpened)

def conclude (setup : Setup) (request : Request)
    (attempted : Except Error (Response × Bytes) × Bool) : Script (Option Task) :=
  let (outcome, leftover) := judge setup request attempted.1
  (if attempted.2 then start setup leftover else done ()).bind fun _ =>
    act (.report 0 (.connected (.ok outcome))) fun _ => done none

theorem connect_in_stages {setup : Setup} {timeout : Nat} {request : Request} {text : String}
    (writes : request.write = (.ok (), text)) :
    ((connect setup timeout request).bind fun result =>
        act (.report 0 (.connected result)) fun _ => done none) =
      (attempt setup timeout request text).bind (conclude setup request) := by
  rw [connect_eq writes]
  unfold attempt conclude
  simp only [bind_assoc]
  apply congrArg (Script.bind _)
  funext _
  apply congrArg (Script.bind _)
  funext exchanged
  simp only [bind_assoc, proceed_eq]
  rfl

end Connection

end WebSocket
