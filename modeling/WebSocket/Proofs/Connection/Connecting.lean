import WebSocket.Proofs.Connection.Attempt

/-!
A client that connects over an established stream. Whatever the server does, the outcome that is
reported, what the observers are told and the state of the connection agree; only where the shutdown
of the writer has to wait does the client give up over its own cancelled token.
-/

namespace WebSocket

/-- What an outcome says about the exchange that it came of. -/
structure Outcome.Reflects (outcome : Outcome) (exchanged : Except Error (Response × Bytes)) :
    Prop where
  answered : ∀ response leftover, exchanged = .ok (response, leftover) →
    outcome.response = response ∧ response.isSynthetic = false
  failed : ∀ failure, exchanged = .error failure →
    outcome.isOpen = false ∧ outcome.response.isSynthetic = true
  late : outcome.response.isSynthetic = true ∧ outcome.status = 408 ↔
    ∃ timeout, exchanged = .error (.handshakeTimeout timeout)
  broken : outcome.response.isSynthetic = true ∧ outcome.status = 502 ↔
    ∃ failure, exchanged = .error failure ∧ ∀ timeout, failure ≠ .handshakeTimeout timeout

theorem Outcome.response_of_evaluate (request : Request) (response : Response)
    (key : Option SigningKey) : (Outcome.evaluate request response key).response = response := by
  unfold evaluate
  split
  · rfl
  · split
    · rfl
    · split
      · rfl
      · split <;> rfl

namespace Connection

open Script World

variable {setup : Setup} {timeout : Nat} {request : Request} {text : String}

theorem failure_status_eq (failure : Error) :
    (∃ timeout, failure = .handshakeTimeout timeout) ∧ failureStatus failure = 408 ∨
      (∀ timeout, failure ≠ .handshakeTimeout timeout) ∧ failureStatus failure = 502 := by
  cases failure with
  | handshakeTimeout timeout => exact .inl ⟨⟨timeout, rfl⟩, rfl⟩
  | _ => exact .inr ⟨nofun, rfl⟩

theorem reflects_response (request : Request) {response : Response} (leftover : Bytes)
    (key : Option SigningKey) (genuine : response.isSynthetic = false) :
    (Outcome.evaluate request response key).Reflects (.ok (response, leftover)) := by
  have same := Outcome.response_of_evaluate request response key
  have unmade : (Outcome.evaluate request response key).response.isSynthetic ≠ true := by
    rw [same, genuine]
    decide
  constructor
  case answered =>
    intro _ _ answered
    cases answered
    exact ⟨same, genuine⟩
  case failed => exact nofun
  case late => exact ⟨fun made => absurd made.1 unmade, nofun⟩
  case broken => exact ⟨fun made => absurd made.1 unmade, nofun⟩

theorem reflects_failure (failure : Error) :
    (Outcome.failed (failureStatus failure) failure.message).Reflects (.error failure) := by
  have status : (Outcome.failed (failureStatus failure) failure.message).status =
      failureStatus failure := rfl
  constructor
  case answered => exact nofun
  case failed => exact fun _ _ => ⟨rfl, rfl⟩
  case late =>
    rcases failure_status_eq failure with ⟨⟨timeout, rfl⟩, late⟩ | ⟨other, broken⟩
    · exact ⟨fun _ => ⟨timeout, rfl⟩, fun _ => ⟨rfl, late⟩⟩
    · constructor
      · rw [status, broken]
        exact fun both => absurd both.2 (by decide)
      · rintro ⟨timeout, same⟩
        cases same
        exact absurd rfl (other timeout)
  case broken =>
    rcases failure_status_eq failure with ⟨⟨timeout, rfl⟩, late⟩ | ⟨other, broken⟩
    · constructor
      · rw [status, late]
        exact fun both => absurd both.2 (by decide)
      · rintro ⟨_, same, other⟩
        cases same
        exact absurd rfl (other timeout)
    · exact ⟨fun _ => ⟨failure, rfl, other⟩, fun _ => ⟨rfl, broken⟩⟩

theorem judge_reflects (setup : Setup) (request : Request)
    {exchanged : Except Error (Response × Bytes)}
    (genuine : ∀ response leftover, exchanged = .ok (response, leftover) →
      response.isSynthetic = false) :
    (judge setup request exchanged).1.Reflects exchanged := by
  cases exchanged with
  | ok answer => exact reflects_response request answer.2 _ (genuine answer.1 answer.2 rfl)
  | error failure => exact reflects_failure failure

def heard (setup : Setup) (text : String) (outcome : Outcome) : List Entry :=
  tells setup (.request text) .handshaking ++ tells setup (.response outcome.response) .handshaking

/-- The exchange over a stream, on its own, comes to return this and leaves the stream as `spoken`. -/
structure Converses (setup : Setup) (timeout : Nat) (request : Request) (text : String)
    (stream spoken : Stream) (exchanged : Except Error (Response × Bytes)) : Prop where
  returns : ∃ told answered history,
    told.IsLike { stream, journal := tells setup (.request text) .handshaking } ∧
    (exchanging setup told setup.config.limits timeout request).RunIn alone history
      (solo setup answered (report exchanged)) ∧ answered.stream = spoken
  wrote : ∃ sent, spoken.written = stream.written ++ sent ∧ sent <+: Utf8.encode text ∧
    ((∃ answer, exchanged = .ok answer) → sent = Utf8.encode text)
  genuine : ∀ response leftover, exchanged = .ok (response, leftover) → response.isSynthetic = false

/-- The handshake has failed or was turned down, and the writer is taken to be shut down. -/
def TurnedDown (setup : Setup) (timeout : Nat) (request : Request) (text : String) (stream : Stream)
    (hub : Hub) : Prop :=
  ∃ exchanged spoken left, Converses setup timeout request text stream spoken exchanged ∧
    (judge setup request exchanged).1.isOpen = false ∧ left.written = spoken.written ∧
    hub.IsLike (.withoutWriter left (heard setup text (judge setup request exchanged).1))

def Attempted (setup : Setup) (timeout : Nat) (request : Request) (text : String) (stream : Stream)
    (attempted : Except Error (Response × Bytes) × Bool) (hub : Hub) : Prop :=
  ∃ spoken, Converses setup timeout request text stream spoken attempted.1 ∧
    let outcome := (judge setup request attempted.1).1
    attempted.2 = outcome.isOpen ∧
    (outcome.isOpen = false → ∃ left, left.written = spoken.written ∧
      hub.IsLike
        { Hub.withoutWriter left (heard setup text outcome ++ tells setup .closed .closed) with
          closedAnnounced := true }) ∧
    (outcome.isOpen = true → ∃ isCancelled,
      hub.IsLike
        { phase := .opened, isCancelled, stream := spoken,
          journal := heard setup text outcome ++ tells setup .opened .opened })

variable {stream : Stream} {hub : Hub}

theorem safe_attempt (writes : request.write = (.ok (), text)) (like : hub.IsLike { stream }) :
    (attempt setup timeout request text).Safe setup
      (WaitsLast setup (TurnedDown setup timeout request text stream))
      (Attempted setup timeout request text stream) hub := by
  apply safe_bind (safe_mono _ (Attempt.safe_notify (.request text) like))
  rintro - told ⟨isCancelled, asked, kept⟩
  obtain rfl : isCancelled = false := kept (.inl rfl)
  apply safe_bind (safe_mono _ (safe_reached
    (Attempt.safe_exchange setup.config.limits timeout writes asked rfl) report))
  rintro exchanged answered ⟨⟨writes, genuine⟩, history, run⟩
  obtain ⟨spoken, sent, came, written, part, whole⟩ := writes
  have same : answered.stream = spoken := by
    obtain ⟨_, _, rfl⟩ := came
    rfl
  rw [← exchanging_eq] at run
  have converses : Converses setup timeout request text stream spoken exchanged :=
    ⟨⟨told, answered, history, asked, run, same⟩, ⟨sent, written, part, whole⟩, genuine⟩
  apply safe_bind (safe_mono _ (Attempt.safe_notify (.response _) came))
  rintro - knowing ⟨isCancelled, answers, kept⟩
  obtain rfl : isCancelled = false := kept (.inl rfl)
  apply safe_bind
  cases isOpen : (judge setup request exchanged).1.isOpen with
  | false =>
      have meets : ∀ now left, left.written = spoken.written →
          now.IsLike (.withoutWriter left (heard setup text (judge setup request exchanged).1)) →
          TurnedDown setup timeout request text stream now :=
        fun now left same like => ⟨exchanged, spoken, left, converses, isOpen, same, like⟩
      apply safe_bind (safe_mono _ (Attempt.safe_teardown answers meets))
      rintro - now ⟨left, same, like⟩
      refine ⟨spoken, converses, isOpen.symm, fun _ => ⟨left, same, like⟩, fun opened => ?_⟩
      cases isOpen.symm.trans opened
  | true =>
      apply Attempt.safe_step (.movePhase .handshaking .opened) _
        { phase := .opened, stream := spoken,
          journal := heard setup text (judge setup request exchanged).1 }
        true nofun (fun _ _ => rfl) answers
      intro now like
      apply safe_bind (safe_mono _ (Attempt.safe_notify .opened like))
      rintro - later ⟨isCancelled, told, -⟩
      refine ⟨spoken, converses, isOpen.symm, fun closed => ?_, fun _ => ⟨isCancelled, told⟩⟩
      cases isOpen.symm.trans closed

theorem prompt_start (setup : Setup) (leftover : Bytes) :
    (start setup leftover).All Action.IsPrompt := by
  have maintained (scheduler : Nat) :
      (if isRunning setup.config.maintenance then do
        perform (.spawn (.maintenance scheduler none))
        return scheduler
      else return scheduler : Script Nat).All Action.IsPrompt := by
    split
    · exact ⟨trivial, fun _ => trivial⟩
    · exact trivial
  have scheduled : (startScheduler setup).All Action.IsPrompt := by
    refine ⟨trivial, fun scheduler => ?_⟩
    change (if isRunning setup.config.keepalive then _ else _ : Script Nat).All Action.IsPrompt
    split
    · exact ⟨trivial, fun _ => maintained scheduler⟩
    · exact maintained scheduler
  refine ⟨trivial, fun _ => ?_⟩
  change (if setup.config.keepalive.isEnabled || setup.config.maintenance.isEnabled then _ else _ :
    Script Unit).All Action.IsPrompt
  split
  · exact scheduled.bind fun scheduler => ⟨trivial, fun _ => trivial⟩
  · exact trivial

theorem conclude_concludes (setup : Setup) (request : Request)
    (attempted : Except Error (Response × Bytes) × Bool) :
    (conclude setup request attempted).Concludes 0
      (.connected (.ok (judge setup request attempted.1).1)) 0 False := by
  obtain ⟨exchanged, isOpened⟩ := attempted
  apply Script.concludes_bind
  · cases isOpened with
    | false => exact trivial
    | true => exact prompt_start setup _
  · exact fun _ _ => ⟨.inr rfl, fun _ => ⟨rfl, .inr rfl⟩⟩

end Connection

theorem Action.stuck_shutdown_iff (setup : Setup) (actor deadline : Nat) (hub : Hub) :
    (Action.shutdown deadline).effects setup actor hub = [] ↔
      hub.stream.closing.turn hub.now = .blocked ∧ hub.now < deadline := by
  simp only [effects, Hub.transfer]
  cases turned : hub.stream.closing.turn hub.now with
  | blocked =>
      by_cases late : deadline ≤ hub.now
      · simp [late, Hub.answer]
      · simp [late]
        omega
  | waiting side => simp
  | plays cue side => simp [Hub.answer]

namespace World

open Script Connection

/-- A client that connects over an established stream. It gives up once its token is cancelled. -/
def connecting (setup : Setup) (hub : Hub) (timeout : Nat) (request : Request) : World :=
  (⟨setup, hub, []⟩ : World).begin
    ((connect setup timeout request).bind fun result => done (.connected result)) true

variable {setup : Setup} {hub : Hub} {timeout : Nat} {request : Request} {text : String}

theorem connecting_eq (setup : Setup) (hub : Hub) (timeout : Nat)
    (writes : request.write = (.ok (), text)) : connecting setup hub timeout request =
      lone setup hub ((attempt setup timeout request text).bind (conclude setup request)) := by
  rw [← connect_in_stages writes]
  calc connecting setup hub timeout request
      = lone setup hub (((connect setup timeout request).bind fun result =>
          done (.connected result)).bind fun content =>
            act (.report 0 content) fun _ => done none) := rfl
    _ = lone setup hub ((connect setup timeout request).bind fun result =>
          act (.report 0 (.connected result)) fun _ => done none) := by
      rw [bind_assoc]
      rfl

variable {stream : Stream} {now : Nat} {history : History} {world : World}

theorem reported_of_run {content : Report} {base : Hub} (like : hub.IsLike base)
    (run : (lone setup hub (act (.report 0 content) fun _ => done none)).RunIn alone history world)
    (returned : world.HasReturned 0) :
    world.actors = [⟨done none, true⟩] ∧
      world.hub.IsLike { base with journal := base.journal ++ [.reported 0 content base.phase] } := by
  have safe : (perform (.report 0 content)).Safe setup (WaitsLast setup fun _ => True)
      (fun _ now =>
        now.IsLike { base with journal := base.journal ++ [.reported 0 content base.phase] }) hub := by
    apply Attempt.safe_step (.report 0 content) base
      { base with journal := base.journal ++ [.reported 0 content base.phase] } () nofun
      (fun _ _ => rfl) like
    exact fun now logged => logged
  change (lone setup hub ((perform (.report 0 content)).bind fun _ => done none)).RunIn _ _ _ at run
  rcases stage_of_run safe run with
    ⟨now, action, rest, rfl, -⟩ | ⟨before, behind, now, done, -, logged, -, further⟩
  · cases returned
  · obtain ⟨time, rfl⟩ := idle_of_run further
    exact ⟨rfl, logged.after time⟩

/-- The receive loop has been started on these bytes, once the connection was open and everybody
had been told; nobody has been told anything by the client since then. -/
def Opened (setup : Setup) (text : String) (spoken : Stream) (outcome : Outcome) (leftover : Bytes)
    (start : World) (history : History) : Prop :=
  ∃ before behind ready isCancelled,
    history = before ++
      ⟨0, .spawn (.receive leftover { limits := setup.config.limits }), some ()⟩ :: behind ∧
    start.RunIn alone before ready ∧ ready.actors.length = 1 ∧
    ready.hub.IsLike
      { phase := .opened, isCancelled, stream := spoken,
        journal := heard setup text outcome ++ tells setup .opened .opened } ∧
    ∀ happening ∈ behind, happening.actor = 0 →
      happening.action.IsPrompt ∨ happening.action = .report 0 (.connected (.ok outcome))

/-- The connection has been torn down, everybody has been told, and nothing is left to be done. -/
def Refused (setup : Setup) (text : String) (spoken : Stream) (outcome : Outcome) (world : World) :
    Prop :=
  world.actors = [⟨done none, true⟩] ∧ ∃ left, left.written = spoken.written ∧
    world.hub.IsLike
      { Hub.withoutWriter left (heard setup text outcome ++ tells setup .closed .closed ++
          [.reported 0 (.connected (.ok outcome)) .closed]) with closedAnnounced := true }

section

variable {start : World} {before behind : History} {spoken : Stream}
variable {exchanged : Except Error (Response × Bytes)}

theorem opened_of_run {isCancelled : Bool}
    (like : hub.IsLike
      { phase := .opened, isCancelled, stream := spoken,
        journal := heard setup text (judge setup request exchanged).1 ++ tells setup .opened .opened })
    (came : start.RunIn alone before (lone setup hub (conclude setup request (exchanged, true))))
    (further : (lone setup hub (conclude setup request (exchanged, true))).RunIn alone behind world)
    (begun : behind ≠ [])
    (quiet : ∀ happening ∈ behind, happening.actor = 0 → happening.action.IsPrompt ∨
      happening.action = .report 0 (.connected (.ok (judge setup request exchanged).1))) :
    Opened setup text spoken (judge setup request exchanged).1 (judge setup request exchanged).2
      start (before ++ behind) := by
  have replies : ∀ now : Hub, ∀ effect ∈ (Action.spawn (.receive (judge setup request exchanged).2
      { limits := setup.config.limits })).effects setup 0 now,
      ∃ reply, effect.reply = some reply := by
    intro now effect member
    obtain rfl := List.mem_singleton.mp member
    exact ⟨(), rfl⟩
  rcases begins_of_run replies further with ⟨rfl, -⟩ | ⟨reply, more, rfl⟩
  · exact absurd rfl begun
  · refine ⟨before, more, _, isCancelled, rfl, came, rfl, like, fun happening member => ?_⟩
    exact quiet happening (List.mem_cons_of_mem _ member)

end

/-- The actor waits for the shutdown of the writer. -/
def AwaitsShutdown (world : World) (index : Nat) : Prop :=
  ∃ deadline next, world.actors[index]? = some ⟨.act (.shutdown deadline) next, true⟩ ∧
    world.hub.stream.closing.turn world.hub.now = .blocked ∧ world.hub.now < deadline

theorem cancelled_of_turned_down (turnedDown : TurnedDown setup timeout request text stream hub) :
    hub.isCancelled = true := by
  obtain ⟨_, _, _, -, -, -, _, _, rfl⟩ := turnedDown
  rfl

section

variable {Result : Type} {post : Result → Hub → Prop} {next : Result → Script (Option Task)}

/-- Within the attempt the client gives up where the shutdown of the writer has to wait. -/
theorem gives_up_within
    (within : IsWithin setup (WaitsLast setup (TurnedDown setup timeout request text stream)) post
      next world) :
    (world.GivesUp 0 ↔ world.AwaitsShutdown 0) ∧
      (world.GivesUp 0 → TurnedDown setup timeout request text stream world.hub) := by
  obtain ⟨now, action, rest, rfl, holds, held, steady⟩ := within
  obtain ⟨⟨meets, last⟩, -⟩ := steady now held
  have shuts : (lone setup now (act action fun reply => (rest reply).bind next)).GivesUp 0 →
      ∃ deadline, action = .shutdown deadline := by
    rintro ⟨other, further, here, stuck, cancelled⟩
    cases here
    exact last cancelled stuck
  refine ⟨⟨fun givesUp => ?_, ?_⟩, fun givesUp => ?_⟩
  · obtain ⟨deadline, rfl⟩ := shuts givesUp
    obtain ⟨other, further, here, stuck, cancelled⟩ := givesUp
    cases here
    exact ⟨deadline, _, rfl, (Action.stuck_shutdown_iff setup 0 deadline now).mp stuck⟩
  · rintro ⟨deadline, further, here, blocked⟩
    cases here
    refine ⟨_, _, rfl, (Action.stuck_shutdown_iff setup 0 deadline now).mpr blocked, ?_⟩
    exact cancelled_of_turned_down (meets deadline rfl)
  · obtain ⟨deadline, same⟩ := shuts givesUp
    exact meets deadline same

end

theorem not_gives_up_of_concludes {content : Report} {rest : Script (Option Task)}
    {isReported : Prop} (here : world.actors[0]? = some ⟨rest, true⟩)
    (concludes : rest.Concludes 0 content 0 isReported) :
    ¬world.GivesUp 0 ∧ ¬world.AwaitsShutdown 0 := by
  constructor
  · rintro ⟨action, next, there, stuck, -⟩
    cases here.symm.trans there
    obtain ⟨effect, reply, effects, -⟩ := effect_of_concluding concludes.1 world.setup 0 world.hub
    cases effects.symm.trans stuck
  · rintro ⟨deadline, next, there, -⟩
    cases here.symm.trans there
    rcases concludes.1 with prompt | reports
    · exact prompt
    · cases reports

theorem quiet_of_abort (setup : Setup) (hub : Hub) (script : Script (Option Task)) :
    ((lone setup hub script).abort 0).isQuiet := by
  intro index
  cases index <;> rfl

/-- Whatever the server does, a client that connects over an established stream can be brought to
its end, and then it has reported the outcome of the exchange. If that is open, the connection was
opened before everybody was told so, and the receive loop started on what came behind the response;
if not, nothing was written but the request, and the connection is torn down. Before its end the
client can give up: exactly while the shutdown of the writer has to wait, after a handshake that did
not open the connection, and then nobody is ever told that it is closed. -/
theorem connect_outcome (writes : request.write = (.ok (), text))
    (run : (connecting setup { now, stream } timeout request).RunIn alone history world) :
    (∃ later final, world.RunIn alone later final ∧ final.HasReturned 0) ∧
    (world.HasReturned 0 → ∃ exchanged spoken outcome leftover,
      Converses setup timeout request text stream spoken exchanged ∧
      judge setup request exchanged = (outcome, leftover) ∧ outcome.Reflects exchanged ∧
      ⟨0, .report 0 (.connected (.ok outcome)), some ()⟩ ∈ history ∧
      (outcome.isOpen = true → Opened setup text spoken outcome leftover
        (connecting setup { now, stream } timeout request) history) ∧
      (outcome.isOpen = false → Refused setup text spoken outcome world)) ∧
    (world.GivesUp 0 ↔ world.AwaitsShutdown 0) ∧
    (world.GivesUp 0 → TurnedDown setup timeout request text stream world.hub ∧
      world.moves 0 = [world.abort 0] ∧ (world.abort 0).isQuiet) := by
  rw [connecting_eq setup { now, stream } timeout writes] at run ⊢
  rcases stage_of_run (safe_attempt writes ⟨now, [], rfl⟩) run with within |
    ⟨before, behind, later, attempted, rfl, ended, came, further⟩
  · obtain ⟨givesUp, turnedDown⟩ := gives_up_within within
    obtain ⟨later, action, rest, rfl, safe⟩ := within
    refine ⟨?_, nofun, givesUp, fun stuck =>
      ⟨turnedDown stuck, moves_of_gives_up stuck, quiet_of_abort setup later _⟩⟩
    obtain ⟨through, ready, attempted, came, -⟩ := comes_through safe (conclude setup request)
    obtain ⟨behind, final, finished, returned⟩ :=
      concludes_to_end (starts_alone setup ready _) (conclude_concludes setup request attempted)
    exact ⟨_, final, came.trans finished, returned⟩
  · obtain ⟨quiet, ⟨rest, _, here, concludes⟩, reported⟩ :=
      concludes_of_run (starts_alone setup later _) (conclude_concludes setup request attempted) further
    obtain ⟨notStuck, notShutting⟩ := not_gives_up_of_concludes here concludes
    refine ⟨concludes_to_end here concludes, fun returned => ?_,
      iff_of_false notStuck notShutting, fun stuck => absurd stuck notStuck⟩
    obtain ⟨exchanged, isOpened⟩ := attempted
    obtain ⟨spoken, converses, same, refused, opened⟩ := ended
    have reflects := judge_reflects setup request converses.genuine
    have inside := List.mem_append_right before (reported returned)
    refine ⟨exchanged, spoken, _, _, converses, rfl, reflects, inside, ?_, ?_⟩
    · intro isOpen
      obtain rfl : isOpened = true := same.trans isOpen
      obtain ⟨isCancelled, like⟩ := opened isOpen
      exact opened_of_run like came further (List.ne_nil_of_mem (reported returned)) quiet
    · intro isClosed
      obtain rfl : isOpened = false := same.trans isClosed
      obtain ⟨left, written, like⟩ := refused isClosed
      obtain ⟨alone, last⟩ := reported_of_run like further returned
      exact ⟨alone, left, written, last⟩

def forbidding : Stream :=
  { reading := { cues :=
    [.data [72, 84, 84, 80, 47, 49, 46, 49, 32, 52, 48, 51, 32, 88, 13, 10, 13, 10]] } }

def forbidden : History × World :=
  play (List.replicate 18 0) ([],
    connecting { observers := [{}] } { stream := forbidding } 1000 ⟨"/", "example.com", {}, ""⟩)

def isForbidding (happening : Happening) : Bool :=
  match happening.action with
  | .report _ (.connected (.ok outcome)) => outcome.status == 403 && !outcome.isOpen
  | _ => true

theorem connect_outcome_of_forbidden :
    forbidden.2.HasReturned 0 ∧ ∃ spoken outcome,
      ⟨0, .report 0 (.connected (.ok outcome)), some ()⟩ ∈ forbidden.1 ∧
      outcome.status = 403 ∧ outcome.isOpen = false ∧
      Refused { observers := [{}] } "GET / HTTP/1.1\r\n\r\n" spoken outcome forbidden.2 := by
  have run : (connecting { observers := [{}] } { now := 0, stream := forbidding } 1000
      ⟨"/", "example.com", {}, ""⟩).RunIn alone forbidden.1 forbidden.2 := run_in_of_play _ .refl
  have returned : forbidden.2.HasReturned 0 := by decide +kernel
  have reports : ∀ happening ∈ forbidden.1, isForbidding happening = true := by decide +kernel
  have writes : Request.write ⟨"/", "example.com", {}, ""⟩ =
      (.ok (), "GET / HTTP/1.1\r\n\r\n") := rfl
  obtain ⟨-, returns, -⟩ := connect_outcome writes run
  obtain ⟨exchanged, spoken, outcome, leftover, -, -, -, reported, -, refused⟩ := returns returned
  have facts : outcome.status = 403 ∧ outcome.isOpen = false := by
    simpa [isForbidding] using reports _ reported
  exact ⟨returned, spoken, outcome, reported, facts.1, facts.2, refused facts.2⟩

/-- A server that takes three bytes of the request and no more; so the shutdown has to wait, too. -/
def unreading : Stream :=
  { writing := { cues := [.accept 3, .hang] }, closing := { cues := [.hang] } }

/-- A client without patience, over such a stream. -/
def impatient : World :=
  connecting { observers := [{}] } { stream := unreading } 1 ⟨"/", "example.com", {}, ""⟩

def stalled : History × World := play [0, 0, 0] ([], impatient)

def stuck : History × World :=
  play (List.replicate 10 0) (stalled.1, { stalled.2 with hub := stalled.2.hub.after 1 })

theorem not_connect_returns :
    impatient.RunIn alone stuck.1 stuck.2 ∧
      Request.write ⟨"/", "example.com", {}, ""⟩ = (.ok (), "GET / HTTP/1.1\r\n\r\n") ∧
      stuck.2.moves 0 = [stuck.2.abort 0] ∧
      (stuck.2.abort 0).HasReturned 0 ∧ (stuck.2.abort 0).actors.length = 1 ∧
      (stuck.2.abort 0).reportOf 0 = some (.connected (.error .cancelled)) ∧
      (stuck.2.abort 0).hub.closedAnnounced = false ∧
      ∀ phase, .told 0 .closed phase ∉ (stuck.2.abort 0).hub.journal := by
  have gives : stuck.2.GivesUp 0 := by decide +kernel
  refine ⟨run_in_of_play _ (.drift (run_in_of_play _ .refl) rfl), rfl, moves_of_gives_up gives,
    by decide +kernel, by decide +kernel, ?_, by decide +kernel, fun phase told => ?_⟩
  · exact congrArg Footing.report
      (Hub.report_log stuck.2.hub 0 (.connected (.error .cancelled)) stuck.2.hub.phase)
  · have unheard : .closed ∉ (stuck.2.abort 0).hub.heardBy 0 := by decide +kernel
    exact unheard (Hub.mem_heard_by told)

end World

end WebSocket
