import WebSocket.Proofs.Connection.Common

/-!
What the receive loop still tells when somebody else has torn the connection down. Between two
frames that it has already, the loop does not look whether the connection goes on. It looks at the
token before it reads, and then it finds that all is over; so the frames it tells of behind the end
are those it held then, and those that a read has brought for which it had looked before.
-/

namespace WebSocket

open Script Connection

/-- Where a receive loop stands: it handles the frames it has, it is about to read, or it has come
to its end. -/
inductive Reception where
  | handling
  | listening
  | ended
  deriving DecidableEq, Repr

namespace Reception

/-- Frames are told of by a loop that handles them, and a read is begun by one that has found the
token uncancelled. Where violations do not close the connection, a loop that closes has ended. -/
def conduct (config : Config) : Conduct Reception where
  start := handling
  permits _ reception
    | .tell _ event => event.isInbound = true → reception = handling
    | .read .. => reception = listening
    | _ => True
  after reception action reply :=
    match reception, action, reply with
    | ended, _, _ => ended
    | _, .readToken, isCancelled => if isCancelled then ended else listening
    | _, .read .., .data _ => handling
    | _, .read .., .timedOut => handling
    | _, .read .., _ => ended
    | other, .closePhase, _ => if config.closeOnViolation then other else ended
    | other, _, _ => other

def IsThrough : Option Task → Reception → Prop
  | some (.receive ..), reception => reception = handling
  | _, _ => True

variable {config : Config} {reception : Reception} {actor : Nat} {action : Action}

theorem permits_of_deaf (deaf : action.isOfLoop = false) :
    (conduct config).permits actor reception action := by
  cases action with
  | tell observer event => exact fun inbound => absurd (inbound.symm.trans deaf) nofun
  | readToken | read => cases deaf
  | _ => exact trivial

/-- The action neither is the loop's business nor brings a loop to its end. -/
def IsBeside (config : Config) (action : Action) : Prop :=
  action.isOfLoop = false ∧ (config.closeOnViolation = true ∨ action ≠ .closePhase)

theorem after_of_beside (beside : IsBeside config action) (reply : action.Reply) :
    (conduct config).after reception action reply = reception := by
  obtain ⟨deaf, stays⟩ := beside
  cases reception with
  | ended => cases action <;> rfl
  | _ =>
      cases action with
      | readToken | read => cases deaf
      | closePhase =>
          have closes : config.closeOnViolation = true := stays.resolve_right fun other => other rfl
          simp [conduct, closes]
      | _ => rfl

end Reception

def Script.IsDeaf {Result : Type} (script : Script Result) : Prop :=
  script.All fun action => action.isOfLoop = false

namespace Script

variable {Result : Type} {script : Script Result} {config : Config} {actor : Nat}
variable {reception : Reception}

theorem IsCommon.deaf (common : script.IsCommon) : script.IsDeaf :=
  common.mono fun _ => Action.not_of_loop

theorem IsDeaf.follows (deaf : script.IsDeaf) :
    script.Follows (Reception.conduct config) actor (fun _ _ => True) reception := by
  induction script generalizing reception with
  | done result => exact trivial
  | act action next induction =>
      exact ⟨Reception.permits_of_deaf deaf.1, fun reply => induction reply (deaf.2 reply)⟩

theorem follows_of_beside (beside : script.All (Reception.IsBeside config)) :
    script.Follows (Reception.conduct config) actor (fun _ after => after = reception) reception :=
  beside.follows (fun _ beside => Reception.permits_of_deaf beside.1)
    fun _ => Reception.after_of_beside

end Script

theorem Connection.deaf_await_turn (setup : Setup) (scheduler period : Nat) (due : Option Nat) :
    (awaitTurn setup scheduler period due).IsDeaf := by
  apply (await_turn_waits setup scheduler period due).mono
  rintro action (rfl | timer)
  · rfl
  · cases action <;> first | rfl | cases timer

namespace Reception

variable {setup : Setup} {config : Config} {reception : Reception} {actor : Nat} {Result : Type}

def GoesOn (next : Option Assembler) (reception : Reception) : Prop := next ≠ none → reception = handling

theorem follows_notify (event : Event) :
    (notify setup event).Follows (conduct config) actor (fun _ after => after = handling) handling := by
  have tells : (notify setup event).All fun action => ∃ observer, action = .tell observer event :=
    notify_tells setup fun observer => ⟨observer, rfl⟩
  apply tells.follows
  · rintro _ ⟨observer, rfl⟩
    exact fun _ => rfl
  · rintro _ ⟨observer, rfl⟩ reply
    rfl

theorem follows_transmit (frame : Frame) :
    (transmit setup frame).Follows (conduct config) actor (fun _ after => after = reception)
      reception := by
  apply follows_of_beside
  apply (transmit_sends setup frame).mono
  intro action sending
  cases action with
  | tell observer event => cases event <;> first | exact sending.elim | exact ⟨rfl, .inr nofun⟩
  | _ => first | exact sending.elim | exact ⟨rfl, .inr nofun⟩

theorem follows_last {script : Script Result} (common : script.IsCommon) :
    (script.bind fun _ => .done (none : Option Assembler)).Follows (conduct config) actor GoesOn
      reception :=
  common.deaf.follows.bind fun _ _ _ => fun other => absurd rfl other

theorem follows_protocol_failure (failure : Error) :
    (protocolFailure setup failure).Follows (conduct config) actor GoesOn reception :=
  follows_last (.of_fail _ _)

theorem follows_deliver (message : Message) (assembler : Assembler) :
    (deliver setup message assembler).Follows (conduct config) actor GoesOn handling := by
  unfold deliver
  split
  · exact follows_protocol_failure _
  · exact (follows_notify _).bind fun _ _ same _ => same
  · exact (follows_notify _).bind fun _ _ same _ => same

theorem follows_answer_ping (payload : Bytes) (assembler : Assembler) :
    (answerPing setup payload assembler).Follows (conduct config) actor GoesOn handling := by
  apply (follows_notify _).bind
  rintro _ _ rfl
  refine ⟨trivial, fun phase => ?_⟩
  cases phase with
  | opened =>
      apply (follows_transmit _).bind
      rintro status _ rfl
      split
      · exact follows_last (.of_fail _ _)
      · exact fun _ => rfl
  | _ => exact fun _ => rfl

theorem follows_dispatch (assembler : Assembler) (frame : Frame) :
    (dispatch setup assembler frame).Follows (conduct config) actor GoesOn handling := by
  unfold dispatch
  split
  · exact follows_protocol_failure _
  · split
    · exact follows_answer_ping _ assembler
    · exact (follows_notify _).bind fun _ _ same _ => same
    · split
      · exact follows_protocol_failure _
      · exact (follows_notify _).bind fun _ _ _ => follows_last (.of_handle_peer_close _)
    · split
      · exact follows_protocol_failure _
      · exact fun _ => rfl
      · exact follows_deliver _ _

theorem follows_skip_unexpected (opcode : Byte) :
    (skipUnexpected setup opcode).Follows (conduct setup.config) actor
      (fun _ after => after = handling) handling := by
  apply (follows_notify _).bind
  rintro _ _ rfl
  split
  · rename_i closes
    have beside {Result : Type} {script : Script Result} (common : script.IsCommon) :
        script.All (IsBeside setup.config) :=
      common.mono fun _ common => ⟨Action.not_of_loop common, .inl closes⟩
    refine (follows_of_beside (beside .of_is_open)).bind ?_
    rintro isOpen _ rfl
    cases isOpen with
    | false => exact rfl
    | true => exact (follows_of_beside (beside (.of_begin_close _ _))).bind fun _ _ same => same
  · exact rfl

theorem follows_read_more (pending : Bytes) (assembler : Assembler) :
    (readMore setup pending assembler).Follows (conduct config) actor IsThrough handling := by
  have ends {reception : Reception} : ((teardown setup).bind fun _ => .done (none : Option Task)).Follows
      (conduct config) actor IsThrough reception :=
    IsCommon.of_teardown.deaf.follows.bind fun _ _ _ => trivial
  refine ⟨trivial, fun isCancelled => ?_⟩
  cases isCancelled with
  | true => exact ends
  | false =>
      refine ⟨trivial, fun start => ⟨rfl, fun reading => ?_⟩⟩
      cases reading with
      | data bytes => exact rfl
      | timedOut => exact rfl
      | _ => exact ends

theorem follows_receive (pending : Bytes) (assembler : Assembler) :
    (receive setup pending assembler).Follows (conduct setup.config) actor IsThrough handling := by
  unfold receive
  split
  · exact (IsCommon.of_fail _ _).deaf.follows.bind fun _ _ _ => trivial
  · exact follows_read_more pending assembler
  · exact (follows_skip_unexpected _).bind fun _ _ same => same
  · apply (follows_dispatch assembler _).bind
    intro next after goesOn
    cases next with
    | none => exact trivial
    | some next => exact goesOn nofun

theorem follows_keepalive (scheduler : Nat) (due : Option Nat) (count : Nat) :
    (keepalive setup scheduler due count).Follows (conduct config) actor IsThrough reception := by
  refine (deaf_await_turn setup scheduler _ due).follows.bind fun tick _ _ => ?_
  cases tick with
  | none => exact trivial
  | some tick =>
      have body : (isOpen.bind fun isOpen =>
          if isOpen then sendKeepalive setup (count + 1) else pure false).IsCommon :=
        All.bind IsCommon.of_is_open fun _ => All.ite (IsCommon.of_send_keepalive _) trivial
      dsimp only
      split
      · exact trivial
      · refine body.deaf.follows.bind fun goesOn _ _ => ⟨trivial, fun _ => ?_⟩
        cases goesOn <;> exact trivial

theorem follows_maintenance (scheduler : Nat) (due : Option Nat) :
    (maintenance setup scheduler due).Follows (conduct config) actor IsThrough reception := by
  refine (deaf_await_turn setup scheduler _ due).follows.bind fun tick _ _ => ?_
  cases tick with
  | none => exact trivial
  | some tick =>
      dsimp only
      split
      · exact trivial
      · refine IsCommon.of_is_open.deaf.follows.bind fun isOpen _ _ => ?_
        cases isOpen with
        | false => exact ⟨trivial, fun _ => trivial⟩
        | true => exact IsCommon.of_run_hook.deaf.follows.bind fun _ _ _ => ⟨trivial, fun _ => trivial⟩

theorem follows_watchdog : (watchdog setup).Follows (conduct config) actor IsThrough reception := by
  refine ⟨trivial, fun _ => ⟨trivial, fun isClosed => ?_⟩⟩
  cases isClosed with
  | false => exact IsCommon.of_teardown.deaf.follows.bind fun _ _ _ => trivial
  | true => exact trivial

theorem follows_task {task : Task} (through : IsThrough (some task) reception) :
    (task.script setup).Follows (conduct setup.config) actor IsThrough reception := by
  cases task with
  | receive pending assembler =>
      obtain rfl : reception = handling := through
      exact follows_receive pending assembler
  | watchdog => exact follows_watchdog
  | keepalive scheduler due count => exact follows_keepalive scheduler due count
  | maintenance scheduler due => exact follows_maintenance scheduler due

theorem through_at_start (task : Task) : IsThrough (some task) handling := by
  cases task with
  | receive pending assembler => exact rfl
  | _ => exact trivial

theorem follows_of_passing {script : Script (Option Task)} (passing : script.IsPassing) :
    script.Follows (conduct config) actor IsThrough reception := by
  obtain ⟨_, part, common, rfl⟩ := passing
  exact common.deaf.follows.bind fun _ _ _ => trivial

end Reception

theorem World.reception_respected (setup : Setup) :
    operations.Respects (Reception.conduct setup.config) Reception.IsThrough setup where
  begins operates actor := by
    rcases operates.passes with passing | ⟨task, rfl⟩
    · exact Reception.follows_of_passing passing
    · exact Reception.follows_task (Reception.through_at_start task)
  spawns _ _ := Reception.follows_task (Reception.through_at_start _)
  resumes through := Reception.follows_task through

/-- A read that has been answered, with bytes or without. -/
def Happening.isReading : Happening → Bool
  | ⟨_, .read .., some _⟩ => true
  | _ => false

namespace Reception

/-- How often a loop reads before it looks at the token again. -/
def readsLeft : Reception → Nat
  | listening => 1
  | _ => 0

theorem listening_of_reads_left {reception : Reception} (left : 0 < reception.readsLeft) :
    reception = listening := by
  cases reception with
  | listening => rfl
  | _ => cases left

theorem listening_of_after {config : Config} {reception : Reception} {action : Action}
    {reply : action.Reply} (listens : (conduct config).after reception action reply = listening)
    (actor : Nat) :
    reception = listening ∨
      (⟨actor, action, some reply⟩ : Happening) = ⟨actor, .readToken, some false⟩ := by
  cases action with
  | readToken =>
      cases reply with
      | false => exact .inr rfl
      | true => cases reception <;> cases listens
  | read => cases reception <;> cases reply <;> cases listens
  | closePhase =>
      cases reception with
      | ended => cases listens
      | listening => exact .inl rfl
      | handling =>
          simp only [conduct] at listens
          split at listens <;> cases listens
  | _ => cases reception <;> first | exact .inl rfl | cases listens

/-- Behind a place of the history the actor has not looked at the token. What it has read since, or
may be about to read, is one reading at most, and for that it had looked before. -/
structure IsUnaware (history : History) (place actor : Nat) (reception : Reception) : Prop where
  unseen : ∀ seen, ⟨actor, .readToken, some seen⟩ ∉ history.behind place actor
  reads : (history.behind place actor).countP Happening.isReading + reception.readsLeft ≤ 1
  looked : 0 < (history.behind place actor).countP Happening.isReading + reception.readsLeft →
    ⟨actor, .readToken, some false⟩ ∈ history.take place

namespace IsUnaware

variable {config : Config} {setup : Setup} {history : History} {place actor : Nat}
variable {reception after : Reception} {newest : Happening} {hub : Hub} {action : Action}
variable {effect : Effect action.Reply}

theorem append (unaware : IsUnaware history place actor reception) (within : place < history.length)
    (blind : ∀ seen, newest ≠ ⟨actor, .readToken, some seen⟩)
    (reads : newest.isReading.toNat + after.readsLeft ≤ reception.readsLeft) :
    IsUnaware (history ++ [newest]) place actor after := by
  have fewer : (History.behind (history ++ [newest]) place actor).countP Happening.isReading +
      after.readsLeft ≤
        (history.behind place actor).countP Happening.isReading + reception.readsLeft := by
    rw [History.behind_append within, List.countP_append]
    split
    · cases reading : newest.isReading <;> simp [reading] at reads ⊢ <;> omega
    · simp
      omega
  refine ⟨fun seen found => ?_, Nat.le_trans fewer unaware.reads, fun reading => ?_⟩
  · rw [History.behind_append within] at found
    rcases List.mem_append.mp found with earlier | latest
    · exact unaware.unseen seen earlier
    · split at latest
      · exact blind seen (List.mem_singleton.mp latest).symm
      · cases latest
  · rw [List.take_append_of_le_length (Nat.le_of_lt within)]
    exact unaware.looked (Nat.lt_of_lt_of_le reading fewer)

theorem other (unaware : IsUnaware history place actor reception) (within : place < history.length)
    (elsewhere : newest.actor ≠ actor) : IsUnaware (history ++ [newest]) place actor reception := by
  have same : History.behind (history ++ [newest]) place actor = history.behind place actor := by
    rw [History.behind_append within, if_neg elsewhere, List.append_nil]
  refine ⟨same ▸ unaware.unseen, same ▸ unaware.reads, ?_⟩
  rw [same, List.take_append_of_le_length (Nat.le_of_lt within)]
  exact unaware.looked

theorem own (unaware : IsUnaware history place actor reception) (within : place < history.length)
    (permitted : (conduct config).permits actor reception action)
    (cancelled : hub.isCancelled = true) (member : effect ∈ action.effects setup actor hub)
    {reply : action.Reply} (answered : effect.reply = some reply) :
    (conduct config).after reception action reply = .ended ∨
      IsUnaware (history ++ [⟨actor, action, some reply⟩]) place actor
        ((conduct config).after reception action reply) := by
  cases action with
  | readToken =>
      obtain rfl := List.mem_singleton.mp member
      obtain rfl : reply = true := (Option.some.inj answered).symm.trans cancelled
      cases reception <;> exact .inl rfl
  | read room deadline isCancellable =>
      obtain rfl : reception = listening := permitted
      cases reply with
      | data bytes => exact .inr (unaware.append within nofun (Nat.le_refl 1))
      | timedOut => exact .inr (unaware.append within nofun (Nat.le_refl 1))
      | _ => exact .inl rfl
  | closePhase =>
      cases closes : config.closeOnViolation with
      | false =>
          left
          cases reception <;> simp [conduct, closes]
      | true =>
          rw [after_of_beside ⟨rfl, .inl closes⟩]
          exact .inr (unaware.append within nofun (Nat.le_of_eq (Nat.zero_add _)))
  | _ =>
      refine .inr (unaware.append within nofun ?_)
      cases reception <;> exact Nat.le_refl _

end IsUnaware

end Reception

namespace History

variable {history : History} {config : Config}

theorem looked_of_listening {actor : Nat} (history : History) :
    history.stand (Reception.conduct config) actor = .listening →
      ⟨actor, .readToken, some false⟩ ∈ history := by
  refine stand_induction (motive := fun history (reception : Reception) =>
    reception = .listening → ⟨actor, .readToken, some false⟩ ∈ history) ?_ ?_ ?_ history
  · intro listens
    cases listens
  · intro history action reply earlier listens
    rcases Reception.listening_of_after listens actor with before | looks
    · exact List.mem_append_left _ (earlier before)
    · exact List.mem_append_right history (looks ▸ List.mem_cons_self)
  · exact fun _ _ _ earlier listens => List.mem_append_left _ (earlier listens)

/-- Once an observer has been told of the end, an actor that has not ended yet is unaware of it. -/
def Subsides (history : History) (config : Config) : Prop :=
  ∀ place winner observer, history[place]? = some ⟨winner, .tell observer .closed, some ()⟩ →
    ∀ actor, history.stand (Reception.conduct config) actor = .ended ∨
      Reception.IsUnaware history place actor (history.stand (Reception.conduct config) actor)

theorem Subsides.step {setup : Setup} {hub : Hub} {actor : Nat} {action : Action}
    {effect : Effect action.Reply} (subsides : history.Subsides config)
    (cancelled : ∀ winner observer, ⟨winner, .tell observer .closed, some ()⟩ ∈ history →
      hub.isCancelled = true)
    (permitted : (Reception.conduct config).permits actor
      (history.stand (Reception.conduct config) actor) action)
    (member : effect ∈ action.effects setup actor hub) :
    Subsides (history ++ [⟨actor, action, effect.reply⟩]) config := by
  intro place winner observer found other
  rcases of_append found with ⟨within, earlier⟩ | ⟨rfl, same⟩
  · have before := subsides place winner observer earlier other
    by_cases own : actor = other
    · subst own
      cases answered : effect.reply with
      | none =>
          have unread : Happening.isReading ⟨actor, action, none⟩ = false := by cases action <;> rfl
          rw [stand_waiting]
          refine before.imp_right fun unaware => unaware.append within (fun _ => nofun) ?_
          rw [unread]
          exact Nat.le_of_eq (Nat.zero_add _)
      | some reply =>
          rw [stand_own]
          rcases before with finished | unaware
          · left
            rw [finished]
            cases action <;> rfl
          · exact unaware.own within permitted (cancelled _ _ (List.mem_of_getElem? earlier)) member answered
    · rw [stand_other own]
      exact before.imp_right fun unaware => unaware.other within own
  -- The end is being told of in this very step, and nothing is behind it yet.
  · right
    refine ⟨fun seen => by simp [behind_newest], ?_, fun reading => ?_⟩
    · rw [behind_newest]
      cases stand _ _ other <;> decide
    · rw [behind_newest] at reading
      have listens : stand _ (Reception.conduct config) other = .listening :=
        Reception.listening_of_reads_left (by simpa using reading)
      rw [List.take_left]
      rcases List.mem_append.mp (looked_of_listening _ listens) with looked | newest
      · exact looked
      · rw [← List.mem_singleton.mp newest] at same
        cases same

theorem ended_of_closed (stays : config.closeOnViolation = false) {actor : Nat} (history : History) :
    (∃ before, ⟨actor, .closePhase, some before⟩ ∈ history) →
      history.stand (Reception.conduct config) actor = .ended := by
  refine stand_induction (motive := fun history (reception : Reception) =>
    (∃ before, ⟨actor, .closePhase, some before⟩ ∈ history) → reception = .ended) ?_ ?_ ?_ history
  · rintro ⟨before, absent⟩
    cases absent
  · intro history action reply earlier
    rintro ⟨before, found⟩
    rcases List.mem_append.mp found with found | newest
    · rw [earlier ⟨before, found⟩]
      cases action <;> rfl
    · cases List.mem_singleton.mp newest
      cases history.stand (Reception.conduct config) actor <;> simp [Reception.conduct, stays]
  · intro history happening idle earlier
    rintro ⟨before, found⟩
    rcases List.mem_append.mp found with found | newest
    · exact earlier ⟨before, found⟩
    · obtain rfl := List.mem_singleton.mp newest
      exact absurd (idle rfl) nofun

end History

theorem Happening.closed_of_mark {happening : Happening} {actor : Nat}
    (marked : happening.mark? = some (actor, .closes)) :
    ∃ before, happening = ⟨actor, .closePhase, some before⟩ := by
  unfold mark? at marked
  split at marked
  · rename_i closer before
    split at marked
    · cases marked
    · cases marked
      exact ⟨before, rfl⟩
  all_goals cases marked

namespace World

variable {start world : World} {history : History}

theorem ended_of_told (unended : start.Unended) (run : start.RunIn operations history world)
    {winner observer : Nat} (told : ⟨winner, .tell observer .closed, some ()⟩ ∈ history) :
    world.hub.isCancelled = true ∧ ∃ before, ⟨winner, .closePhase, some before⟩ ∈ history := by
  have ending := ending_of_run operations_usual unended run
  have marked : (winner, Mark.tells observer) ∈ history.marks := List.mem_filterMap.mpr ⟨_, told, rfl⟩
  refine ⟨ending.cancelled_of_mark marked nofun, ?_⟩
  obtain ⟨happening, member, closes⟩ := List.mem_filterMap.mp (ending.closes_of_mark marked)
  obtain ⟨before, rfl⟩ := Happening.closed_of_mark closes
  exact ⟨before, member⟩

theorem subsides_of_run (unended : start.Unended) (run : start.RunIn operations history world) :
    history.Subsides start.setup.config := by
  have obeys {history : History} {world : World} (run : start.RunIn operations history world) :=
    run.obeys (reception_respected start.setup) (obeys_of_empty unended.actors _)
  induction run with
  | refl =>
      intro place winner observer found
      cases found
  | @act history world index actor action next effect before here doing member induction =>
      have permitted := (obeys before).follows index actor here
      rw [doing] at permitted
      -- That the token is cancelled by now is a matter of the release, not of the loop's conduct.
      refine induction.step (fun winner observer told => ?_) permitted.1 member
      exact (ended_of_told unended before told).1
  | goOn _ _ _ induction => exact induction
  | begin _ _ induction => exact induction
  | drift _ _ induction => exact induction

/-- The observers may be told of the peer's frames after they have been told of the end, but only by
a receive loop that has not noticed it: since then the loop has not looked at the token, and it has
read once at most, and that only if it had found the token uncancelled before. Unless violations
close the connection, it is somebody else who has torn the connection down. -/
theorem told_behind_end (unended : start.Unended) (run : start.RunIn operations history world)
    {place later winner observer actor other : Nat} {event : Event}
    (ended : history[place]? = some ⟨winner, .tell observer .closed, some ()⟩)
    (told : history[later]? = some ⟨actor, .tell other event, some ()⟩)
    (inbound : event.isInbound = true) (behind : place < later) :
    let doings := History.behind (history.take later) place actor
    (∀ seen, ⟨actor, .readToken, some seen⟩ ∉ doings) ∧
    doings.countP Happening.isReading ≤ 1 ∧
    (0 < doings.countP Happening.isReading → ⟨actor, .readToken, some false⟩ ∈ history.take place) ∧
    (start.setup.config.closeOnViolation = false → actor ≠ winner) := by
  intro doings
  obtain ⟨moment, teller, next, effect, earlier, here, doing, -⟩ := run.at_place told
  have obeys := earlier.obeys (reception_respected start.setup) (obeys_of_empty unended.actors _)
  have permitted := obeys.follows actor teller here
  rw [doing] at permitted
  have handles : History.stand (history.take later) (Reception.conduct start.setup.config) actor =
      .handling := permitted.1 inbound
  have before : (history.take later)[place]? = some ⟨winner, .tell observer .closed, some ()⟩ :=
    (List.getElem?_take_of_lt behind).trans ended
  have unaware := (subsides_of_run unended earlier place winner observer before actor).resolve_left
    (by rw [handles]; exact nofun)
  refine ⟨unaware.unseen, Nat.le_of_add_right_le unaware.reads, fun reading => ?_, fun stays => ?_⟩
  · have looked := unaware.looked (Nat.add_pos_left reading _)
    rwa [List.take_take, Nat.min_eq_left (Nat.le_of_lt behind)] at looked
  · rintro rfl
    have closed := (ended_of_told unended earlier (List.mem_of_getElem? before)).2
    exact absurd (handles.symm.trans (History.ended_of_closed stays _ closed)) nofun

/-- An open connection with one observer on which nothing can be written any more. -/
def severed : World :=
  { setup := { observers := [{}] }
    hub :=
      { phase := .opened
        stream := { writing := { cues := [.broken ⟨.brokenPipe, "broken pipe"⟩] } } } }

/-- The receive loop holds two texts. When it has told of the first one, somebody's sending fails; he
tears the connection down and tells of the end, and then the loop goes on. -/
def severedInMidst : History × World :=
  play [0, 0, 1, 1, 1, 1, 1, 1, 1, 1, 1, 1, 1, 1, 1, 1, 1, 1, 1, 1, 0]
    ([], (severed.addActor
      ⟨(Task.receive [0x81, 1, 97, 0x81, 1, 98] { limits := {} }).script severed.setup, false⟩).begin
        (Call.script severed.setup (.send (.text "late"))) false)

theorem run_severed_in_midst : severed.RunIn operations severedInMidst.1 severedInMidst.2 := by
  apply run_in_of_play
  exact .begin (.begin .refl (.joins (.task (.receive [0x81, 1, 97, 0x81, 1, 98] { limits := {} }))))
    (.joins (.call (.send (.text "late")) 1))

theorem told_behind_end_in_midst :
    severed.Unended ∧ severedInMidst.1[18]? = some ⟨1, .tell 0 .closed, some ()⟩ ∧
      severedInMidst.1[19]? = some ⟨0, .tell 0 (.text "b"), some ()⟩ ∧
      (∀ seen, ⟨0, .readToken, some seen⟩ ∉ History.behind (severedInMidst.1.take 19) 18 0) ∧
      (History.behind (severedInMidst.1.take 19) 18 0).countP Happening.isReading ≤ 1 ∧ 0 ≠ 1 := by
  have unended : severed.Unended := ⟨rfl, by decide, rfl, rfl⟩
  have ended : severedInMidst.1[18]? = some ⟨1, .tell 0 .closed, some ()⟩ := rfl
  have told : severedInMidst.1[19]? = some ⟨0, .tell 0 (.text "b"), some ()⟩ := rfl
  obtain ⟨unseen, reads, -, other⟩ :=
    told_behind_end unended run_severed_in_midst ended told rfl (by decide)
  exact ⟨unended, ended, told, unseen, reads, other rfl⟩

end World

/-- No observer is told of a frame after the end. -/
def History.EndsWithClosed (history : History) : Prop :=
  ∀ (place winner observer later actor : Nat) (event : Event),
    history[place]? = some ⟨winner, .tell observer .closed, some ()⟩ →
    history[later]? = some ⟨actor, .tell observer event, some ()⟩ → place < later →
    event.isInbound = false

/-- The second text is told behind the end. -/
theorem World.not_ends_with_closed :
    ∃ (start world : World) (history : History), start.Unended ∧
      start.RunIn operations history world ∧ ¬history.EndsWithClosed := by
  refine ⟨severed, severedInMidst.2, severedInMidst.1, ⟨rfl, by decide, rfl, rfl⟩,
    run_severed_in_midst, fun last => ?_⟩
  exact absurd (last 18 1 0 19 0 (.text "b") rfl rfl (by decide)) nofun

end WebSocket
