import WebSocket.Transport.Establish

/-!
How often a client tries to get to a server. One sequence is a lookup and attempts to connect to one
address, one more than there are retries at most; a handshake that fails or takes too long makes it
run once more, and nothing else does.
-/

namespace WebSocket

namespace Resolver

def lookups : Host → List Lookup
  | .domain name => if sameName name "localhost" then [] else [.ipv4 name, .ipv6 name]
  | .ipv4 _ | .ipv6 _ => []

/-- The address that a host has; a lookup that fails finds none. -/
def address? (resolver : Resolver) : Host → Option Address
  | .ipv4 address => some (.ipv4 address)
  | .ipv6 address => some (.ipv6 address)
  | .domain name =>
      if sameName name "localhost" then some (.ipv4 .localhost)
      else (((resolver.ipv4 name).getD []).head?.map Address.ipv4).or
        (((resolver.ipv6 name).getD []).head?.map Address.ipv6)

theorem resolve_eq (resolver : Resolver) (host : Host) :
    resolver.resolve host =
      ((resolver.address? host).elim (.error (.resolution host.render)) .ok, lookups host) := by
  cases host with
  | ipv4 address | ipv6 address => rfl
  | domain name =>
      have same : name.toList.map Char.toLower = "localhost".toList ↔ sameName name "localhost" = true := by
        rw [sameName, beq_iff_eq, asciiLower, (by decide : asciiLower "localhost".toList = "localhost".toList)]
      by_cases here : sameName name "localhost" = true
      · simp only [resolve, address?, lookups, if_pos here, if_pos (same.mpr here)]
        rfl
      · simp only [resolve, address?, lookups, if_neg here, if_neg fun found => here (same.mp found)]
        cases (resolver.ipv4 name).getD [] with
        | cons first others => rfl
        | nil =>
            cases (resolver.ipv6 name).getD [] with
            | cons first others => rfl
            | nil => rfl

end Resolver

theorem ConnectAnswer.failure_eq_none {answer : ConnectAnswer} {timeout : Nat} :
    answer.failure? timeout = none ↔ answer = connected := by
  cases answer <;> simp [failure?]

theorem TlsAnswer.failure_eq_none {answer : TlsAnswer} {timeout : Nat} :
    answer.failure? timeout = none ↔ answer = established := by
  cases answer <;> simp [failure?]

namespace Establish

/-- A sequence of attempts with these answers ends with attempt `last`, counted from zero. -/
structure EndsAt (answers : Nat → ConnectAnswer) (retries last : Nat) : Prop where
  bound : last ≤ retries
  failed : ∀ index < last, answers index ≠ .connected
  stops : last = retries ∨ answers last = .connected

namespace EndsAt

variable {answers : Nat → ConnectAnswer} {retries last first : Nat}

theorem eq_min (ends : EndsAt answers retries last) (success : answers first = .connected)
    (before : ∀ index < first, answers index ≠ .connected) : last = min first retries := by
  have upper : last ≤ first := Nat.le_of_not_lt fun later => ends.failed first later success
  rcases ends.stops with full | connected
  · omega
  · have lower : first ≤ last := Nat.le_of_not_lt fun earlier => before last earlier connected
    have bound := ends.bound
    omega

theorem eq_retries (ends : EndsAt answers retries last) (none : ∀ index, answers index ≠ .connected) :
    last = retries := ends.stops.resolve_right (none last)

theorem connected_iff (ends : EndsAt answers retries last) :
    answers last = .connected ↔ ∃ index ≤ retries, answers index = .connected := by
  refine ⟨fun connected => ⟨last, ends.bound, connected⟩, fun ⟨index, bound, connected⟩ => ?_⟩
  rcases ends.stops with full | connected
  · have late : ¬ index < last := fun early => ends.failed index early connected
    have same : index = last := by omega
    exact same ▸ connected
  · exact connected

theorem at_once (answers : Nat → ConnectAnswer) {retries : Nat}
    (stops : 0 = retries ∨ answers 0 = .connected) : EndsAt answers retries 0 :=
  ⟨Nat.zero_le retries, fun index early => absurd early (Nat.not_lt_zero index), stops⟩

theorem later (ends : EndsAt (fun index => answers (index + 1)) retries last)
    (failed : answers 0 ≠ .connected) : EndsAt answers (retries + 1) (last + 1) where
  bound := Nat.succ_le_succ ends.bound
  failed
    | 0, _ => failed
    | index + 1, early => ends.failed index (Nat.lt_of_succ_lt_succ early)
  stops := ends.stops.imp_left (congrArg Nat.succ)

end EndsAt

section

variable {network : Network} {endpoint : Endpoint} {timeout : Nat} {journey : Journey} {reason : String}

theorem connect_of_success (connected : (attempt network endpoint timeout journey).1 = none)
    (retries : Nat) : connect network endpoint timeout retries journey =
      (.ok (), (attempt network endpoint timeout journey).2) := by
  unfold connect
  dsimp only
  rw [connected]

theorem connect_of_last_failure (failed : (attempt network endpoint timeout journey).1 = some reason) :
    connect network endpoint timeout 0 journey =
      (.error (.connect endpoint.render reason), (attempt network endpoint timeout journey).2) := by
  unfold connect
  dsimp only
  rw [failed]

theorem connect_of_failure (failed : (attempt network endpoint timeout journey).1 = some reason)
    (left : Nat) : connect network endpoint timeout (left + 1) journey =
      connect network endpoint timeout left (attempt network endpoint timeout journey).2 := by
  rw [connect]
  dsimp only
  rw [failed]

/-- What the attempts of one sequence come to: they go to one endpoint, and the last one decides. -/
theorem connect_ends (network : Network) (endpoint : Endpoint) (timeout retries : Nat)
    (journey : Journey) :
    let answers := fun index => network.connects (journey.attempts.length + index)
    ∃ last after, EndsAt answers retries last ∧
      connect network endpoint timeout retries journey =
        (((answers last).failure? timeout).elim (.ok ())
          fun reason => .error (.connect endpoint.render reason), after) ∧
      after.attempts = journey.attempts ++ List.replicate (last + 1) endpoint ∧
      after.lookups = journey.lookups ∧ after.handshakes = journey.handshakes := by
  intro answers
  have first : (attempt network endpoint timeout journey).1 = (answers 0).failure? timeout := rfl
  induction retries generalizing journey with
  | zero =>
      refine ⟨0, (attempt network endpoint timeout journey).2, .at_once answers (.inl rfl), ?_,
        rfl, rfl, rfl⟩
      cases failed : (answers 0).failure? timeout with
      | none => exact connect_of_success (first.trans failed) 0
      | some reason => exact connect_of_last_failure (first.trans failed)
  | succ left induction =>
      cases failed : (answers 0).failure? timeout with
      | none =>
          have connected := ConnectAnswer.failure_eq_none.mp failed
          refine ⟨0, (attempt network endpoint timeout journey).2, .at_once answers (.inr connected), ?_,
            rfl, rfl, rfl⟩
          rw [connect_of_success (first.trans failed), failed]
          rfl
      | some reason =>
          have lost : answers 0 ≠ .connected := fun connected => by
            rw [ConnectAnswer.failure_eq_none.mpr connected] at failed
            cases failed
          obtain ⟨last, after, ends, result, attempts, lookups, handshakes⟩ :=
            @induction (attempt network endpoint timeout journey).2 rfl
          -- the answers that are left are those behind the first one
          have shifted (index : Nat) : network.connects
              ((attempt network endpoint timeout journey).2.attempts.length + index) =
                answers (index + 1) := by
            change network.connects ((journey.attempts ++ [endpoint]).length + index) = _
            rw [List.length_append, List.length_singleton, Nat.add_assoc, Nat.add_comm 1 index]
          simp only [shifted] at ends result
          refine ⟨last + 1, after, ends.later lost, ?_, ?_, lookups, handshakes⟩
          · rw [connect_of_failure (first.trans failed), result]
          · rw [attempts, List.replicate_succ]
            exact List.append_assoc ..

end

theorem to_nat_count {count : UInt32} (fits : count.toNat + 1 < UInt32.size) :
    (count + 1).toNat = count.toNat + 1 := by
  rw [UInt32.toNat_add]
  exact Nat.mod_eq_of_lt fits

/-- The loop over the attempts with its counter, a word of 32 bits. There is no result if the counter
overflows. -/
def connectCounting (network : Network) (endpoint : Endpoint) (timeout : Nat) (limit count : UInt32)
    (journey : Journey) : Option (Except Error Unit × Journey) :=
  let (failure, tried) := attempt network endpoint timeout journey
  match failure with
  | none => some (.ok (), tried)
  | some reason =>
      if count ≥ limit then some (.error (.connect endpoint.render reason), tried)
      else if UInt32.size ≤ count.toNat + 1 then none
      else connectCounting network endpoint timeout limit (count + 1) tried
termination_by limit.toNat - count.toNat
decreasing_by
  rename_i below fits
  have less : count.toNat < limit.toNat := UInt32.lt_iff_toNat_lt.mp (UInt32.not_le.mp below)
  rw [to_nat_count (Nat.lt_of_not_le fits)]
  omega

theorem connect_counting (network : Network) (endpoint : Endpoint) (timeout : Nat)
    (limit count : UInt32) (journey : Journey) :
    connectCounting network endpoint timeout limit count journey =
      some (connect network endpoint timeout (limit.toNat - count.toNat) journey) := by
  generalize rest : limit.toNat - count.toNat = retries
  induction retries generalizing count journey with
  | zero =>
      have full : count ≥ limit := UInt32.le_iff_toNat_le.mpr (by omega)
      rw [connectCounting]
      cases failed : (attempt network endpoint timeout journey).1 with
      | none =>
          dsimp only
          rw [failed, connect_of_success failed]
      | some reason =>
          dsimp only
          rw [failed, connect_of_last_failure failed]
          exact if_pos full
  | succ left induction =>
      have less : count.toNat < limit.toNat := by omega
      have below : ¬ count ≥ limit := UInt32.not_le.mpr (UInt32.lt_iff_toNat_lt.mpr less)
      have fits : count.toNat + 1 < UInt32.size := Nat.lt_of_le_of_lt less limit.toNat_lt
      rw [connectCounting]
      cases failed : (attempt network endpoint timeout journey).1 with
      | none =>
          dsimp only
          rw [failed, connect_of_success failed]
      | some reason =>
          dsimp only
          rw [failed, connect_of_failure failed]
          dsimp only
          rw [if_neg below, if_neg (Nat.not_le.mpr fits)]
          exact induction (count + 1) _ (by rw [to_nat_count fits]; omega)

/-- What one sequence does, whatever has happened before it. -/
structure Sequence (network : Network) (target : Target) (timeout retries : Nat) (before : Journey) :
    Prop where
  lookups : (reach network target timeout retries before).2.lookups =
    before.lookups ++ Resolver.lookups target.host
  handshakes : (reach network target timeout retries before).2.handshakes = before.handshakes
  /-- Without an address there is no attempt. -/
  unresolved : (network.resolver before.lookups.length).address? target.host = none →
    reach network target timeout retries before = (.error (.resolution target.host.render),
      { before with lookups := before.lookups ++ Resolver.lookups target.host })
  /-- All attempts go to the one address, and the first success is the last of them. -/
  tried : ∀ address, (network.resolver before.lookups.length).address? target.host = some address →
    ∃ count, (reach network target timeout retries before).2.attempts =
        before.attempts ++ List.replicate (count + 1) ⟨address, target.port⟩ ∧
      (∀ first, network.connects (before.attempts.length + first) = .connected →
        (∀ index < first, network.connects (before.attempts.length + index) ≠ .connected) →
          count = min first retries) ∧
      ((∀ index, network.connects (before.attempts.length + index) ≠ .connected) → count = retries)
  reached : ∀ address, (network.resolver before.lookups.length).address? target.host = some address →
    ((reach network target timeout retries before).1 = .ok ⟨address, target.port, target.isSecure⟩ ↔
      ∃ index ≤ retries, network.connects (before.attempts.length + index) = .connected)
  refused : ∀ address, (network.resolver before.lookups.length).address? target.host = some address →
    ((∃ reason, (reach network target timeout retries before).1 =
        .error (.connect (address.renderSocket target.port) reason)) ↔
      ∀ index ≤ retries, network.connects (before.attempts.length + index) ≠ .connected)

theorem sequence_of_reach (network : Network) (target : Target) (timeout retries : Nat)
    (before : Journey) : Sequence network target timeout retries before := by
  have resolved := Resolver.resolve_eq (network.resolver before.lookups.length) target.host
  cases found : (network.resolver before.lookups.length).address? target.host with
  | none =>
      rw [found] at resolved
      have lost : reach network target timeout retries before =
          (.error (.resolution target.host.render),
            { before with lookups := before.lookups ++ Resolver.lookups target.host }) := by
        rw [reach, resolved]
        rfl
      constructor <;> simp [lost, found]
  | some address =>
      rw [found] at resolved
      let looked : Journey := { before with lookups := before.lookups ++ Resolver.lookups target.host }
      obtain ⟨last, after, ends, result, attempts, lookups, handshakes⟩ :=
        connect_ends network ⟨address, target.port⟩ timeout retries looked
      have went : reach network target timeout retries before =
          (((network.connects (before.attempts.length + last)).failure? timeout).elim
            (.ok ⟨address, target.port, target.isSecure⟩)
            fun reason => .error (.connect (address.renderSocket target.port) reason), after) := by
        rw [reach, resolved]
        dsimp only [Option.elim]
        rw [result]
        cases (network.connects (looked.attempts.length + last)).failure? timeout <;> rfl
      have arrives : (reach network target timeout retries before).1 =
          .ok ⟨address, target.port, target.isSecure⟩ ↔
            network.connects (before.attempts.length + last) = .connected := by
        rw [went, ← @ConnectAnswer.failure_eq_none _ timeout]
        cases (network.connects (before.attempts.length + last)).failure? timeout <;> simp
      have fails : (∃ reason, (reach network target timeout retries before).1 =
          .error (.connect (address.renderSocket target.port) reason)) ↔
            network.connects (before.attempts.length + last) ≠ .connected := by
        rw [went, ne_eq, ← @ConnectAnswer.failure_eq_none _ timeout]
        cases (network.connects (before.attempts.length + last)).failure? timeout <;> simp
      refine ⟨by rw [went]; exact lookups, by rw [went]; exact handshakes, ?_, ?_, ?_, ?_⟩
      · intro none
        rw [found] at none
        cases none
      · intro address same
        cases found.symm.trans same
        refine ⟨last, by rw [went]; exact attempts, ?_, ends.eq_retries⟩
        exact fun first success earlier => ends.eq_min success earlier
      · intro address same
        cases found.symm.trans same
        exact arrives.trans ends.connected_iff
      · intro address same
        cases found.symm.trans same
        refine fails.trans ((not_congr ends.connected_iff).trans ?_)
        exact ⟨fun none index bound connected => none ⟨index, bound, connected⟩,
          fun none ⟨index, bound, connected⟩ => none index bound connected⟩

def shaken (timeout : Nat) (answer : TlsAnswer) (journey : Journey) : Journey :=
  { journey with
    handshakes := journey.handshakes + 1
    elapsed := journey.elapsed + answer.delay timeout }

section

variable {network : Network} {target : Target} {timeout retries : Nat} {before after : Journey}
  {failure : Error} {route : Route}

theorem secure_of_unreached
    (unreached : reach network target timeout retries before = (.error failure, after)) :
    secure network target timeout retries before = (.error ⟨failure, false⟩, after) := by
  rw [secure, unreached]

theorem secure_of_unnamed (reached : reach network target timeout retries before = (.ok route, after))
    (unnamed : network.acceptsName target.serverName = false) :
    secure network target timeout retries before =
      (.error ⟨(TlsError.invalidDnsName target.serverName).toError, false⟩, after) := by
  rw [secure, reached]
  dsimp only
  rw [handshake, unnamed]
  rfl

theorem secure_of_named (reached : reach network target timeout retries before = (.ok route, after))
    (named : network.acceptsName target.serverName = true) :
    secure network target timeout retries before =
      (((network.handshakes before.handshakes).failure? timeout).elim (.ok route)
        fun text => .error ⟨.tls text, true⟩, shaken timeout (network.handshakes before.handshakes) after) := by
  have count := (sequence_of_reach network target timeout retries before).handshakes
  rw [reached] at count
  rw [secure, reached, ← (count : after.handshakes = _)]
  dsimp only
  rw [handshake, named]
  dsimp only
  rw [if_neg (by decide)]
  cases (network.handshakes after.handshakes).failure? timeout <;> rfl

theorem lookups_of_secure (network : Network) (target : Target) (timeout retries : Nat)
    (before : Journey) : (secure network target timeout retries before).2.lookups =
      before.lookups ++ Resolver.lookups target.host := by
  have lookups := (sequence_of_reach network target timeout retries before).lookups
  cases reached : reach network target timeout retries before with
  | mk result after =>
      rw [reached] at lookups
      cases result with
      | error failure => rw [secure_of_unreached reached]; exact lookups
      | ok route =>
          cases named : network.acceptsName target.serverName with
          | false => rw [secure_of_unnamed reached named]; exact lookups
          | true => rw [secure_of_named reached named]; exact lookups

end

/-- The first sequence has got through to a server that may be checked, but the handshake has come to
nothing; the journey is where the second sequence starts. -/
def Reruns (network : Network) (target : Target) (timeout retries : Nat) (journey : Journey) : Prop :=
  ∃ route reached, reach network target timeout retries {} = (.ok route, reached) ∧
    network.acceptsName target.serverName = true ∧ network.handshakes 0 ≠ .established ∧
    journey = shaken timeout (network.handshakes 0) reached

/-- What becomes of the way to a secure target. -/
structure Secures (network : Network) (target : Target) (timeout retries : Nat)
    (outcome : Except Error Route × Journey) : Prop where
  unreached : ∀ failure journey, reach network target timeout retries {} = (.error failure, journey) →
    outcome = (.error failure, journey)
  unnamed : ∀ route journey, reach network target timeout retries {} = (.ok route, journey) →
    network.acceptsName target.serverName = false →
      outcome = (.error (TlsError.invalidDnsName target.serverName).toError, journey)
  established : ∀ route journey, reach network target timeout retries {} = (.ok route, journey) →
    network.acceptsName target.serverName = true → network.handshakes 0 = .established →
      outcome = (.ok route, shaken timeout .established journey)
  unreachedAgain : ∀ start failure journey, Reruns network target timeout retries start →
    reach network target timeout retries start = (.error failure, journey) →
      outcome = (.error failure, journey)
  establishedAgain : ∀ start route journey, Reruns network target timeout retries start →
    reach network target timeout retries start = (.ok route, journey) →
    network.handshakes 1 = .established → outcome = (.ok route, shaken timeout .established journey)
  failed : ∀ start route journey text, Reruns network target timeout retries start →
    reach network target timeout retries start = (.ok route, journey) →
    (network.handshakes 1).failure? timeout = some text →
      outcome = (.error (.tls text), shaken timeout (network.handshakes 1) journey)
  /-- Each sequence looks the host up, and there is a second one exactly after a failed handshake. -/
  lookups : outcome.2.lookups = Resolver.lookups target.host ∧
      (¬ ∃ start, Reruns network target timeout retries start) ∨
    outcome.2.lookups = Resolver.lookups target.host ++ Resolver.lookups target.host ∧
      ∃ start, Reruns network target timeout retries start

section

variable {network : Network} {target : Target} {timeout retries : Nat} {start : Journey}

theorem handshakes_of_reruns (reruns : Reruns network target timeout retries start) :
    start.handshakes = 1 := by
  obtain ⟨route, reached, first, -, -, rfl⟩ := reruns
  have count := (sequence_of_reach network target timeout retries {}).handshakes
  rw [first] at count
  exact congrArg (· + 1) count

theorem lookups_of_reruns (reruns : Reruns network target timeout retries start) :
    start.lookups = Resolver.lookups target.host := by
  obtain ⟨route, reached, first, -, -, rfl⟩ := reruns
  have lookups := (sequence_of_reach network target timeout retries {}).lookups
  rwa [first] at lookups

theorem secure_twice_of_reruns (reruns : Reruns network target timeout retries start) :
    secureTwice network target timeout retries =
      ((secure network target timeout retries start).1.mapError Setback.error,
        (secure network target timeout retries start).2) := by
  obtain ⟨route, reached, first, named, failed, rfl⟩ := reruns
  obtain ⟨text, failed⟩ : ∃ text, (network.handshakes 0).failure? timeout = some text :=
    Option.ne_none_iff_exists'.mp fun none => failed (TlsAnswer.failure_eq_none.mp none)
  have again : secure network target timeout retries {} =
      (.error ⟨.tls text, true⟩, shaken timeout (network.handshakes 0) reached) := by
    rw [secure_of_named first named, failed]
    rfl
  rw [secureTwice, again]
  rfl

theorem journey_of_no_rerun (none : ¬ ∃ start, Reruns network target timeout retries start) :
    (secureTwice network target timeout retries).2 = (secure network target timeout retries {}).2 := by
  cases reached : reach network target timeout retries {} with
  | mk result after =>
      cases result with
      | error failure =>
          rw [secureTwice, secure_of_unreached reached]
          rfl
      | ok route =>
          cases named : network.acceptsName target.serverName with
          | false =>
              rw [secureTwice, secure_of_unnamed reached named]
              rfl
          | true =>
              have established : network.handshakes 0 = .established :=
                Decidable.byContradiction fun failed =>
                  none ⟨_, route, after, reached, named, failed, rfl⟩
              rw [secureTwice, secure_of_named reached named, established]
              rfl

theorem secures_of_secure_twice (network : Network) (target : Target) (timeout retries : Nat) :
    Secures network target timeout retries (secureTwice network target timeout retries) where
  unreached failure journey first := by
    rw [secureTwice, secure_of_unreached first]
    rfl
  unnamed route journey first unnamed := by
    rw [secureTwice, secure_of_unnamed first unnamed]
    rfl
  established route journey first named established := by
    rw [secureTwice, secure_of_named first named, established]
    rfl
  unreachedAgain start failure journey reruns second := by
    rw [secure_twice_of_reruns reruns, secure_of_unreached second]
    rfl
  establishedAgain start route journey reruns second established := by
    obtain ⟨_, _, _, named, _, _⟩ := id reruns
    rw [secure_twice_of_reruns reruns, secure_of_named second named, handshakes_of_reruns reruns,
      established]
    rfl
  failed start route journey text reruns second failed := by
    obtain ⟨_, _, _, named, _, _⟩ := id reruns
    rw [secure_twice_of_reruns reruns, secure_of_named second named, handshakes_of_reruns reruns,
      failed]
    rfl
  lookups := by
    by_cases reruns : ∃ start, Reruns network target timeout retries start
    · obtain ⟨start, again⟩ := reruns
      refine .inr ⟨?_, start, again⟩
      rw [secure_twice_of_reruns again, lookups_of_secure, lookups_of_reruns again]
    · refine .inl ⟨?_, reruns⟩
      rw [journey_of_no_rerun reruns, lookups_of_secure]
      rfl

end

end Establish

open Establish in
/-- A client connects as often as it is told and no more. -/
theorem establish_retries (network : Network) {config : Config} {url : Url} {target : Target}
    (timeout : Nat) (retries : UInt32) (aimed : Target.ofUrl url = .ok target)
    (usable : target.isSecure = true → checkKey network config = .ok ()) :
    (∀ endpoint journey, connectCounting network endpoint timeout retries 0 journey =
      some (connect network endpoint timeout retries.toNat journey)) ∧
    (∀ before, Sequence network target timeout retries.toNat before) ∧
    (target.isSecure = false → establish network config url timeout retries.toNat =
      reach network target timeout retries.toNat {}) ∧
    (target.isSecure = true → Secures network target timeout retries.toNat
      (establish network config url timeout retries.toNat)) := by
  refine ⟨fun endpoint journey => ?_, sequence_of_reach network target timeout retries.toNat, ?_, ?_⟩
  · exact connect_counting network endpoint timeout retries 0 journey
  · intro plain
    rw [establish, aimed]
    dsimp only
    rw [plain]
    rfl
  · intro isSecure
    have goes : establish network config url timeout retries.toNat =
        secureTwice network target timeout retries.toNat := by
      rw [establish, aimed]
      dsimp only
      rw [isSecure, usable isSecure]
      rfl
    exact goes ▸ secures_of_secure_twice network target timeout retries.toNat

/-- A network with two name servers that fail in turn, and a server that refuses one attempt, leaves
one unanswered, and never gets through a handshake. -/
def flaky : Network where
  resolver
    | 0 => ⟨fun _ => none, fun _ => some [⟨[0, 0, 0, 0, 0, 0, 0, 1]⟩]⟩
    | _ => ⟨fun _ => some [.localhost], fun _ => none⟩
  connects
    | 0 => .failed "refused"
    | 1 => .silent
    | _ => .connected
  handshakes
    | 0 => .silent
    | _ => .failed "eof"

open Establish in
/-- Three attempts go to the one address that is found first, and one to that found next time. -/
theorem establish_retries_of_flaky :
    let url : Url :=
      { scheme := "wss", host := some (.domain "Example.test"), port := some 8443, path := "/" }
    let looked : List Lookup := [.ipv4 "Example.test", .ipv6 "Example.test"]
    let outcome := establish flaky {} url 1000 2
    outcome.1 = .error (.tls "TLS handshake failed: eof") ∧ outcome.2.lookups = looked ++ looked ∧
      outcome.2.attempts = List.replicate 3 ⟨.ipv6 ⟨[0, 0, 0, 0, 0, 0, 0, 1]⟩, 8443⟩ ++
        [⟨.ipv4 .localhost, 8443⟩] := by
  intro url looked outcome
  let target : Target := ⟨.domain "Example.test", 8443, true⟩
  obtain ⟨-, -, -, secured⟩ := @establish_retries flaky {} url target 1000 2 rfl (fun _ => rfl)
  let first : Journey := ⟨looked, List.replicate 3 ⟨.ipv6 ⟨[0, 0, 0, 0, 0, 0, 0, 1]⟩, 8443⟩, 1, 0, 1000⟩
  have reached : reach flaky target 1000 2 {} =
      (.ok ⟨.ipv6 ⟨[0, 0, 0, 0, 0, 0, 0, 1]⟩, 8443, true⟩, first) := rfl
  have reruns : Reruns flaky target 1000 2 (shaken 1000 .silent first) :=
    ⟨_, first, reached, by decide +kernel, by decide, rfl⟩
  have second : reach flaky target 1000 2 (shaken 1000 .silent first) =
      (.ok ⟨.ipv4 .localhost, 8443, true⟩,
        ⟨looked ++ looked, first.attempts ++ [⟨.ipv4 .localhost, 8443⟩], 2, 1, 2000⟩) := rfl
  have failed : outcome = _ := (secured rfl).failed _ _ _ "TLS handshake failed: eof" reruns second rfl
  rw [failed]
  exact ⟨rfl, rfl, rfl⟩

end WebSocket
