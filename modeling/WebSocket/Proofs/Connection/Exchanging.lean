import WebSocket.Connection.Exchange
import WebSocket.Proofs.Connection.Footing
import WebSocket.Proofs.Handshake.Reading

/-!
The exchange of a handshake: the request goes out once and as a whole before anything is
read, and what the exchange returns depends on the bytes that arrive, not on the pieces in
which they arrive.
-/

namespace WebSocket

/-- The bytes that arrive show what becomes of the head, whether or not the stream ends. -/
def Head.IsDecided (limits : Limits) (arrives : Bytes) : Prop :=
  (∃ size, Head.EndsAt arrives size) ∨ limits.handshakeSize < arrives.length

namespace Connection

open Script World

/-- What an exchange does, and on which footing: it writes what is still missing of `sent`
behind `before`, reads when all of it is written, and reports what is judged right. -/
def Exchanges (limits : Limits) (before sent : Bytes) (arrives : Inflow) : Action → Footing → Prop
  | .readClock, footing => footing = ⟨before, arrives, none⟩
  | .write bytes _, footing =>
      bytes ≠ [] ∧ ∃ written, footing = ⟨written, arrives, none⟩ ∧ written ++ bytes = before ++ sent
  | .flush _, footing => footing = ⟨before ++ sent, arrives, none⟩
  | .read _ _ isCancellable, footing =>
      isCancellable = false ∧ ∃ left, footing = ⟨before ++ sent, ⟨left, arrives.ends⟩, none⟩ ∧
        (Head.IsDecided limits arrives.bytes → left ≠ [])
  | .report id content, footing =>
      id = 0 ∧ ∃ inflow, footing = ⟨before ++ sent, inflow, none⟩ ∧
        ∃ result, content = .exchanged result ∧
          Head.Judged limits arrives.bytes inflow.bytes result
  | _, _ => False

def Exchanged (limits : Limits) (before sent : Bytes) (arrives : Inflow) (result : Option Task)
    (footing : Footing) : Prop :=
  result = none ∧ ∃ inflow returned,
    footing = ⟨before ++ sent, inflow, some (.exchanged returned)⟩ ∧
      Head.Judged limits arrives.bytes inflow.bytes returned

variable {Result : Type} {limits : Limits} {before sent : Bytes} {arrives : Inflow}

theorem meets_write_all {post : Transfer → Footing → Prop} (deadline : Nat) (bytes : Bytes)
    (taken : Nat) {written : Bytes} (joined : written ++ bytes.drop taken = before ++ sent)
    (behind : post (.done 0) ⟨before ++ sent, arrives, none⟩) :
    (Gate.writeAll deadline bytes taken).Meets (Exchanges limits before sent arrives) post
      ⟨written, arrives, none⟩ := by
  induction bytes generalizing taken written with
  | nil =>
      rw [List.drop_nil, List.append_nil] at joined
      rw [joined]
      exact behind
  | cons byte rest induction =>
      cases taken with
      | succ taken => exact induction taken joined
      | zero =>
          refine ⟨⟨List.cons_ne_nil _ _, written, rfl, joined⟩, ?_⟩
          rintro _ _ ⟨count, rfl, rfl⟩
          apply induction count
          rw [List.take_succ_cons, List.append_assoc, List.cons_append, List.take_append_drop]
          exact joined

theorem meets_send_request {post : Transfer → Footing → Prop} (deadline : Nat) (text : String)
    (behind : post (.done 0) ⟨before ++ Utf8.encode text, arrives, none⟩) :
    (sendRequest deadline text).Meets (Exchanges limits before (Utf8.encode text) arrives) post
      ⟨before, arrives, none⟩ := by
  apply Meets.bind
  apply meets_write_all deadline (Utf8.encode text) 0 rfl
  refine ⟨rfl, ?_⟩
  rintro _ _ ⟨rfl, rfl⟩
  exact behind

theorem undecided_of_none {buffer : Bytes} (missing : Head.end? buffer = none)
    (fits : buffer.length ≤ limits.handshakeSize) : ¬Head.IsDecided limits buffer := by
  rintro (⟨size, ends⟩ | longer)
  · exact Head.end_eq_none_iff.mp missing size ends
  · exact absurd fits (Nat.not_le.mpr longer)

theorem meets_read_head {post : Except Error (Response × Bytes) → Footing → Prop}
    (judged : ∀ result inflow, Head.Judged limits arrives.bytes inflow.bytes result →
      post result ⟨before ++ sent, inflow, none⟩)
    (deadline timeout reads : Nat) {buffer left : Bytes} {capacity : Nat}
    (joined : arrives.bytes = buffer ++ left) (within : buffer.length ≤ capacity)
    (roomy : 0 < capacity) (enough : limits.handshakeSize + 2 ≤ reads + buffer.length)
    (more : 0 < reads) :
    (readHead limits deadline timeout reads buffer capacity).Meets
      (Exchanges limits before sent arrives) post ⟨before ++ sent, ⟨left, arrives.ends⟩, none⟩ := by
  induction reads generalizing buffer left capacity with
  | zero => omega
  | succ reads induction =>
      have split := Head.judged_of_split limits buffer left
      rw [← joined] at split
      unfold readHead
      cases found : Head.split limits buffer with
      | error failure =>
          rw [found] at split
          exact judged _ ⟨left, arrives.ends⟩ split
      | ok answer =>
          rw [found] at split
          cases answer with
          | some head => exact judged _ ⟨left, arrives.ends⟩ split
          | none =>
              obtain ⟨missing, fits⟩ := split
              generalize grown : (if buffer.length < capacity then capacity else 2 * capacity) = room
              have larger : buffer.length < room := by
                split at grown <;> omega
              refine ⟨⟨rfl, left, rfl, ?_⟩, ?_⟩
              · rintro decided rfl
                rw [joined, List.append_nil] at decided
                exact undecided_of_none missing fits decided
              · intro reply after takes
                cases reply with
                | data bytes =>
                    obtain ⟨nonempty, bound, rest, split, rfl⟩ := takes
                    obtain rfl : left = bytes ++ rest := split
                    have nonzero : 0 < bytes.length :=
                      List.length_pos_iff.mpr (nonempty (Nat.sub_pos_of_lt larger))
                    have longer : (buffer ++ bytes).length = buffer.length + bytes.length :=
                      List.length_append
                    rw [← List.append_assoc] at joined
                    apply induction joined <;> omega
                | ended =>
                    obtain ⟨-, nothing, inflow, rfl⟩ := takes
                    obtain rfl : left = [] := congrArg Inflow.bytes nothing
                    rw [List.append_nil] at joined
                    apply judged _ inflow
                    rw [joined]
                    exact Head.judged_of_cut missing fits
                | _ => cases takes.1

variable {timeout : Nat} {request : Request}

theorem meets_exchange {post : Except Error (Response × Bytes) → Footing → Prop} {text : String}
    (writes : request.write = (.ok (), text))
    (judged : ∀ result inflow, Head.Judged limits arrives.bytes inflow.bytes result →
      post result ⟨before ++ Utf8.encode text, inflow, none⟩) :
    (exchange limits timeout request).Meets (Exchanges limits before (Utf8.encode text) arrives)
      post ⟨before, arrives, none⟩ := by
  unfold exchange
  rw [writes]
  refine ⟨rfl, ?_⟩
  rintro start _ rfl
  change ((sendRequest (start + timeout) text).bind _).Meets _ _ _
  apply Meets.bind
  apply meets_send_request
  exact meets_read_head judged _ _ _ rfl (Nat.zero_le _) (by decide) (Nat.le_refl _) (by omega)

/-- The report of what an exchange has returned. -/
def report (result : Except Error (Response × Bytes)) : Script (Option Task) :=
  act (.report 0 (.exchanged result)) fun _ => done none

theorem meets_reported {text : String} (writes : request.write = (.ok (), text)) :
    ((exchange limits timeout request).bind report).Meets
      (Exchanges limits before (Utf8.encode text) arrives)
      (Exchanged limits before (Utf8.encode text) arrives) ⟨before, arrives, none⟩ := by
  apply Meets.bind
  apply meets_exchange writes
  intro result inflow judged
  refine ⟨⟨rfl, inflow, rfl, result, rfl, judged⟩, ?_⟩
  rintro _ _ rfl
  exact ⟨rfl, inflow, result, rfl, judged⟩

theorem own_of_exchanges (action : Action) (footing : Footing)
    (exchanges : Exchanges limits before sent arrives action footing) : action.isOwn = true := by
  cases action with
  | read room deadline isCancellable =>
      obtain ⟨rfl, -⟩ := exchanges
      rfl
  | readClock | write | flush | report => rfl
  | _ => exact exchanges.elim

theorem unreported_of_exchanges {action : Action} {footing : Footing}
    (exchanges : Exchanges limits before sent arrives action footing) :
    footing.report = none ∧ footing.written <+: before ++ sent := by
  cases action with
  | readClock =>
      obtain rfl := exchanges
      exact ⟨rfl, List.prefix_append _ _⟩
  | write bytes deadline =>
      obtain ⟨-, written, rfl, joined⟩ := exchanges
      exact ⟨rfl, bytes, joined⟩
  | flush deadline =>
      obtain rfl := exchanges
      exact ⟨rfl, List.prefix_refl _⟩
  | read room deadline isCancellable =>
      obtain ⟨-, left, rfl, -⟩ := exchanges
      exact ⟨rfl, List.prefix_refl _⟩
  | report id content =>
      obtain ⟨-, inflow, rfl, -⟩ := exchanges
      exact ⟨rfl, List.prefix_refl _⟩
  | _ => exact exchanges.elim

theorem served_of_exchanges
    (arrival : Head.IsDecided limits arrives.bytes ∨ arrives.ends = true) (action : Action)
    (footing : Footing) (exchanges : Exchanges limits before sent arrives action footing) :
    action.IsServed (Head.IsDecided limits arrives.bytes) footing := by
  cases action with
  | write bytes deadline => exact exchanges.1
  | read room deadline isCancellable =>
      obtain ⟨-, left, rfl, decided⟩ := exchanges
      refine ⟨fun nothing => ?_, decided⟩
      rcases arrival with isDecided | ends
      · exact decided isDecided (congrArg Inflow.bytes nothing)
      · have goesOn : arrives.ends = false := congrArg Inflow.ends nothing
        rw [ends] at goesOn
        cases goesOn
  | _ => trivial

/-- What an exchange does that is refused: it looks at the clock, and it reports. -/
def Refuses (failure : Error) : Action → Footing → Prop
  | .readClock, footing => footing.report = none
  | .report id content, footing =>
      id = 0 ∧ content = .exchanged (.error failure) ∧ footing.report = none
  | _, _ => False

def Refused (failure : Error) (result : Option Task) (footing : Footing) : Prop :=
  result = none ∧ footing.report = some (.exchanged (.error failure))

theorem meets_refused {failure : Error} {text : String} (refused : request.write = (.error failure, text))
    {footing : Footing} (unreported : footing.report = none) :
    ((exchange limits timeout request).bind report).Meets (Refuses failure) (Refused failure)
      footing := by
  unfold exchange
  rw [refused]
  refine ⟨unreported, ?_⟩
  rintro start _ rfl
  refine ⟨⟨rfl, rfl, unreported⟩, ?_⟩
  rintro _ _ rfl
  exact ⟨rfl, rfl⟩

theorem succeeds_of_refuses (setup : Setup) {failure : Error} (action : Action) (hub : Hub)
    (refuses : Refuses failure action hub.footing) : action.Succeeds setup hub := by
  cases action with
  | readClock | report => exact ⟨hub, .refl, _, List.mem_singleton_self _, _, rfl, rfl⟩
  | _ => exact refuses.elim

theorem own_of_refuses {failure : Error} (action : Action) (footing : Footing)
    (refuses : Refuses failure action footing) : action.isOwn = true := by
  cases action with
  | readClock | report => rfl
  | _ => exact refuses.elim

end Connection

namespace World

open Script Connection

variable (setup : Setup) (hub : Hub) (limits : Limits) (timeout : Nat) (request : Request)

/-- An exchange that is alone with its stream. -/
def exchanging : World :=
  (⟨setup, hub, []⟩ : World).begin
    ((exchange limits timeout request).bind fun result => done (.exchanged result)) false

theorem exchanging_eq : exchanging setup hub limits timeout request =
    solo setup hub ((exchange limits timeout request).bind report) := by
  calc exchanging setup hub limits timeout request
      = solo setup hub
          (((exchange limits timeout request).bind fun result => done (.exchanged result)).bind
            fun content => act (.report 0 content) fun _ => done none) := rfl
    _ = solo setup hub ((exchange limits timeout request).bind report) := by
      rw [bind_assoc]
      rfl

variable {setup hub limits timeout request}

section

variable {failure : Error} {start now : Hub} {history : History}
  {remaining : Script (Option Task)}
  (stands : Stands (Refuses failure) (Refused failure) start history now remaining)

include stands

theorem actions_of_refused : ∀ happening ∈ history, happening.action = .readClock ∨
    happening.action = .report 0 (.exchanged (.error failure)) := by
  intro happening among
  obtain ⟨place, found⟩ := List.mem_iff_getElem?.mp among
  obtain ⟨footing, refuses, -⟩ := stands.met place happening found
  generalize happening.action = action at refuses
  cases action with
  | readClock => exact .inl rfl
  | report id content =>
      obtain ⟨rfl, rfl, -⟩ := refuses
      exact .inr rfl
  | _ => exact refuses.elim

theorem report_of_refused {content : Report} (reported : now.footing.report = some content) :
    content = .exchanged (.error failure) := by
  cases remaining with
  | done result => exact Option.some.inj (reported.symm.trans stands.meets.2)
  | act action next =>
      have pending : now.footing.report = none := by
        have refuses := stands.meets.1
        cases action with
        | readClock => exact refuses
        | report id content => exact refuses.2.2
        | _ => exact refuses.elim
      cases pending.symm.trans reported

theorem refused_reports : ∃ later final, (solo setup now remaining).Unfailing later final ∧
    final.reportOf 0 = some (.exchanged (.error failure)) := by
  obtain ⟨later, final, result, further, -, reported⟩ :=
    comes_to_end (fun _ => True) own_of_refuses (fun _ _ => trivial) (fun _ _ _ _ _ _ => trivial)
      (fun action hub refuses _ => succeeds_of_refuses setup action hub refuses) stands.meets trivial
  exact ⟨later, _, further, reported⟩

end

section

variable {sent : Bytes} {arrives : Inflow} {start now : Hub} {history : History}
  {remaining : Script (Option Task)}
  (stands : Stands (Exchanges limits start.stream.written sent arrives)
    (Exchanged limits start.stream.written sent arrives) start history now remaining)

include stands

theorem wrote_prefix : history.flatMap Happening.wrote <+: sent := by
  have written : now.footing.written = _ := stands.written
  apply (List.prefix_append_right_inj start.stream.written).mp
  rw [← written]
  cases remaining with
  | done result =>
      obtain ⟨-, inflow, returned, stood, -⟩ := stands.meets
      exact stood ▸ List.prefix_refl _
  | act action next => exact (unreported_of_exchanges stands.meets.1).2

theorem wrote_before_read {place actor room deadline : Nat} {isCancellable : Bool}
    {reply : Option Reading}
    (found : history[place]? = some ⟨actor, .read room deadline isCancellable, reply⟩) :
    (history.take place).flatMap Happening.wrote = sent := by
  obtain ⟨stood, ⟨-, left, rfl, -⟩, before⟩ := stands.met place _ found
  exact (List.append_cancel_left before).symm

theorem judged_of_report {content : Report} (reported : now.footing.report = some content) :
    ∃ result, content = .exchanged result ∧ history.flatMap Happening.wrote = sent ∧
      Head.Judged limits arrives.bytes now.stream.reading.inflow.bytes result := by
  cases remaining with
  | done result =>
      obtain ⟨-, inflow, returned, stood, judged⟩ := stands.meets
      have written : start.stream.written ++ history.flatMap Happening.wrote =
          start.stream.written ++ sent :=
        stands.written.symm.trans (congrArg Footing.written stood)
      have left : now.stream.reading.inflow = inflow := congrArg Footing.inflow stood
      rw [stood] at reported
      refine ⟨returned, (Option.some.inj reported).symm, List.append_cancel_left written, ?_⟩
      rw [left]
      exact judged
  | act action next =>
      have pending := (unreported_of_exchanges stands.meets.1).1
      cases pending.symm.trans reported

theorem exchange_reports (flows : start.Flows)
    (arrival : Head.IsDecided limits arrives.bytes ∨
      (arrives.ends = true ∧ start.stream.reading.Works)) :
    ∃ later final, (solo setup now remaining).Unfailing later final ∧
      (final.reportOf 0).isSome := by
  have served (action : Action) (hub : Hub)
      (exchanges : Exchanges limits start.stream.written sent arrives action hub.footing) :=
    served_of_exchanges (arrival.imp_right And.left) action hub.footing exchanges
  have serves := stands.serves (Head.IsDecided limits arrives.bytes)
    ⟨flows, arrival.imp_right And.right⟩
  obtain ⟨later, final, result, further, -, inflow, returned, stood, -⟩ :=
    comes_to_end (Hub.Serves (Head.IsDecided limits arrives.bytes)) own_of_exchanges
      (fun _ => Hub.serves_after)
      (fun _ own _ holds _ member => Hub.serves_of_effect own holds member)
      (fun action hub exchanges holds => Action.succeeds_of_served setup
        (own_of_exchanges action _ exchanges) holds (served action hub exchanges))
      stands.meets serves
  have reported : final.footing.report = some (.exchanged returned) :=
    congrArg Footing.report stood
  exact ⟨later, _, further, Option.isSome_of_eq_some reported⟩

end

/-- Without failures an exchange sends its request once, before it reads anything, and
returns what is judged right for the bytes that arrive, however they are cut; over a stream
on which enough arrives it does return. A request that cannot be written is not sent. -/
theorem exchange_reads_head (unreported : hub.journal = []) {history : History} {world : World}
    (unfailing : (exchanging setup hub limits timeout request).Unfailing history world) :
    (∀ failure text, request.write = (.error failure, text) →
      (∀ happening ∈ history, happening.action = .readClock ∨
        happening.action = .report 0 (.exchanged (.error failure))) ∧
      (∀ content, world.reportOf 0 = some content → content = .exchanged (.error failure)) ∧
      ∃ later final, world.Unfailing later final ∧
        final.reportOf 0 = some (.exchanged (.error failure))) ∧
    ∀ text, request.write = (.ok (), text) →
      let sent := Utf8.encode text
      let arrives := hub.stream.reading.inflow
      world.hub.stream.written = hub.stream.written ++ history.flatMap Happening.wrote ∧
      history.flatMap Happening.wrote <+: sent ∧
      (∀ place actor room deadline isCancellable reply,
        history[place]? = some ⟨actor, .read room deadline isCancellable, reply⟩ →
          (history.take place).flatMap Happening.wrote = sent) ∧
      (∀ content, world.reportOf 0 = some content → ∃ result, content = .exchanged result ∧
        history.flatMap Happening.wrote = sent ∧
        Head.Judged limits arrives.bytes world.hub.stream.reading.inflow.bytes result) ∧
      (hub.Flows → Head.IsDecided limits arrives.bytes ∨
          (arrives.ends = true ∧ hub.stream.reading.Works) →
        ∃ later final, world.Unfailing later final ∧ (final.reportOf 0).isSome) := by
  rw [exchanging_eq] at unfailing
  have footing : hub.footing = ⟨hub.stream.written, hub.stream.reading.inflow, none⟩ := by
    rw [Hub.footing, reportOf, unreported]
    rfl
  constructor
  · intro failure text refused
    have unreported : hub.footing.report = none := congrArg Footing.report footing
    obtain ⟨now, remaining, rfl, stands⟩ :=
      stands_of_run own_of_refuses (fun _ _ => nofun) (meets_refused refused unreported) unfailing
    refine ⟨actions_of_refused stands, fun content => report_of_refused stands, ?_⟩
    exact refused_reports stands
  · intro text writes sent arrives
    have meets : ((exchange limits timeout request).bind report).Meets
        (Exchanges limits hub.stream.written sent arrives)
        (Exchanged limits hub.stream.written sent arrives) hub.footing :=
      footing ▸ meets_reported writes
    obtain ⟨now, remaining, rfl, stands⟩ :=
      stands_of_run own_of_exchanges (fun _ _ => nofun) meets unfailing
    refine ⟨stands.written, wrote_prefix stands, ?_, fun content => judged_of_report stands, ?_⟩
    · exact fun _ _ _ _ _ _ found => wrote_before_read stands found
    · exact exchange_reports stands

/-- A head whose end is cut in two; a frame comes with the second part, and the beginning of
another one behind it. -/
def cutInBoundary : Hub :=
  { stream := { reading := { idles := true, cues :=
    [.data [72, 84, 84, 80, 47, 49, 46, 49, 32, 49, 48, 49, 32, 88, 13, 10, 13],
      .data [10, 0x89, 0x00], .data [0x81]] } } }

def cutInBoundaryPlayed : History × World :=
  play (List.replicate 6 0) ([], exchanging {} cutInBoundary {} 1000 ⟨"/", "example.com", {}, ""⟩)

theorem exchange_reads_cut_boundary :
    cutInBoundaryPlayed.2.reportOf 0 =
        some (.exchanged (.ok (⟨101, "X", {}, false⟩, [0x89, 0x00]))) ∧
      cutInBoundaryPlayed.1.flatMap Happening.wrote = Utf8.encode "GET / HTTP/1.1\r\n\r\n" ∧
      cutInBoundaryPlayed.2.hub.stream.reading.inflow.bytes = [0x81] := by
  have unfailing : (exchanging {} cutInBoundary {} 1000 ⟨"/", "example.com", {}, ""⟩).Unfailing
      cutInBoundaryPlayed.1 cutInBoundaryPlayed.2 :=
    ⟨run_in_of_play _ .refl, by decide +kernel⟩
  obtain ⟨-, sends⟩ := exchange_reads_head rfl unfailing
  obtain ⟨-, -, -, judges, -⟩ := sends "GET / HTTP/1.1\r\n\r\n" rfl
  have reports : (cutInBoundaryPlayed.2.reportOf 0).isSome = true := by decide +kernel
  obtain ⟨content, reported⟩ := Option.isSome_iff_exists.mp reports
  obtain ⟨result, rfl, wrote, judged⟩ := judges content reported
  have left : cutInBoundaryPlayed.2.hub.stream.reading.inflow.bytes = [0x81] := by decide +kernel
  have whole := judged.whole 18 (Head.end_eq_some_iff.mp (by decide +kernel)) (by decide)
  have answer : (Response.parse (cutInBoundary.stream.reading.inflow.bytes.take 18)).toOption =
      some ⟨101, "X", {}, false⟩ := by decide +kernel
  cases parsed : Response.parse (cutInBoundary.stream.reading.inflow.bytes.take 18) with
  | error failure =>
      rw [parsed] at answer
      cases answer
  | ok response =>
      rw [parsed] at answer whole
      obtain rfl := Option.some.inj answer
      obtain ⟨leftover, rfl, joined⟩ := whole
      rw [left] at joined
      obtain rfl : leftover = [0x89, 0x00] :=
        List.append_cancel_right (joined.trans (by decide +kernel))
      exact ⟨reported, wrote, left⟩

end World

end WebSocket
