import WebSocket.Proofs.Connection.Sending
import WebSocket.Proofs.Frame.Chunks
import WebSocket.Proofs.Message.Assembly

/-!
The receive loop on a connection that keeps its rules. Whatever the bytes are cut
into, the observers are told of every item once and in order, and the connection
is still open when the bytes have run out.
-/

namespace WebSocket

/-- The bytes that a cue brings. -/
def Cue.bytes : Cue → Bytes
  | data bytes => bytes
  | _ => []

namespace Side

/-- The bytes that are still to come. -/
def unread (side : Side) : Bytes := side.cues.flatMap Cue.bytes

/-- The side brings bytes, in reads of any size and after waits of any length,
and waits for more at the end. -/
structure Feeds (side : Side) : Prop where
  idles : side.idles = true
  feeding : ∀ cue ∈ side.cues,
    (∃ milliseconds, cue = .wait milliseconds) ∨ ∃ first more, cue = .data (first :: more)

end Side

/-- The receive loop waits for bytes, and there are none to come. -/
def World.Starved (world : World) : Prop :=
  ∃ room deadline isCancellable next,
    world.actors = [⟨.act (.read room deadline isCancellable) next, false⟩] ∧
      world.hub.stream.reading.cues = []

namespace Connection

open Script World

/-- What all observers are told of some events. -/
def told (setup : Setup) (events : List Event) : List Delivery :=
  events.flatMap (tellings (List.range setup.observers.length))

theorem told_append (setup : Setup) (events more : List Event) :
    told setup (events ++ more) = told setup events ++ told setup more :=
  List.flatMap_append

variable {setup : Setup} {total heard : List Delivery} {reading : Side} {hub : Hub}

theorem safe_notify_one {event : Event}
    (calm : ∀ observer ∈ setup.observers, ∀ event, observer.cancels event = false)
    (upTo : heard ++ told setup [event] <+: total) (steady : Steady {} reading heard hub) :
    (notify setup event).Safe setup (Delivering total)
      (fun _ now => Steady {} reading (heard ++ told setup [event]) now) hub := by
  have one : told setup [event] = tellings (List.range setup.observers.length) event := by
    rw [told, List.flatMap_singleton]
  rw [one] at upTo ⊢
  exact safe_notify (fun observer member => calm observer member event) upTo steady

theorem safe_answer_ping {payload : Bytes} (assembler : Assembler)
    (calm : ∀ observer ∈ setup.observers, ∀ event, observer.cancels event = false)
    (upTo : heard ++ told setup [.ping payload] <+: total) (steady : Steady {} reading heard hub) :
    (answerPing setup payload assembler).Safe setup (Delivering total)
      (fun result now =>
        result = some assembler ∧ Steady {} reading (heard ++ told setup [.ping payload]) now)
      hub := by
  refine safe_bind (safe_mono ?_ (safe_notify_one calm upTo steady))
  intro _ now told
  refine safe_bind (safe_mono ?_ (safe_is_open upTo told))
  rintro _ now ⟨rfl, open'⟩
  refine safe_bind (safe_mono ?_ (safe_transmit calm upTo (.pong payload) open'))
  rintro status now ⟨fine, sent⟩
  rw [if_neg fine]
  exact ⟨rfl, sent⟩

theorem safe_skip {opcode : Byte} (tolerant : setup.config.closeOnViolation = false)
    (calm : ∀ observer ∈ setup.observers, ∀ event, observer.cancels event = false)
    (upTo : heard ++ told setup [.unexpected opcode] <+: total) (steady : Steady {} reading heard hub) :
    (skipUnexpected setup opcode).Safe setup (Delivering total)
      (fun _ now => Steady {} reading (heard ++ told setup [.unexpected opcode]) now) hub := by
  refine safe_bind (safe_mono ?_ (safe_notify_one calm upTo steady))
  intro _ now told
  rw [tolerant]
  exact told

theorem validate_data {fin : Bool} {opcode : Opcode} (payload : Bytes)
    (isData : opcode.isControl = false) : (Frame.of fin opcode payload).validate = .ok () := by
  simp [Frame.validate, Frame.of, isData]

theorem validate_control {opcode : Opcode} {payload : Bytes}
    (short : payload.length ≤ Frame.maxControlPayload) :
    (Frame.of true opcode payload).validate = .ok () := by
  cases control : opcode.isControl <;> simp [Frame.validate, Frame.of, control, short]

theorem deliver_content (setup : Setup) (content : Content) (assembler : Assembler) :
    deliver setup ⟨content.opcode, content.bytes⟩ assembler =
      (notify setup content.event >>= fun _ => pure (some assembler)) := by
  cases content with
  | binary content => rfl
  | text content =>
      have decoded : Message.text ⟨.text, Utf8.encode content⟩ = .ok content := by
        rw [Message.text, Utf8.decode_eq_some_iff.mpr rfl]
      simp only [deliver, Content.opcode, Content.bytes, Content.event, decoded]

theorem safe_dispatch {frame : Frame} {assembler next : Assembler} {events : List Event}
    (calm : ∀ observer ∈ setup.observers, ∀ event, observer.cancels event = false)
    (taken : assembler.Takes (.frame frame) events next)
    (upTo : heard ++ told setup events <+: total) (steady : Steady {} reading heard hub) :
    (dispatch setup assembler frame).Safe setup (Delivering total)
      (fun result now =>
        result = some next ∧ Steady {} reading (heard ++ told setup events) now) hub := by
  cases taken with
  | ping short =>
      rw [dispatch, Frame.ping, validate_control short]
      exact safe_answer_ping assembler calm upTo steady
  | pong short =>
      rw [dispatch, Frame.pong, validate_control short]
      refine safe_bind (safe_mono ?_ (safe_notify_one calm upTo steady))
      intro _ now told
      exact ⟨rfl, told⟩
  | @part _ fin opcode payload isData pushed =>
      have unheard : heard ++ told setup [] = heard := List.append_nil heard
      rw [dispatch, validate_data payload isData]
      rw [unheard] at upTo ⊢
      cases opcode <;> cases isData
      all_goals
        dsimp only [Frame.of] at pushed ⊢
        rw [pushed]
        exact ⟨rfl, steady⟩
  | @whole _ fin opcode payload content isData pushed =>
      rw [dispatch, validate_data payload isData]
      cases opcode <;> cases isData
      all_goals
        dsimp only [Frame.of] at pushed ⊢
        rw [pushed]
        dsimp only
        rw [deliver_content]
        refine safe_bind (safe_mono ?_ (safe_notify_one calm upTo steady))
        intro _ now told
        exact ⟨rfl, told⟩

/-- The bytes at the front of a stream of pieces hold a whole piece, or they end
inside the first one and more are to come. -/
theorem pending_cases {limits : Limits} {pending unread : Bytes} {piece : Piece}
    {rest : List Piece} (fits : piece.Fits limits)
    (joined : pending ++ unread = piece.wire ++ rest.flatMap Piece.wire) :
    (∃ behind, pending = piece.wire ++ behind ∧ behind ++ unread = rest.flatMap Piece.wire) ∨
      unread ≠ [] ∧
        ∃ needed, Frame.parse (.serverFrames limits) pending = .ok (.incomplete needed) := by
  have parsed := Piece.parse_wire fits (rest.flatMap Piece.wire)
  rw [← joined] at parsed
  by_cases long : piece.wire.length ≤ pending.length
  · obtain ⟨behind, rfl⟩ : piece.wire <+: pending :=
      List.prefix_of_prefix_length_le ⟨_, rfl⟩ ⟨unread, joined⟩ long
    rw [List.append_assoc] at joined
    exact .inl ⟨behind, rfl, List.append_cancel_left joined⟩
  · refine .inr ⟨fun empty => ?_, ?_⟩
    · have lengths := congrArg List.length joined
      rw [empty, List.append_nil, List.length_append] at lengths
      omega
    · -- a verdict on the shorter bytes would be the verdict on all of them
      cases result : Frame.parse (.serverFrames limits) pending with
      | error failure =>
          rw [Frame.parse_append_error result unread] at parsed
          cases parsed
      | ok found =>
          rcases Frame.parse_consumed result with ⟨needed, rfl⟩ | ⟨atLeast, inside⟩
          · exact ⟨needed, rfl⟩
          · rw [Frame.parse_append_complete result (by omega) unread] at parsed
            cases parsed
            rw [piece.consumed_eq] at inside
            exact absurd inside long

/-- Some bytes have come in; with those that are still to come they are the
pieces that are left, and those will be told. -/
structure Inbound (setup : Setup) (total : List Delivery) (pieces : List Piece) (reading : Side)
    (pending : Bytes) (assembler : Assembler) (hub : Hub) : Prop where
  feeds : reading.Feeds
  fit : ∀ piece ∈ pieces, piece.Fits setup.config.limits
  joined : pending ++ reading.unread = pieces.flatMap Piece.wire
  ahead : ∃ heard events last, Steady {} reading heard hub ∧
    assembler.TakesAll pieces events last ∧ heard ++ told setup events = total

def GoesOn (setup : Setup) (total : List Delivery) (result : Option Task) (hub : Hub) : Prop :=
  ∃ pieces reading pending assembler, result = some (.receive pending assembler) ∧
    Inbound setup total pieces reading pending assembler hub

theorem Inbound.after {pieces : List Piece} {pending : Bytes} {assembler : Assembler}
    (inbound : Inbound setup total pieces reading pending assembler hub) (time : Nat) :
    Inbound setup total pieces reading pending assembler (hub.after time) := by
  obtain ⟨heard, events, last, steady, taken, complete⟩ := inbound.ahead
  exact ⟨inbound.feeds, inbound.fit, inbound.joined, heard, events, last, steady.after time, taken,
    complete⟩

theorem steady_read {next : Side} (steady : Steady {} reading heard hub) :
    Steady {} next heard { hub with stream := { hub.stream with reading := next } } :=
  ⟨steady.opened, steady.live, steady.hasWriter, steady.gate, steady.writes, steady.flushes, rfl,
    steady.heard⟩

theorem feeds_of_waiting {next : Side} {now : Nat} (feeds : reading.Feeds)
    (turned : reading.turn now = .waiting next) :
    next.Feeds ∧ next.unread = reading.unread ∧ next.cues.length < reading.cues.length := by
  obtain ⟨milliseconds, rest, cues, remaining, idles⟩ := Side.waiting_of_turn turned
  refine ⟨⟨idles.trans feeds.idles, fun cue member => ?_⟩, ?_, ?_⟩
  · rw [remaining] at member
    exact feeds.feeding cue (cues ▸ List.mem_cons_of_mem _ member)
  · rw [Side.unread, Side.unread, remaining, cues]
    rfl
  · rw [remaining, cues]
    exact Nat.lt_succ_self _

theorem feeds_of_plays {next : Side} {now : Nat} {cue : Option Cue} (feeds : reading.Feeds)
    (turned : reading.turn now = .plays cue next) :
    ∃ first more, cue = some (.data (first :: more)) ∧ next.Feeds ∧
      reading.unread = first :: more ++ next.unread := by
  rcases Side.plays_of_turn turned with ⟨_, idles, _⟩ | ⟨failure, rest, cues⟩ | ⟨played, rfl, cues, idles⟩
  · rw [feeds.idles] at idles
    cases idles
  · rcases feeds.feeding (.broken failure) (cues ▸ List.mem_cons_self) with ⟨_, absent⟩ | ⟨_, _, absent⟩
    · cases absent
    · cases absent
  · have kept : next.Feeds := ⟨idles.trans feeds.idles,
      fun cue member => feeds.feeding cue (cues ▸ List.mem_cons_of_mem _ member)⟩
    rcases feeds.feeding played (cues ▸ List.mem_cons_self) with ⟨milliseconds, rfl⟩ | ⟨first, more, rfl⟩
    · -- a wait is never played
      unfold Side.turn at turned
      rw [cues] at turned
      split at turned <;> cases turned
    · refine ⟨first, more, rfl, kept, ?_⟩
      rw [Side.unread, Side.unread, cues, List.flatMap_cons]
      rfl

theorem read_data (stream : Stream) (first : Byte) (more : Bytes) {room : Nat} (roomy : 0 < room)
    (feeds : stream.reading.Feeds) :
    ∃ bytes next, stream.read (some (.data (first :: more))) room =
        (.data bytes, { stream with reading := next }) ∧
      bytes ≠ [] ∧ next.Feeds ∧ first :: more ++ stream.reading.unread = bytes ++ next.unread := by
  by_cases fitting : (first :: more).length ≤ room
  · refine ⟨first :: more, stream.reading, ?_, List.cons_ne_nil _ _, feeds, rfl⟩
    simp only [Stream.read, if_pos fitting]
  · have left : (first :: more).drop room ≠ [] := by
      intro empty
      have lengths := congrArg List.length empty
      rw [List.length_drop, List.length_nil] at lengths
      omega
    refine ⟨(first :: more).take room,
      { stream.reading with cues := .data ((first :: more).drop room) :: stream.reading.cues },
      ?_, ?_, ⟨feeds.idles, ?_⟩, ?_⟩
    · simp only [Stream.read, if_neg fitting]
    · intro empty
      have lengths := congrArg List.length empty
      rw [List.length_take, List.length_nil, List.length_cons] at lengths
      omega
    · intro cue member
      rcases List.mem_cons.mp member with rfl | member
      · obtain ⟨next, others, shape⟩ := List.exists_cons_of_ne_nil left
        exact .inr ⟨next, others, by rw [shape]⟩
      · exact feeds.feeding cue member
    · rw [Side.unread, Side.unread, List.flatMap_cons, ← List.append_assoc, Cue.bytes,
        List.take_append_drop]

theorem read_effects (room deadline : Nat) (live : hub.isCancelled = false) :
    (Action.read room deadline true).effects setup 0 hub = hub.receive room deadline := by
  have quiet : (true && hub.isCancelled) = false := live
  simp only [Action.effects, quiet, Bool.false_eq_true, if_false, List.nil_append]

theorem mem_read {room deadline : Nat} {effect : Effect Reading} (roomy : 0 < room)
    (live : hub.isCancelled = false) (feeds : hub.stream.reading.Feeds)
    (member : effect ∈ (Action.read room deadline true).effects setup 0 hub) :
    effect.spawned = [] ∧
      ((effect.reply = some .timedOut ∧ effect.hub = hub) ∨
        ∃ next bytes, effect.hub = { hub with stream := { hub.stream with reading := next } } ∧
          next.Feeds ∧ hub.stream.reading.unread = bytes ++ next.unread ∧
          (effect.reply = none ∧ bytes = [] ∧ next.cues.length < hub.stream.reading.cues.length ∨
            effect.reply = some (.data bytes) ∧ bytes ≠ [])) := by
  rw [read_effects room deadline live] at member
  unfold Hub.receive at member
  split at member
  · split at member
    · obtain rfl := List.mem_singleton.mp member
      exact ⟨rfl, .inl ⟨rfl, rfl⟩⟩
    · cases member
  · rename_i next turned
    obtain ⟨kept, same, fewer⟩ := feeds_of_waiting feeds turned
    obtain rfl := List.mem_singleton.mp member
    exact ⟨rfl, .inr ⟨next, [], rfl, kept, same.symm, .inl ⟨rfl, rfl, fewer⟩⟩⟩
  · rename_i cue next turned
    obtain ⟨first, more, rfl, kept, joined⟩ := feeds_of_plays feeds turned
    obtain ⟨bytes, left, taken, some', feedsLeft, rejoined⟩ :=
      read_data { hub.stream with reading := next } first more roomy kept
    rw [taken] at member
    obtain rfl := List.mem_singleton.mp member
    exact ⟨rfl, .inr ⟨left, bytes, rfl, feedsLeft, joined.trans rejoined, .inr ⟨rfl, some'⟩⟩⟩

theorem answered_read (room deadline : Nat) (hub : Hub) :
    Answered setup (.read room deadline true) hub := by
  refine answered_of_turn (fun hub => hub.stream.reading) deadline (fun _ _ => rfl) ?_ ?_ ?_ hub
  · intro hub turned late
    exact ⟨⟨hub, some .timedOut, []⟩,
      by simp [Action.effects, Hub.receive, turned, late, Hub.answer], rfl⟩
  · intro hub next turned
    refine ⟨⟨{ hub with stream := { hub.stream with reading := next } }, none, []⟩, ?_, rfl, rfl, rfl⟩
    simp [Action.effects, Hub.receive, turned]
  · intro hub cue next turned
    exact ⟨_, by simp [Action.effects, Hub.receive, turned, Hub.answer]; exact .inr rfl, rfl⟩

theorem read_room_pos (config : Config) : 0 < readRoom config := by
  unfold readRoom
  split <;> omega

section

variable {pieces : List Piece} {pending : Bytes} {assembler : Assembler}

theorem complete_of_nil {last : Assembler} {events : List Event}
    (complete : heard ++ told setup events = total)
    (taken : assembler.TakesAll [] events last) : heard = total := by
  cases taken
  rwa [told, List.flatMap_nil, List.append_nil] at complete

theorem safe_read_more (inbound : Inbound setup total pieces reading pending assembler hub)
    (unfinished : reading.unread = [] → pieces = []) :
    (readMore setup pending assembler).Safe setup (Delivering total) (GoesOn setup total) hub := by
  obtain ⟨heard, events, last, steady, taken, complete⟩ := inbound.ahead
  have upTo : heard <+: total := ⟨_, complete⟩
  refine safe_instant upTo rfl steady fun now held => ⟨false, now, ?_, ?_⟩
  · simp only [Action.effects, held.live]
    rfl
  apply safe_instant upTo rfl held
  intro now held
  refine ⟨_, now, rfl, ?_⟩
  refine ⟨fun now => ∃ next : Side, next.Feeds ∧ next.unread = reading.unread ∧
    Steady {} next heard now, ⟨reading, inbound.feeds, rfl, held⟩, ?_⟩
  rintro now ⟨next, feeds, same, held⟩
  have nextIs := held.reading
  refine ⟨⟨held.opened, held.heard.symm ▸ upTo, fun _ empty => ?_⟩,
    ⟨next, feeds, same, held.after 1⟩, answered_read _ _ _, fun effect member => ?_⟩
  · rw [nextIs] at empty
    have nothing : reading.unread = [] := by
      rw [← same, Side.unread, empty]
      rfl
    rw [held.heard]
    rw [unfinished nothing] at taken
    exact complete_of_nil complete taken
  · obtain ⟨alone, late | ⟨left, bytes, moved, feedsLeft, joined, outcome⟩⟩ :=
      mem_read (read_room_pos setup.config) held.live (nextIs.symm ▸ feeds) member
    · refine ⟨alone, fun silent => ?_, fun reply told => ?_⟩
      · rw [late.1] at silent
        cases silent
      · rw [late.1] at told
        cases told
        rw [late.2]
        exact ⟨pieces, next, pending, assembler, rfl, feeds, inbound.fit, same ▸ inbound.joined,
          heard, events, last, held, taken, complete⟩
    · rw [nextIs, same] at joined
      refine ⟨alone, fun silent => ?_, fun reply told => ?_⟩
      · rcases outcome with ⟨_, rfl, _⟩ | ⟨answer, _⟩
        · rw [moved]
          exact ⟨left, feedsLeft, joined.symm, steady_read held⟩
        · rw [silent] at answer
          cases answer
      · rcases outcome with ⟨silent, _⟩ | ⟨answer, _⟩
        · rw [told] at silent
          cases silent
        · rw [answer] at told
          cases told
          rw [moved]
          refine ⟨pieces, left, pending ++ bytes, assembler, rfl, feedsLeft, inbound.fit, ?_,
            heard, events, last, steady_read held, taken, complete⟩
          rw [List.append_assoc, ← joined]
          exact inbound.joined

theorem safe_receive_piece {piece : Piece} {behind : Bytes}
    (tolerant : setup.config.closeOnViolation = false)
    (calm : ∀ observer ∈ setup.observers, ∀ event, observer.cancels event = false)
    (inbound : Inbound setup total (piece :: pieces) reading (piece.wire ++ behind) assembler hub) :
    (receive setup (piece.wire ++ behind) assembler).Safe setup (Delivering total)
      (fun result now => ∃ next, result = some (.receive behind next) ∧
        Inbound setup total pieces reading behind next now) hub := by
  obtain ⟨heard, events, last, steady, taken, complete⟩ := inbound.ahead
  have fits := inbound.fit piece List.mem_cons_self
  have joined : behind ++ reading.unread = pieces.flatMap Piece.wire := by
    have whole := inbound.joined
    rw [List.append_assoc, List.flatMap_cons] at whole
    exact List.append_cancel_left whole
  have others : ∀ other ∈ pieces, other.Fits setup.config.limits :=
    fun other member => inbound.fit other (List.mem_cons_of_mem _ member)
  cases taken with
  | @cons _ next _ _ _ events more first rest =>
      rw [told_append, ← List.append_assoc] at complete
      have upTo : heard ++ told setup events <+: total := ⟨_, complete⟩
      have goesOn : ∀ now, Steady {} reading (heard ++ told setup events) now →
          Inbound setup total pieces reading behind next now :=
        fun now steady => ⟨inbound.feeds, others, joined, _, more, last, steady, rest, complete⟩
      have dropped : (piece.wire ++ behind).drop piece.parsed.consumed = behind := by
        rw [piece.consumed_eq, List.drop_left]
      rw [receive, Piece.parse_wire fits behind]
      cases piece with
      | frame frame =>
          refine safe_bind (safe_mono ?_ (safe_dispatch calm first upTo steady))
          rintro result now ⟨rfl, told⟩
          exact ⟨next, congrArg (fun left => some (Task.receive left next)) dropped, goesOn now told⟩
      | reserved opcode isReserved payload =>
          cases first
          refine safe_bind (safe_mono ?_ (safe_skip tolerant calm upTo steady))
          intro _ now told
          exact ⟨_, congrArg (fun left => some (Task.receive left _)) dropped, goesOn now told⟩

theorem safe_receive (tolerant : setup.config.closeOnViolation = false)
    (calm : ∀ observer ∈ setup.observers, ∀ event, observer.cancels event = false)
    (inbound : Inbound setup total pieces reading pending assembler hub) :
    (receive setup pending assembler).Safe setup (Delivering total) (GoesOn setup total) hub := by
  have joined := inbound.joined
  cases pieces with
  | nil =>
      obtain ⟨rfl, nothing⟩ := List.append_eq_nil_iff.mp joined
      exact safe_read_more inbound fun _ => rfl
  | cons piece rest =>
      rcases pending_cases (inbound.fit piece List.mem_cons_self) joined with
        ⟨behind, rfl, _⟩ | ⟨unfinished, needed, waits⟩
      · refine safe_mono ?_ (safe_receive_piece tolerant calm inbound)
        rintro result now ⟨next, rfl, left⟩
        exact ⟨rest, reading, behind, next, rfl, left⟩
      · rw [receive, waits]
        exact safe_read_more inbound fun nothing => absurd nothing unfinished

theorem prompt_read {room deadline : Nat} (roomy : 0 < room) (live : hub.isCancelled = false)
    (feeds : hub.stream.reading.Feeds) (more : hub.stream.reading.cues ≠ [])
    (ready : hub.stream.reading.readyAt ≤ hub.now) :
    ∃ effect ∈ (Action.read room deadline true).effects setup 0 hub,
      effect.reply ≠ some .timedOut := by
  rw [read_effects room deadline live]
  unfold Hub.receive
  split
  · rename_i turned
    obtain ⟨cue, rest, cues⟩ := List.exists_cons_of_ne_nil more
    unfold Side.turn at turned
    rw [if_neg (by omega), cues] at turned
    rcases feeds.feeding cue (cues ▸ List.mem_cons_self) with ⟨_, rfl⟩ | ⟨_, _, rfl⟩ <;> cases turned
  · exact ⟨_, List.mem_singleton_self _, (nomatch ·)⟩
  · rename_i cue next turned
    obtain ⟨first, others, rfl, kept, _⟩ := feeds_of_plays feeds turned
    obtain ⟨bytes, left, taken, _⟩ :=
      read_data { hub.stream with reading := next } first others roomy kept
    rw [taken]
    exact ⟨_, List.mem_singleton_self _, (nomatch ·)⟩

theorem leads_read {room deadline : Nat} (next : Reading → Script (Option Task)) (roomy : 0 < room)
    (feeds : reading.Feeds) (steady : Steady {} reading heard hub) :
    ∃ now left, left.Feeds ∧ Steady {} left heard now ∧
      (left.cues = [] ∧ Undisturbed (solo setup hub (act (.read room deadline true) next))
          (solo setup now (act (.read room deadline true) next)) ∨
        ∃ bytes, bytes ≠ [] ∧ reading.unread = bytes ++ left.unread ∧
          Undisturbed (solo setup hub (act (.read room deadline true) next))
            (solo setup now (next (.data bytes)))) := by
  induction count : reading.cues.length using Nat.strongRecOn generalizing reading hub with
  | ind count induction =>
      by_cases empty : reading.cues = []
      · exact ⟨hub, reading, feeds, steady, .inl ⟨empty, .refl⟩⟩
      -- first the wait that was met before comes to its end
      let later := hub.after (reading.readyAt - hub.now)
      have waited : Undisturbed (solo setup hub (act (.read room deadline true) next))
          (solo setup later (act (.read room deadline true) next)) :=
        undisturbed_of_waiting (waiting_after setup _ hub _)
      have held : Steady {} reading heard later := steady.after _
      have ready : reading.readyAt ≤ later.now := by
        dsimp only [later, Hub.after]
        omega
      rw [← held.reading] at feeds empty ready
      obtain ⟨effect, member, prompt⟩ := prompt_read roomy held.live feeds empty ready
      obtain ⟨alone, ⟨late, _⟩ | ⟨left, bytes, moved, feedsLeft, joined, outcome⟩⟩ :=
        mem_read roomy held.live feeds member
      · exact absurd late prompt
      · have onward := waited.move 0 (solo_moves_of_effect next member alone)
        rw [held.reading] at joined outcome
        rcases outcome with ⟨silent, rfl, fewer⟩ | ⟨answer, nonempty⟩
        · rw [silent, moved] at onward
          rw [count] at fewer
          obtain ⟨now, last, feedsLast, steadyLast, outcome⟩ :=
            induction left.cues.length fewer feedsLeft (steady_read held) rfl
          refine ⟨now, last, feedsLast, steadyLast, ?_⟩
          rcases outcome with ⟨ended, run⟩ | ⟨bytes, nonempty, same, run⟩
          · exact .inl ⟨ended, onward.trans run⟩
          · exact .inr ⟨bytes, nonempty, joined.trans same, onward.trans run⟩
        · rw [answer, moved] at onward
          exact ⟨_, left, feedsLeft, steady_read held, .inr ⟨bytes, nonempty, joined, onward⟩⟩

theorem read_more_reads (setup : Setup) (pending : Bytes) (assembler : Assembler)
    (live : hub.isCancelled = false) :
    ∃ deadline next, (∀ bytes, next (.data bytes) =
        done (some (Task.receive (pending ++ bytes) assembler))) ∧
      Undisturbed (solo setup hub (readMore setup pending assembler))
        (solo setup hub (act (.read (readRoom setup.config) deadline true) next)) := by
  have began : Undisturbed (solo setup hub (readMore setup pending assembler))
      (solo setup hub (readMore setup pending assembler)) := .refl
  have uncancelled : Action.effects setup 0 .readToken hub = [⟨hub, some false, []⟩] := by
    simp only [Action.effects, live]
    rfl
  have clock : Action.effects setup 0 .readClock hub = [⟨hub, some hub.now, []⟩] := rfl
  exact ⟨_, _, fun _ => rfl, Undisturbed.answer (Undisturbed.answer began uncancelled) clock⟩

/-- From every round on, the loop can be brought to where the bytes have run out. -/
theorem leads_starved (tolerant : setup.config.closeOnViolation = false)
    (calm : ∀ observer ∈ setup.observers, ∀ event, observer.cancels event = false)
    (inbound : Inbound setup total pieces reading pending assembler hub) :
    ∃ final, Undisturbed (solo setup hub (receive setup pending assembler)) final ∧
      final.Starved := by
  -- every round uses up a piece or some bytes
  induction left : pieces.length + reading.unread.length using Nat.strongRecOn
    generalizing pieces reading pending assembler hub with
  | ind size induction =>
      have joined := inbound.joined
      have reads : (∃ needed,
          Frame.parse (.serverFrames setup.config.limits) pending = .ok (.incomplete needed)) →
          ∃ final, Undisturbed (solo setup hub (receive setup pending assembler)) final ∧
            final.Starved := by
        rintro ⟨needed, waits⟩
        obtain ⟨heard, events, last, steady, taken, complete⟩ := inbound.ahead
        obtain ⟨deadline, next, goesOn, began⟩ :=
          read_more_reads setup pending assembler steady.live
        rw [receive, waits]
        obtain ⟨now, side, feeds, held, ⟨ended, run⟩ | ⟨bytes, nonempty, same, run⟩⟩ :=
          leads_read next (read_room_pos setup.config) inbound.feeds steady
        · exact ⟨_, began.trans run, _, _, _, _, rfl, held.reading.symm ▸ ended⟩
        · rw [goesOn] at run
          have again : Inbound setup total pieces side (pending ++ bytes) assembler now := by
            refine ⟨feeds, inbound.fit, ?_, heard, events, last, held, taken, complete⟩
            rw [List.append_assoc, ← same]
            exact joined
          have fewer : pieces.length + side.unread.length < size := by
            have some' := List.length_pos_iff.mpr nonempty
            rw [← left, same, List.length_append]
            omega
          obtain ⟨final, later, starved⟩ := induction _ fewer again rfl
          exact ⟨final, ((began.trans run).move 0 (solo_moves_of_done now _)).trans later, starved⟩
      cases pieces with
      | nil =>
          obtain ⟨rfl, _⟩ := List.append_eq_nil_iff.mp joined
          exact reads ⟨2, rfl⟩
      | cons piece rest =>
          rcases pending_cases (inbound.fit piece List.mem_cons_self) joined with
            ⟨behind, rfl, _⟩ | ⟨_, waits⟩
          · obtain ⟨result, now, run, next, rfl, again⟩ :=
              undisturbed_to_done (safe_receive_piece tolerant calm inbound)
            have fewer : rest.length + reading.unread.length < size := by
              rw [← left, List.length_cons]
              omega
            obtain ⟨final, later, starved⟩ := induction _ fewer again rfl
            exact ⟨final, (run.move 0 (solo_moves_of_done now _)).trans later, starved⟩
          · exact reads waits

end

/-- An open connection whose stream brings bytes and does not fail, with nobody
at the gate. -/
structure Ready (hub : Hub) : Prop where
  opened : hub.phase = .opened
  live : hub.isCancelled = false
  hasWriter : hub.hasWriter = true
  gate : hub.gate = {}
  writes : hub.stream.writing.Works
  flushes : hub.stream.flushing.Works
  feeds : hub.stream.reading.Feeds

theorem told_items (setup : Setup) (items : List Item) :
    told setup (items.flatMap Item.events) =
      (items.flatMap Item.events).flatMap fun event =>
        (List.range setup.observers.length).map fun observer => (observer, event, Phase.opened) := by
  have heard : ∀ item : Item, ∀ event ∈ item.events, ∀ frame, event ≠ .frameSent frame := by
    rintro (single | written) event member frame rfl
    · cases single <;> cases List.mem_singleton.mp member
    · simp only [Item.events, Letter.events, Letter.between, List.mem_append, List.mem_flatMap,
        List.mem_map, List.mem_singleton] at member
      rcases member with ⟨_, _, aside, _, absent⟩ | absent
      · cases aside <;> cases absent
      · cases content : written.content <;> rw [content] at absent <;> cases absent
  apply List.flatMap_congr
  intro event member
  obtain ⟨item, _, inside⟩ := List.mem_flatMap.mp member
  rw [tellings, ← List.filterMap_eq_map]
  congr 1
  funext observer
  cases event with
  | frameSent frame => exact absurd rfl (heard item _ inside frame)
  | _ => rfl

/-- However the bytes of some items are divided between the buffer and the reads,
and however long they take, the connection stays open, every observer is told
of the items in order, of each one once and unchanged, and of nothing else; of
all of them when the bytes have run out, which they can always come to. -/
theorem inbound_delivery (setup : Setup) (hub : Hub) (items : List Item) (pending : Bytes)
    (tolerant : setup.config.closeOnViolation = false)
    (calm : ∀ observer ∈ setup.observers, ∀ event, observer.cancels event = false)
    (ready : Ready hub) (fits : ∀ item ∈ items, item.Fits setup.config.limits)
    (divided : pending ++ hub.stream.reading.unread = items.flatMap Item.wire) {world : World}
    (run : Undisturbed
      (solo setup hub ((Task.receive pending { limits := setup.config.limits }).script setup)) world) :
    let complete := hub.deliveries ++ (items.flatMap Item.events).flatMap fun event =>
      (List.range setup.observers.length).map fun observer => (observer, event, Phase.opened)
    world.hub.phase = .opened ∧ world.hub.deliveries <+: complete ∧
      (world.Starved → world.hub.deliveries = complete) ∧
      ∃ final, Undisturbed world final ∧ final.Starved := by
  intro complete
  have inbound : Inbound setup complete (items.flatMap Item.pieces) hub.stream.reading pending
      { limits := setup.config.limits } hub := by
    refine ⟨ready.feeds, fun piece member => ?_, ?_, hub.deliveries, items.flatMap Item.events, _,
      ?_, Assembler.takes_items fits, by rw [told_items]⟩
    · obtain ⟨item, found, inside⟩ := List.mem_flatMap.mp member
      exact Item.pieces_fit (fits item found) piece inside
    · rw [divided, List.flatMap_assoc]
      rfl
    · exact ⟨ready.opened, ready.live, ready.hasWriter, ready.gate, ready.writes, ready.flushes, rfl,
        rfl⟩
  have goesOn : ∀ task now, GoesOn setup complete (some task) now →
      (task.script setup).Safe setup (Delivering complete) (GoesOn setup complete) now := by
    rintro task now ⟨pieces, reading, left, assembler, same, inbound⟩
    cases same
    exact safe_receive tolerant calm inbound
  have later : ∀ result now, GoesOn setup complete result now →
      GoesOn setup complete result (now.after 1) := by
    rintro result now ⟨pieces, reading, left, assembler, same, inbound⟩
    exact ⟨pieces, reading, left, assembler, same, inbound.after 1⟩
  obtain ⟨now, rest, rfl, safe⟩ :=
    safe_of_undisturbed later goesOn (safe_receive tolerant calm inbound) run
  refine ⟨?_, ?_, ?_, ?_⟩
  · cases rest with
    | done result =>
        obtain ⟨_, _, _, _, _, inbound⟩ := safe
        obtain ⟨_, _, _, steady, _⟩ := inbound.ahead
        exact steady.opened
    | act action next =>
        obtain ⟨holds, start, steady⟩ := safe
        exact (steady now start).1.1
  · cases rest with
    | done result =>
        obtain ⟨_, _, _, _, _, inbound⟩ := safe
        obtain ⟨_, _, _, steady, _, whole⟩ := inbound.ahead
        exact steady.heard.symm ▸ ⟨_, whole⟩
    | act action next =>
        obtain ⟨holds, start, steady⟩ := safe
        exact (steady now start).1.2.1
  · rintro ⟨room, deadline, isCancellable, next, actors, empty⟩
    have same : rest = act (.read room deadline isCancellable) next :=
      congrArg Actor.script (List.cons.inj actors).1
    subst same
    obtain ⟨holds, start, steady⟩ := safe
    exact (steady now start).1.2.2 rfl empty
  · obtain ⟨result, last, finished, _, _, _, _, rfl, inbound⟩ := undisturbed_to_done safe
    obtain ⟨final, starving, starved⟩ := leads_starved tolerant calm inbound
    exact ⟨final, (finished.move 0 (solo_moves_of_done last _)).trans starving, starved⟩

/-- A text in two fragments with a Ping between them, then a reserved frame; the
bytes come in three parts, with more than a read timeout between the last two. -/
theorem inbound_delivery_of_text_and_ping :
    let setup : Setup := { observers := [{}] }
    let reading : Side :=
      { cues := [.data [0x61, 0x89, 0x01], .wait 70000, .data [0x07, 0x80, 0x01, 0x62, 0x83, 0x00]]
        idles := true }
    let hub : Hub := { phase := .opened, stream := { reading } }
    let start := solo setup hub ((Task.receive [0x01, 0x01] { limits := {} }).script setup)
    ∃ final, Undisturbed start final ∧ final.Starved ∧ final.hub.phase = .opened ∧
      final.hub.deliveries =
        [(0, .ping [7], .opened), (0, .text "ab", .opened), (0, .unexpected 3, .opened)] := by
  intro setup reading hub start
  let letter : Letter := ⟨.text "ab", [0x61], [([.ping [7]], [0x62])], by decide⟩
  let items : List Item := [.letter letter, .aside (.reserved 0x83 rfl [])]
  have tolerant : setup.config.closeOnViolation = false := rfl
  have calm : ∀ observer ∈ setup.observers, ∀ event, observer.cancels event = false := by
    intro observer member event
    obtain rfl := List.mem_singleton.mp member
    rfl
  have feeds : hub.stream.reading.Feeds := by
    refine ⟨rfl, fun cue member => ?_⟩
    simp only [hub, reading, List.mem_cons, List.not_mem_nil, or_false] at member
    rcases member with rfl | rfl | rfl
    · exact .inr ⟨_, _, rfl⟩
    · exact .inl ⟨_, rfl⟩
    · exact .inr ⟨_, _, rfl⟩
  have works : ({} : Side).Works := by
    intro cue absent
    cases absent
  have ready : Ready hub := ⟨rfl, rfl, rfl, rfl, works, works, feeds⟩
  have fits : ∀ item ∈ items, item.Fits setup.config.limits := by
    intro item member
    simp only [items, List.mem_cons, List.not_mem_nil, or_false] at member
    rcases member with rfl | rfl
    · refine ⟨by decide, by decide, by decide, by decide, fun part inside aside found => ?_⟩
      obtain rfl := List.mem_singleton.mp inside
      obtain rfl := List.mem_singleton.mp found
      have short : ([7] : Bytes).length ≤ Frame.maxControlPayload := by decide
      exact ⟨by decide, by decide, short⟩
    · exact ⟨by decide, by decide, trivial⟩
  have divided : [0x01, 0x01] ++ hub.stream.reading.unread = items.flatMap Item.wire := by decide
  obtain ⟨_, _, _, final, run, starved⟩ :=
    inbound_delivery setup hub items [0x01, 0x01] tolerant calm ready fits divided (.refl)
  obtain ⟨opened, _, complete, _⟩ :=
    inbound_delivery setup hub items [0x01, 0x01] tolerant calm ready fits divided run
  exact ⟨final, run, starved, opened, complete starved⟩

end Connection

end WebSocket
