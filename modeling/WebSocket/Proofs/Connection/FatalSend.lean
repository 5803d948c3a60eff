import WebSocket.Proofs.Connection.LastWord
import WebSocket.Proofs.Connection.Settling
import WebSocket.Proofs.Connection.Underway

/-!
A connection on which nothing can be written any more. When an operation returns in which somebody
has learned that from the gate, the connection is closed, whatever the others have done meanwhile.
Frames that come later are refused, and nothing of them comes onto the wire.
-/

namespace WebSocket

theorem Script.ComesTo.recorded {Result : Type} {script : Script Result}
    {ends : Result → Record → Prop} {actor : Nat} {history : History} {result : Result}
    (earlier : History) (comes : script.ComesTo actor history (.done result))
    (records : script.Records ends (earlier.stand Dealings.conduct actor).record) :
    ends result (History.stand (earlier ++ history) Dealings.conduct actor).record := by
  rw [History.stand, List.foldl_append]
  exact comes.follows (records actor (earlier.stand Dealings.conduct actor).passage)

def Action.isLook : Action → Bool
  | readPhase | readPeerClose => true
  | _ => false

theorem Happening.wrote_of_look {happening : Happening} (looks : happening.action.isLook = true) :
    happening.wrote = [] := by
  obtain ⟨actor, action, reply⟩ := happening
  cases action <;> first | rfl | cases looks

namespace Connection

open Script

variable {setup : Setup}

/-- The error for a frame that comes too late. -/
def refusal (peerClose : Option CloseFrame) : Except Error SendStatus :=
  .error (.connectionClosed (peerClose.map fun close => close.code.number))

theorem refuses_of_unopened {phase : Phase} (unopened : phase ≠ .opened) : (!phase.canSend) = true := by
  cases phase with
  | opened => exact absurd rfl unopened
  | _ => rfl

theorem looks_of_late {frame : Frame} {actor : Nat} {history : History}
    {rest : Script (Except Error SendStatus)}
    (comes : (sendFrame setup frame).ComesTo actor history rest)
    (shut : ∀ seen, ⟨actor, .readPhase, some seen⟩ ∈ history → seen ≠ .opened) :
    (∀ happening ∈ history, happening.actor = actor → happening.action.isLook = true) ∧
    (rest = sendFrame setup frame ∨ rest = refuse ∨
      ∃ peerClose, ⟨actor, .readPeerClose, some peerClose⟩ ∈ history ∧
        rest = .done (refusal peerClose)) := by
  have append {history : History} {newest : Happening}
      (looks : ∀ happening ∈ history, happening.actor = actor → happening.action.isLook = true)
      (now : newest.actor = actor → newest.action.isLook = true) :
      ∀ happening ∈ history ++ [newest], happening.actor = actor → happening.action.isLook = true :=
    List.forall_mem_append.mpr ⟨looks, List.forall_mem_singleton.mpr now⟩
  induction comes with
  | refl => exact ⟨nofun, .inl rfl⟩
  | own before reply induction =>
      obtain ⟨looks, stage⟩ := induction fun seen member => shut seen (List.mem_append_left _ member)
      rcases stage with first | second | ⟨_, _, done⟩
      · cases first
        have unopened := shut reply (List.mem_append_right _ List.mem_cons_self)
        exact ⟨append looks fun _ => rfl, .inr (.inl (if_pos (refuses_of_unopened unopened)))⟩
      · cases second
        exact ⟨append looks fun _ => rfl,
          .inr (.inr ⟨reply, List.mem_append_right _ List.mem_cons_self, rfl⟩)⟩
      · cases done
  | waits before induction =>
      obtain ⟨looks, stage⟩ := induction fun seen member => shut seen (List.mem_append_left _ member)
      rcases stage with first | second | ⟨_, _, done⟩
      · cases first
        exact ⟨append looks fun _ => rfl, .inl rfl⟩
      · cases second
        exact ⟨append looks fun _ => rfl, .inr (.inl rfl)⟩
      · cases done
  | other before other induction =>
      obtain ⟨looks, stage⟩ := induction fun seen member => shut seen (List.mem_append_left _ member)
      refine ⟨append looks fun own => absurd own other, stage.imp_right (Or.imp_right ?_)⟩
      rintro ⟨peerClose, seen, same⟩
      exact ⟨peerClose, List.mem_append_left _ seen, same⟩

end Connection

namespace World

open Script Connection

variable {start before world : World} {history later : History} {index : Nat}

theorem closed_of_record (empty : start.actors = []) (run : start.RunIn operations history before)
    (behind : before.RunIn operations later world)
    (closed : (later.stand Dealings.conduct index).record.hasClosed = true) :
    world.hub.phase = .closed := by
  obtain ⟨seen, closes⟩ := History.closes_of_record closed
  have passed : Phase.closed ∈ (history ++ later).flatMap Happening.sights := by
    refine List.mem_flatMap.mpr ⟨_, List.mem_append_right _ closes, ?_⟩
    exact List.mem_cons_of_mem _ List.mem_cons_self
  have ascends := ascends_of_run operations_usual empty (run.trans behind)
  exact Phase.eq_closed_of_le (ascends.le_of_mem passed)

theorem unopened_of_late (empty : start.actors = []) (run : start.RunIn operations history before)
    (behind : before.RunIn operations later world)
    (late : before.hub.phase = .closing ∨ before.hub.phase = .closed) : world.hub.phase ≠ .opened := by
  have onwards := RunIn.phase_le operations_usual empty run behind
  intro opened
  rw [opened] at onwards
  rcases late with phase | phase <;> exact absurd (phase ▸ onwards) (by decide)

theorem seen_of_look (behind : before.RunIn operations later world) {action : Action}
    {seen : action.Reply} (looks : ⟨index, action, some seen⟩ ∈ later) (look : Hub → action.Reply)
    (answers : ∀ hub, action.effects before.setup index hub = hub.answer (look hub)) :
    ∃ place moment, before.RunIn operations (later.take place) moment ∧
      later[place]? = some ⟨index, action, some seen⟩ ∧ look moment.hub = seen := by
  obtain ⟨place, found⟩ := List.mem_iff_getElem?.mp looks
  obtain ⟨moment, -, -, effect, earlier, -, -, member, told⟩ := behind.at_place found
  obtain rfl := List.mem_singleton.mp (answers moment.hub ▸ member)
  exact ⟨place, moment, earlier, found, Option.some.inj told⟩

/-- Somebody comes to an operation in which something is written through the gate. Until he returns
from it, he is under way in it. If the gate has told him meanwhile that nothing can be written any
more, the connection is closed when he returns. What a sending answers is told to him besides what he
was told before, and is never forgotten; for a frame that is not a Close frame it is all that he is
told, and he answers it himself. As long as it is anything else, he leaves the phase alone. Whoever
comes with a frame when the connection is closing or closed writes nothing; he looks twice at most, is
kept from neither, and returns with an error that has the code of the peer's Close frame, if there is
one when he looks for it. -/
theorem fatal_send_ends (empty : start.actors = []) (run : start.RunIn operations history before)
    (behind : before.RunIn operations later world) (index : Nat) :
    (∀ {Result : Type} {operation : Script Result}, Sends start.setup operation →
      (∀ next isAbortable, before.actors[index]? = some ⟨operation.bind next, isAbortable⟩ →
        (∃ rest, operation.ComesTo index later rest ∧
          world.actors[index]? = some ⟨rest.bind next, isAbortable⟩) ∨
        HasGoneOn operations before later index operation next isAbortable) ∧
      ∀ result, operation.ComesTo index later (.done result) →
        .fatalError ∈ later.verdicts index → world.hub.phase = .closed) ∧
    (∀ first second third content status, later = first ++ second ++ third → content ≠ [] →
      (Gate.send start.setup.config content).ComesTo index second (.done status) →
        History.verdicts (first ++ second) index = first.verdicts index ++ [status] ∧
        History.verdicts (first ++ second) index <+: later.verdicts index) ∧
    (∀ frame status, frame.opcode ≠ .close →
      (sendFrame start.setup frame).ComesTo index later (.done (.ok status)) →
        later.verdicts index = [status]) ∧
    (∀ {Result : Type} {operation : Script Result}, SendsOrdinary start.setup operation → ∀ result,
      operation.ComesTo index later (.done result) → .fatalError ∉ later.verdicts index →
        ∀ happening ∈ later, happening.actor = index → happening.LeavesPhase) ∧
    (before.hub.phase = .closing ∨ before.hub.phase = .closed → ∀ frame rest,
      (sendFrame start.setup frame).ComesTo index later rest →
        (∀ happening ∈ later, happening.actor = index → happening.wrote = []) ∧
        (∀ result, rest = .done result →
          ∃ place moment, before.RunIn operations (later.take place) moment ∧
            later[place]? = some ⟨index, .readPeerClose, some moment.hub.peerClose⟩ ∧
            result = refusal moment.hub.peerClose) ∧
        ∀ action next, rest = .act action next →
          ∃ reply, action.effects start.setup index world.hub = world.hub.answer reply ∧
            (next reply = refuse ∨ ∃ result, next reply = .done result)) := by
  refine ⟨fun sends => ⟨?_, ?_⟩, ?_, ?_, ?_, fun late frame rest comes => ?_⟩
  · exact fun next isAbortable here => behind.under_way here
  · intro result comes fatal
    exact closed_of_record empty run behind (comes.recorded [] (sends.settles {} nofun) fatal)
  · rintro first second third content status rfl nonempty comes
    refine ⟨?_, History.verdicts_append _ third index⟩
    exact congrArg Record.verdicts (comes.recorded first (Gate.send_records _ nonempty))
  · intro frame status ordinary comes
    exact comes.recorded [] (send_frame_records ordinary) status rfl
  · intro Result operation sends result comes mild
    have calm := comes.recorded [] (sends.calm {} nofun)
    exact History.leaves_phase_of_record (Bool.not_eq_true _ ▸ fun moved => mild (calm moved))
  · have shut (seen : Phase) (looks : ⟨index, .readPhase, some seen⟩ ∈ later) : seen ≠ .opened := by
      obtain ⟨place, moment, earlier, -, same⟩ :=
        seen_of_look behind looks Hub.phase fun _ => rfl
      exact same ▸ unopened_of_late empty run earlier late
    obtain ⟨looks, stage⟩ := looks_of_late comes shut
    refine ⟨fun happening member own => Happening.wrote_of_look (looks happening member own), ?_, ?_⟩
    · rintro result rfl
      rcases stage with first | second | ⟨peerClose, reads, same⟩
      · cases first
      · cases second
      · cases same
        obtain ⟨place, moment, earlier, found, rfl⟩ :=
          seen_of_look behind reads Hub.peerClose fun _ => rfl
        exact ⟨place, moment, earlier, found, rfl⟩
    · rintro action next rfl
      rcases stage with first | second | ⟨_, _, done⟩
      · cases first
        have unopened := unopened_of_late empty run behind late
        exact ⟨_, rfl, .inl (if_pos (refuses_of_unopened unopened))⟩
      · cases second
        exact ⟨_, rfl, .inr ⟨_, rfl⟩⟩
      · cases done

/-- Somebody sends a text on a connection on which nothing can be written any more. -/
def pipeBroken : History × World :=
  play (List.replicate 18 0) ([], severed.begin (Call.script severed.setup (.send (.text "late"))) false)

/-- Behind the text that met the broken pipe, somebody else comes with another one. -/
def refusedBehind : History × World :=
  play [1, 1] ([], pipeBroken.2.begin (Call.script severed.setup (.send (.text "later"))) false)

theorem comes_to_broken_pipe :
    (sendFrame severed.setup (.text "late")).ComesTo 0 pipeBroken.1 (.done (.ok .fatalError)) := by
  have looks := (ComesTo.refl : (sendFrame severed.setup (.text "late")).ComesTo 0 [] _).own .opened
  have enters := (((looks.own ⟨0, 0, 0, 0⟩).own ()).own true).own 0
  have fails := (enters.own (.failed ⟨.brokenPipe, "broken pipe"⟩)).own ()
  have closes := (((fails.own .opened).own ()).own none).own ()
  have shuts := (((closes.own true).own ()).own ()).own 0
  exact ((shuts.own (.done 0)).own ()).own ()

theorem fatal_send_ends_of_broken_pipe :
    severed.actors = [] ∧ pipeBroken.1.verdicts 0 = [.fatalError] ∧ pipeBroken.2.hub.phase = .closed ∧
      (sendFrame severed.setup (.text "later")).ComesTo 1 refusedBehind.1
        (.done (.error (.connectionClosed none))) ∧
      (∀ happening ∈ refusedBehind.1, happening.actor = 1 → happening.wrote = []) ∧
      ∃ (place : Nat) (moment : World),
        refusedBehind.1[place]? = some ⟨1, .readPeerClose, some moment.hub.peerClose⟩ ∧
        (.error (.connectionClosed none) : Except Error SendStatus) = refusal moment.hub.peerClose := by
  have begins : severed.RunIn operations []
      (severed.begin (Call.script severed.setup (.send (.text "late"))) false) :=
    .begin .refl (.joins (.call (.send (.text "late")) 0))
  have breaks : (severed.begin (Call.script severed.setup (.send (.text "late"))) false).RunIn operations
      pipeBroken.1 pipeBroken.2 := run_in_of_play _ .refl
  obtain ⟨closes, -, told, -⟩ := fatal_send_ends rfl begins breaks 0
  have verdicts : pipeBroken.1.verdicts 0 = [.fatalError] :=
    told (.text "late") .fatalError nofun comes_to_broken_pipe
  have closed : pipeBroken.2.hub.phase = .closed :=
    (closes (.frame (.text "late"))).2 _ comes_to_broken_pipe (verdicts ▸ List.mem_cons_self)
  have comes : severed.RunIn operations pipeBroken.1
      (pipeBroken.2.begin (Call.script severed.setup (.send (.text "later"))) false) :=
    .begin (begins.trans breaks) (.joins (.call (.send (.text "later")) 1))
  have leaves : (pipeBroken.2.begin (Call.script severed.setup (.send (.text "later"))) false).RunIn
      operations refusedBehind.1 refusedBehind.2 := run_in_of_play _ .refl
  have refused : (sendFrame severed.setup (.text "later")).ComesTo 1 refusedBehind.1
      (.done (.error (.connectionClosed none))) :=
    ((ComesTo.refl : (sendFrame severed.setup (.text "later")).ComesTo 1 [] _).own .closed).own none
  obtain ⟨-, -, -, -, late⟩ := fatal_send_ends rfl comes leaves 1
  obtain ⟨silent, answered, -⟩ := late (.inr closed) (.text "later") _ refused
  obtain ⟨place, moment, -, reads, same⟩ := answered _ rfl
  exact ⟨rfl, verdicts, closed, refused, silent, place, moment, reads, same⟩

end World

end WebSocket
