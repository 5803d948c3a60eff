import WebSocket.Proofs.Connection.Order
import WebSocket.Proofs.Frame.RoundTrip

/-!
What is written after a Close frame. The gate is passed on in the order in which
actors joined its line, but a sender looks at the phase before it joins the
line. A sender that has looked in time can therefore join it behind the Close
frame, and this is the only way in which a frame can follow a Close frame.
-/

namespace WebSocket

namespace Frame

theorem opcode_of_serialize {frame other : Frame} {mask otherMask : Option MaskKey}
    (same : frame.serialize mask = other.serialize otherMask) : frame.opcode = other.opcode := by
  rw [serialize_eq_encode, serialize_eq_encode] at same
  have fields := congrArg (· ++ []) same
  simp only [encode_eq_fields] at fields
  have first : frame.firstByte = other.firstByte := (List.cons.inj fields).1
  have number : frame.opcode.toByte = other.opcode.toByte := by
    rw [← frame.first_byte_bits.2.2.2.2, first, other.first_byte_bits.2.2.2.2]
  have back := congrArg Opcode.ofByte? number
  rw [Opcode.of_byte_to_byte, Opcode.of_byte_to_byte] at back
  exact Option.some.inj back

end Frame

theorem not_closing_of_ordinary {bytes : Bytes} (ordinary : IsOrdinary bytes) : ¬IsClosing bytes := by
  rintro ⟨code, reason, otherKey, same⟩
  obtain ⟨frame, key, notClose, rfl⟩ := ordinary
  exact notClose (Frame.opcode_of_serialize same)

namespace Happening

variable {happening : Happening} {actor : Nat} {duty : Duty}

theorem of_checked (before : duty ≠ .checked) (after : happening.advance actor duty = .checked) :
    happening = ⟨actor, .readPhase, some .opened⟩ := by
  cases changes_to before after
  rfl

theorem of_owner (before : duty ≠ .owner) (after : happening.advance actor duty = .owner) :
    ∃ source target, happening = ⟨actor, .movePhase source target, some true⟩ := by
  cases changes_to before after with
  | move source target => exact ⟨source, target, rfl⟩

theorem of_claimant (before : duty ≠ .claimant) (after : happening.advance actor duty = .claimant) :
    happening = ⟨actor, .claimClose, some true⟩ := by
  cases changes_to before after
  rfl

end Happening

theorem Duty.claimant_of_closing {duty : Duty} {content : Bytes} (mayQueue : duty.mayQueue content)
    (nonempty : content ≠ []) (closing : IsClosing content) : duty = .claimant := by
  cases duty with
  | free => exact absurd mayQueue nonempty
  | checked =>
      rcases mayQueue with empty | ordinary
      · exact absurd empty nonempty
      · exact absurd closing (not_closing_of_ordinary ordinary)
  | claimant => rfl
  | _ => exact mayQueue.elim

theorem Duty.checked_of_unclaimed {duty : Duty} {content : Bytes} (mayQueue : duty.mayQueue content)
    (nonempty : content ≠ []) (unclaimed : duty ≠ .claimant) :
    duty = .checked ∧ IsOrdinary content := by
  cases duty with
  | free => exact absurd mayQueue nonempty
  | checked => exact ⟨rfl, mayQueue.resolve_left nonempty⟩
  | claimant => exact absurd rfl unclaimed
  | _ => exact mayQueue.elim

theorem History.Writes.nonempty {history : History} {place actor queue : Nat} {content : Bytes}
    (writes : history.Writes place actor queue content) : content ≠ [] := by
  obtain ⟨bytes, _, _, _, some, part⟩ := writes.write
  rintro rfl
  exact some (List.infix_nil.mp part)

namespace World.Run

variable {start world : World} {history : History} {actor till : Nat}

theorem looked (within : till ≤ history.length) (checked : history.dutyAt till actor = .checked) :
    ∃ look, look < till ∧ history[look]? = some ⟨actor, .readPhase, some .opened⟩ ∧
      history.IsQuiet actor look till := by
  obtain ⟨look, cause, earlier, found, unlike, change, holds⟩ :=
    History.since (· = .checked) nofun within checked
  obtain rfl := Happening.of_checked unlike change
  exact ⟨look, earlier, found, History.quiet_of_holds (· = .checked) nofun holds⟩

theorem claimed (within : till ≤ history.length) (claimant : history.dutyAt till actor = .claimant) :
    ∃ claim, claim < till ∧ history[claim]? = some ⟨actor, .claimClose, some true⟩ ∧
      history.IsQuiet actor claim till := by
  obtain ⟨claim, cause, earlier, found, unlike, change, holds⟩ :=
    History.since (· = .claimant) nofun within claimant
  obtain rfl := Happening.of_claimant unlike change
  exact ⟨claim, earlier, found, History.quiet_of_holds (· = .claimant) nofun holds⟩

theorem moved (fresh : start.Fresh) (run : start.Run history world) (within : till ≤ history.length)
    (owner : history.dutyAt till actor = .owner) :
    ∃ move, move < till ∧ history[move]? = some ⟨actor, .movePhase .opened .closing, some true⟩ := by
  obtain ⟨move, cause, earlier, found, unlike, change, -⟩ :=
    History.since (· = .owner) nofun within owner
  obtain ⟨source, target, rfl⟩ := Happening.of_owner unlike change
  obtain ⟨-, rfl, rfl⟩ := run.permitted fresh found
  exact ⟨move, earlier, found⟩

theorem look_before_move (fresh : start.Fresh) (run : start.Run history world)
    {look move closer : Nat} (looks : history[look]? = some ⟨actor, .readPhase, some .opened⟩)
    (moves : history[move]? = some ⟨closer, .movePhase .opened .closing, some true⟩) : look < move := by
  obtain ⟨before, _, _, effect, earlier, _, _, member, reply⟩ := run.at looks
  obtain rfl := List.mem_singleton.mp member
  have opened : before.hub.phase = .opened := Option.some.inj reply
  apply Nat.lt_of_not_le
  intro passed
  rcases Nat.lt_or_eq_of_le passed with moved | rfl
  · have member : _ ∈ history.take look :=
      List.mem_of_getElem? ((List.getElem?_take_of_lt moved).trans moves)
    exact (orderly_of_run fresh earlier).agreed.unmoved opened _ member ⟨closer, rfl⟩
  · cases looks.symm.trans moves

theorem claim_unique (fresh : start.Fresh) (run : start.Run history world)
    {claim again other : Nat} (claims : history[claim]? = some ⟨actor, .claimClose, some true⟩)
    (claimsToo : history[again]? = some ⟨other, .claimClose, some true⟩) : again ≤ claim := by
  apply Nat.le_of_not_lt
  intro passed
  obtain ⟨before, _, _, effect, earlier, _, _, member, reply⟩ := run.at claimsToo
  obtain rfl := List.mem_singleton.mp member
  have unclaimed : before.hub.closeClaimed = false := by
    have answer : (!before.hub.closeClaimed) = true := Option.some.inj reply
    simpa using answer
  have member : _ ∈ history.take again :=
    List.mem_of_getElem? ((List.getElem?_take_of_lt passed).trans claims)
  exact (orderly_of_run fresh earlier).agreed.unclaimed unclaimed _ member ⟨actor, rfl⟩

/-- A frame in line behind the Close frame is none itself, and its sender has
found the connection open before the closer moved it. -/
theorem behind_close (fresh : start.Fresh) (run : start.Run history world)
    {first second closer sender queue other : Nat} {content frame : Bytes}
    (close : history.Writes first closer queue content) (closing : IsClosing content)
    (writes : history.Writes second sender other frame) (behind : queue < other) :
    IsOrdinary frame ∧
      ∃ look move, history[look]? = some ⟨sender, .readPhase, some .opened⟩ ∧
        history[move]? = some ⟨closer, .movePhase .opened .closing, some true⟩ ∧
        look < move ∧ move < queue ∧ history.IsQuiet sender look other := by
  have within : ∀ {place happening}, history[place]? = some happening → place ≤ history.length :=
    fun found => Nat.le_of_lt (List.getElem?_eq_some_iff.mp found).1
  have claimant := Duty.claimant_of_closing (run.permitted fresh close.joined) close.nonempty closing
  obtain ⟨claim, claimFirst, claims, -⟩ := claimed (within close.joined) claimant
  obtain ⟨move, moveFirst, moves⟩ := run.moved fresh (within claims) (run.permitted fresh claims)
  have unclaimed : history.dutyAt other sender ≠ .claimant := by
    intro claimant
    obtain ⟨again, -, claimsToo, quiet⟩ := claimed (within writes.joined) claimant
    have once := run.claim_unique fresh claimsToo claims
    have onceToo := run.claim_unique fresh claims claimsToo
    obtain rfl := Nat.le_antisymm once onceToo
    -- the one who has claimed it has joined the line since then
    cases claims.symm.trans claimsToo
    have joins := quiet queue _ claimFirst behind close.joined
    exact absurd ((Happening.is_queuing_own closer content).symm.trans joins) (by decide)
  obtain ⟨checked, ordinary⟩ :=
    Duty.checked_of_unclaimed (run.permitted fresh writes.joined) writes.nonempty unclaimed
  obtain ⟨look, -, looks, quiet⟩ := looked (within writes.joined) checked
  have before := run.look_before_move fresh looks moves
  exact ⟨ordinary, look, move, looks, moves, before, Nat.lt_trans moveFirst claimFirst, quiet⟩

end World.Run

/-- Every write brings its part of a frame onto the wire, and a frame is written
after a Close frame exactly if it was put in line behind it. Then it is no Close
frame, and its sender has found the connection open before the closer moved it. -/
theorem World.frames_behind_close {start world : World} {history : History} (fresh : start.Fresh)
    (run : start.Run history world) :
    world.hub.stream.written = start.hub.stream.written ++ history.flatMap Happening.wrote ∧
    (∀ place actor bytes deadline reply,
      history[place]? = some ⟨actor, .write bytes deadline, reply⟩ →
        ∃ queue content, history.Writes place actor queue content) ∧
    ∀ first closer queue content second sender other frame,
      history.Writes first closer queue content → IsClosing content →
      history.Writes second sender other frame →
        (first < second ∧ other ≠ queue ↔ queue < other) ∧
        (queue < other → IsOrdinary frame ∧
          ∃ look move, history[look]? = some ⟨sender, .readPhase, some .opened⟩ ∧
            history[move]? = some ⟨closer, .movePhase .opened .closing, some true⟩ ∧
            look < move ∧ move < queue ∧ history.IsQuiet sender look other) := by
  refine ⟨written_of_run run, fun _ _ _ _ _ found => run.writes_of_write fresh found, ?_⟩
  intro first closer queue content second sender other frame close closing writes
  refine ⟨⟨fun ⟨later, different⟩ => ?_, fun behind => ?_⟩, run.behind_close fresh close closing writes⟩
  · have ordered := run.in_order fresh close writes later
    omega
  · refine ⟨Nat.lt_of_not_le fun passed => ?_, by omega⟩
    rcases Nat.lt_or_eq_of_le passed with sooner | rfl
    · have ordered := run.in_order fresh writes close sooner
      omega
    · have same := close.queue_eq writes
      omega

/-- Once a Close frame is being written, nothing but the rest of it is written. -/
def History.IsSilentAfterClose (history : History) : Prop :=
  ∀ first closer queue content second sender other frame,
    history.Writes first closer queue content → IsClosing content →
    history.Writes second sender other frame → first < second → other = queue

namespace World

/-- An open connection on which nobody does anything yet. -/
def openWorld : World := { setup := {}, hub := { phase := .opened } }

/-- One call sends a text, another one closes. The sender finds the connection
open, the closer acts until its Close frame is written, then the sender goes on. -/
def lateText : History × World :=
  play [0, 1, 1, 1, 1, 1, 1, 1, 1, 1, 1, 0, 0, 0, 0, 0]
    ([], (openWorld.begin (Call.script {} (.send (.text "late"))) false).begin
      (Call.script {} (.close .normal "")) false)

theorem run_late_text : openWorld.Run lateText.1 lateText.2 :=
  run_of_play _ (.call (.call .refl (.send (.text "late"))) (.close .normal ""))

theorem late_text_close :
    lateText.1.Writes 8 1 5 ((Frame.close (some 1000) "").serialize (some ⟨0, 0, 0, 0⟩)) := by
  refine ⟨⟨_, _, _, rfl, nofun, List.infix_refl _⟩, rfl, by decide, ?_⟩
  intro between happening after before found
  obtain rfl | rfl : between = 6 ∨ between = 7 := by omega
  · obtain rfl := Option.some.inj found
    rfl
  · obtain rfl := Option.some.inj found
    rfl

theorem late_text_write :
    lateText.1.Writes 15 0 12 ((Frame.text "late").serialize (some ⟨0, 0, 0, 0⟩)) := by
  refine ⟨⟨_, _, _, rfl, nofun, List.infix_refl _⟩, rfl, by decide, ?_⟩
  intro between happening after before found
  obtain rfl | rfl : between = 13 ∨ between = 14 := by omega
  · obtain rfl := Option.some.inj found
    rfl
  · obtain rfl := Option.some.inj found
    rfl

theorem frames_behind_close_of_late_text :
    openWorld.Fresh ∧ openWorld.Run lateText.1 lateText.2 ∧
      IsOrdinary ((Frame.text "late").serialize (some ⟨0, 0, 0, 0⟩)) ∧
      ∃ look move, lateText.1[look]? = some ⟨0, .readPhase, some .opened⟩ ∧
        lateText.1[move]? = some ⟨1, .movePhase .opened .closing, some true⟩ ∧
        look < move ∧ move < 5 ∧ lateText.1.IsQuiet 0 look 12 := by
  have fresh : openWorld.Fresh := ⟨rfl, rfl⟩
  refine ⟨fresh, run_late_text, ?_⟩
  exact ((frames_behind_close fresh run_late_text).2.2 8 1 5 _ 15 0 12 _ late_text_close
    ⟨some 1000, "", ⟨0, 0, 0, 0⟩, rfl⟩ late_text_write).2 (by decide)

/-- The text of a sender that looked in time follows the whole Close frame. -/
theorem not_silent_after_close :
    ∃ (start world : World) (history : History), start.Fresh ∧ start.Run history world ∧
      ¬history.IsSilentAfterClose ∧
      world.hub.stream.written =
        (Frame.close (some 1000) "").serialize (some ⟨0, 0, 0, 0⟩) ++
          (Frame.text "late").serialize (some ⟨0, 0, 0, 0⟩) := by
  refine ⟨openWorld, lateText.2, lateText.1, ⟨rfl, rfl⟩, run_late_text, fun silent => ?_, rfl⟩
  have same := silent 8 1 5 _ 15 0 12 _ late_text_close ⟨some 1000, "", ⟨0, 0, 0, 0⟩, rfl⟩
    late_text_write (by decide)
  exact absurd same (by decide)

end World

end WebSocket
