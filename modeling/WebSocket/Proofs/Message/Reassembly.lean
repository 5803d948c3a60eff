import WebSocket.Message
import Mathlib.Data.List.Induction

/-!
Messages in a row, each of them cut into fragments, with control frames anywhere between
the fragments. An assembler gives every message back with its last fragment and is then
as it was at first; and what it takes without an error is always a row of such messages,
behind which one may have been begun.
-/

namespace WebSocket

def Frame.isData (frame : Frame) : Bool := frame.opcode.isData

theorem Frame.is_data_of_control {frame : Frame} (isControl : frame.opcode.isControl = true) :
    frame.isData = false := by
  rw [isData, Opcode.isData, isControl]
  rfl

theorem Frame.is_data_of_other {frame : Frame} (other : frame.opcode.isControl = false) :
    frame.isData = true := by
  rw [isData, Opcode.isData, other]
  rfl

/-- Fragments of one message in their order: a Text or Binary frame, and continuations
behind it. -/
inductive Fragments where
  | opening (frame : Frame) (opens : frame.opcode = .text ∨ frame.opcode = .binary)
  | continued (before : Fragments) (frame : Frame) (continues : frame.opcode = .continuation)

namespace Fragments

def frames : Fragments → List Frame
  | opening frame _ => [frame]
  | continued before frame _ => before.frames ++ [frame]

def opcode : Fragments → Opcode
  | opening frame _ => frame.opcode
  | continued before _ _ => before.opcode

def content (fragments : Fragments) : Bytes := fragments.frames.flatMap Frame.payload

/-- There are not too many fragments, and they are not too large together. -/
structure Fits (limits : Limits) (fragments : Fragments) : Prop where
  few : fragments.frames.length ≤ limits.fragmentCount
  small : fragments.content.length ≤ limits.messageSize

def IsUnfinished (fragments : Fragments) : Prop := ∀ frame ∈ fragments.frames, frame.fin = false

def IsWhole : Fragments → Prop
  | opening frame _ => frame.fin = true
  | continued before frame _ => before.IsUnfinished ∧ frame.fin = true

def IsSound (fragments : Fragments) : Prop :=
  fragments.opcode = .text → Utf8.isValid fragments.content = true

instance (limits : Limits) (fragments : Fragments) : Decidable (fragments.Fits limits) :=
  decidable_of_iff (_ ∧ _) ⟨fun both => ⟨both.1, both.2⟩, fun fits => ⟨fits.few, fits.small⟩⟩

instance (fragments : Fragments) : Decidable fragments.IsUnfinished :=
  inferInstanceAs (Decidable (∀ frame ∈ fragments.frames, frame.fin = false))

instance (fragments : Fragments) : Decidable fragments.IsWhole :=
  match fragments with
  | opening frame _ => inferInstanceAs (Decidable (frame.fin = true))
  | continued before frame _ => inferInstanceAs (Decidable (before.IsUnfinished ∧ frame.fin = true))

instance (fragments : Fragments) : Decidable fragments.IsSound :=
  inferInstanceAs (Decidable (fragments.opcode = .text → Utf8.isValid fragments.content = true))

def verdict (fragments : Fragments) : Except Error (Option Message) :=
  if fragments.IsSound then .ok (some ⟨fragments.opcode, fragments.content⟩) else .error .invalidUtf8

/-- What is answered to the fragments of a whole message. -/
def answers (fragments : Fragments) : List (Except Error (Option Message)) :=
  List.replicate (fragments.frames.length - 1) (.ok none) ++ [fragments.verdict]

def earlier : Fragments → Option Fragments
  | opening _ _ => none
  | continued before _ _ => some before

def last : Fragments → Frame
  | opening frame _ | continued _ frame _ => frame

variable {limits : Limits} {fragments before : Fragments} {frame : Frame}

theorem frames_eq (fragments : Fragments) :
    fragments.frames = fragments.earlier.toList.flatMap frames ++ [fragments.last] := by
  cases fragments with
  | opening frame opens => rfl
  | continued before frame continues => simp [frames, earlier, last]

theorem Fits.shorter {continues : frame.opcode = .continuation}
    (fits : (continued before frame continues).Fits limits) : before.Fits limits := by
  obtain ⟨few, small⟩ := fits
  simp only [frames, content, List.length_append, List.flatMap_append] at few small
  exact ⟨Nat.le_of_add_right_le few, Nat.le_of_add_right_le small⟩

theorem IsUnfinished.shorter {continues : frame.opcode = .continuation}
    (unfinished : (continued before frame continues).IsUnfinished) :
    before.IsUnfinished ∧ frame.fin = false :=
  ⟨fun other member => unfinished other (List.mem_append_left _ member),
    unfinished frame (List.mem_append_right _ (List.mem_singleton_self _))⟩

theorem answers_of_sound (fragments : Fragments) (sound : fragments.IsSound) :
    ∀ answer ∈ fragments.answers, answer.isOk = true := by
  intro answer member
  rcases List.mem_append.mp member with early | final
  · rw [List.eq_of_mem_replicate early]
    rfl
  · rw [List.mem_singleton.mp final, verdict, if_pos sound]
    rfl

theorem unfinished_of_last (begun : ∀ message ∈ fragments.earlier, message.IsUnfinished)
    (fin : fragments.last.fin = false) : fragments.IsUnfinished := by
  intro frame member
  rw [frames_eq] at member
  rcases List.mem_append.mp member with early | final
  · obtain ⟨message, found, inside⟩ := List.mem_flatMap.mp early
    exact begun message (Option.mem_toList.mp found) frame inside
  · rwa [List.mem_singleton.mp final]

theorem whole_of_last (begun : ∀ message ∈ fragments.earlier, message.IsUnfinished)
    (fin : fragments.last.fin = true) : fragments.IsWhole := by
  cases fragments with
  | opening frame opens => exact fin
  | continued before frame continues => exact ⟨begun before rfl, fin⟩

end Fragments

namespace Assembler

/-- What is answered to some frames that are pushed in turn. A frame that is refused
does not stop the next one. -/
def answers (assembler : Assembler) : List Frame → List (Except Error (Option Message))
  | [] => []
  | frame :: rest => (assembler.push frame).1 :: (assembler.push frame).2.answers rest

/-- The assembler behind these frames. -/
def after (assembler : Assembler) (frames : List Frame) : Assembler :=
  frames.foldl (fun current frame => (current.push frame).2) assembler

/-- The assembler that holds the fragments of an unfinished message. -/
def behind (limits : Limits) : Option Fragments → Assembler
  | none => { limits }
  | some fragments => ⟨limits, some fragments.opcode, fragments.content, fragments.frames.length⟩

variable {limits : Limits}

theorem after_append (assembler : Assembler) (frames more : List Frame) :
    assembler.after (frames ++ more) = (assembler.after frames).after more :=
  List.foldl_append

theorem answers_append (assembler : Assembler) (frames more : List Frame) :
    assembler.answers (frames ++ more) =
      assembler.answers frames ++ (assembler.after frames).answers more := by
  induction frames generalizing assembler with
  | nil => rfl
  | cons frame rest induction => exact congrArg (_ :: ·) (induction _)

theorem push_one {assembler next : Assembler} {frame : Frame}
    {answer : Except Error (Option Message)} (pushed : assembler.push frame = (answer, next)) :
    assembler.answers [frame] = [answer] ∧ assembler.after [frame] = next := by
  rw [answers, answers, after, List.foldl_cons, List.foldl_nil, pushed]
  exact ⟨rfl, rfl⟩

theorem push_control (assembler : Assembler) {frame : Frame}
    (isControl : frame.opcode.isControl = true) : assembler.push frame = (.ok none, assembler) := by
  rw [push, if_pos isControl]

def awaiting (limits : Limits) (fragments : Fragments) : Assembler :=
  { behind limits fragments.earlier with opcode := some fragments.opcode }

theorem push_last_eq_extend (fragments : Fragments) :
    (behind limits fragments.earlier).push fragments.last =
      (awaiting limits fragments).extend fragments.last := by
  cases fragments with
  | opening frame opens =>
      rcases opens with opcode | opcode <;>
        simp [push, awaiting, behind, Fragments.earlier, Fragments.last, Fragments.opcode, opcode,
          Opcode.isControl]
  | continued before frame continues =>
      simp [push, awaiting, behind, Fragments.earlier, Fragments.last, Fragments.opcode, continues,
        Opcode.isControl]

theorem awaiting_count (fragments : Fragments) :
    (awaiting limits fragments).fragmentCount + 1 = fragments.frames.length := by
  cases fragments <;> simp [awaiting, behind, Fragments.earlier, Fragments.frames]

theorem awaiting_content (fragments : Fragments) :
    (awaiting limits fragments).buffer ++ fragments.last.payload = fragments.content := by
  cases fragments <;>
    simp [awaiting, behind, Fragments.earlier, Fragments.frames, Fragments.content, Fragments.last]

/-- What becomes of a fragment: it is refused because of the number or the size of the
fragments up to it, or it is taken. A final one brings its message to the verdict. -/
theorem push_last (fragments : Fragments) :
    (behind limits fragments.earlier).push fragments.last =
      if limits.fragmentCount < fragments.frames.length then
        (.error (.tooManyFragments fragments.frames.length limits.fragmentCount),
          awaiting limits fragments)
      else if limits.messageSize < fragments.content.length then
        (.error (.messageTooLarge fragments.content.length limits.messageSize),
          awaiting limits fragments)
      else if fragments.last.fin then (fragments.verdict, { limits })
      else (.ok none, behind limits (some fragments)) := by
  have sized : (awaiting limits fragments).buffer.length + fragments.last.payload.length =
      fragments.content.length := by
    rw [← awaiting_content, List.length_append]
  rw [push_last_eq_extend, extend, awaiting_count, awaiting_content, sized]
  have own : (awaiting limits fragments).limits = limits := by
    cases fragments <;> rfl
  have kind : (awaiting limits fragments).opcode = some fragments.opcode := rfl
  rw [own, kind, Limits.checkFragmentCount, Limits.checkMessageSize]
  by_cases many : limits.fragmentCount < fragments.frames.length
  · rw [if_pos many, if_pos many]
  rw [if_neg many, if_neg many]
  by_cases large : limits.messageSize < fragments.content.length
  · rw [if_pos large, if_pos large]
  rw [if_neg large, if_neg large]
  cases fin : fragments.last.fin with
  | false => simp [behind]
  | true =>
      have broken : (fragments.opcode = .text ∧ ¬Utf8.isValid fragments.content) ↔
          ¬fragments.IsSound := Classical.not_imp.symm
      simp only [Bool.not_true, Bool.false_eq_true, if_false, if_true, broken, Fragments.verdict]
      by_cases sound : fragments.IsSound
      · rw [if_neg (not_not_intro sound), if_pos sound]
      · rw [if_pos sound, if_neg sound]

section

variable {fragments : Fragments}

theorem push_last_of_fits (fits : fragments.Fits limits) :
    (behind limits fragments.earlier).push fragments.last =
      if fragments.last.fin then (fragments.verdict, { limits })
      else (.ok none, behind limits (some fragments)) := by
  rw [push_last, if_neg (Nat.not_lt.mpr fits.few), if_neg (Nat.not_lt.mpr fits.small)]

theorem fits_of_push_last
    (taken : ((behind limits fragments.earlier).push fragments.last).1.isOk = true) :
    fragments.Fits limits := by
  rw [push_last] at taken
  by_cases many : limits.fragmentCount < fragments.frames.length
  · rw [if_pos many] at taken
    cases taken
  rw [if_neg many] at taken
  by_cases large : limits.messageSize < fragments.content.length
  · rw [if_pos large] at taken
    cases taken
  exact ⟨Nat.not_lt.mp many, Nat.not_lt.mp large⟩

theorem sound_of_push_last (fin : fragments.last.fin = true)
    (taken : ((behind limits fragments.earlier).push fragments.last).1.isOk = true) :
    fragments.IsSound := by
  rw [push_last_of_fits (fits_of_push_last taken), if_pos fin, Fragments.verdict] at taken
  by_contra unsound
  rw [if_neg unsound] at taken
  cases taken

theorem answers_unfinished (fits : fragments.Fits limits) (unfinished : fragments.IsUnfinished) :
    answers { limits } fragments.frames = List.replicate fragments.frames.length (.ok none) ∧
      after { limits } fragments.frames = behind limits (some fragments) := by
  induction fragments with
  | opening frame opens =>
      have fin : frame.fin = false := unfinished frame (List.mem_singleton_self _)
      have pushed := push_last_of_fits fits
      simp only [Fragments.last, fin, Bool.false_eq_true, if_false] at pushed
      exact push_one pushed
  | continued before frame continues induction =>
      obtain ⟨begun, fin⟩ := unfinished.shorter
      obtain ⟨answered, held⟩ := induction fits.shorter begun
      have pushed := push_last_of_fits fits
      simp only [Fragments.earlier, Fragments.last, fin, Bool.false_eq_true, if_false] at pushed
      obtain ⟨answeredLast, holds⟩ := push_one pushed
      rw [Fragments.frames, answers_append, after_append, answered, held, answeredLast, holds,
        List.length_append, ← List.replicate_append_replicate]
      exact ⟨rfl, rfl⟩

theorem answers_whole (fits : fragments.Fits limits) (whole : fragments.IsWhole) :
    answers { limits } fragments.frames = fragments.answers ∧
      after { limits } fragments.frames = { limits } := by
  have pushed := push_last_of_fits fits
  cases fragments with
  | opening frame opens =>
      have fin : frame.fin = true := whole
      simp only [Fragments.last, fin, if_true] at pushed
      exact push_one pushed
  | continued before frame continues =>
      obtain ⟨begun, fin⟩ := whole
      obtain ⟨answered, held⟩ := answers_unfinished fits.shorter begun
      simp only [Fragments.earlier, Fragments.last, fin, if_true] at pushed
      have count : (Fragments.continued before frame continues).frames.length - 1 =
          before.frames.length := by
        simp [Fragments.frames]
      obtain ⟨answeredLast, clear⟩ := push_one pushed
      rw [Fragments.answers, count, Fragments.frames, answers_append, after_append, answered, held,
        answeredLast, clear]
      exact ⟨rfl, rfl⟩

end

theorem answers_messages (messages : List Fragments)
    (whole : ∀ message ∈ messages, message.IsWhole ∧ message.Fits limits) :
    answers { limits } (messages.flatMap Fragments.frames) = messages.flatMap Fragments.answers ∧
      after { limits } (messages.flatMap Fragments.frames) = { limits } := by
  induction messages with
  | nil => exact ⟨rfl, rfl⟩
  | cons message rest induction =>
      obtain ⟨isWhole, fits⟩ := whole message List.mem_cons_self
      obtain ⟨answered, clear⟩ := answers_whole fits isWhole
      obtain ⟨answeredRest, clearRest⟩ :=
        induction fun other member => whole other (List.mem_cons_of_mem _ member)
      rw [List.flatMap_cons, List.flatMap_cons, answers_append, after_append, answered, clear,
        answeredRest, clearRest]
      exact ⟨rfl, rfl⟩

end Assembler

/-- Data frames that are whole messages in a row, and behind them perhaps the beginning of
another one. -/
structure CutsInto (limits : Limits) (data : List Frame) (messages : List Fragments)
    (unfinished : Option Fragments) : Prop where
  frames : data = messages.flatMap Fragments.frames ++ unfinished.toList.flatMap Fragments.frames
  whole : ∀ message ∈ messages, message.IsWhole ∧ message.Fits limits
  begun : ∀ message ∈ unfinished, message.IsUnfinished ∧ message.Fits limits

namespace CutsInto

variable {limits : Limits} {data : List Frame} {messages : List Fragments} {fragments : Fragments}

theorem frames_append (cut : CutsInto limits data messages fragments.earlier) :
    data ++ [fragments.last] = messages.flatMap Fragments.frames ++ fragments.frames := by
  rw [cut.frames, List.append_assoc, ← Fragments.frames_eq]

theorem extended (cut : CutsInto limits data messages fragments.earlier)
    (fits : fragments.Fits limits) (fin : fragments.last.fin = false) :
    CutsInto limits (data ++ [fragments.last]) messages (some fragments) where
  frames := by
    rw [cut.frames_append, Option.toList_some, List.flatMap_singleton]
  whole := cut.whole
  begun := by
    rintro _ ⟨⟩
    exact ⟨Fragments.unfinished_of_last (fun before found => (cut.begun before found).1) fin, fits⟩

theorem completed (cut : CutsInto limits data messages fragments.earlier)
    (fits : fragments.Fits limits) (fin : fragments.last.fin = true) :
    CutsInto limits (data ++ [fragments.last]) (messages ++ [fragments]) none where
  frames := by
    rw [cut.frames_append, List.flatMap_append, List.flatMap_singleton]
    exact (List.append_nil _).symm
  whole := by
    intro message member
    rcases List.mem_append.mp member with early | final
    · exact cut.whole message early
    · obtain rfl := List.mem_singleton.mp final
      exact ⟨Fragments.whole_of_last (fun before found => (cut.begun before found).1) fin, fits⟩
  begun := nofun

end CutsInto

namespace Assembler

variable {limits : Limits} {data : List Frame} {messages : List Fragments}
variable {unfinished : Option Fragments}

theorem answers_of_cut (cut : CutsInto limits data messages unfinished) :
    answers { limits } data = messages.flatMap Fragments.answers ++
        List.replicate (unfinished.toList.flatMap Fragments.frames).length (.ok none) ∧
      after { limits } data = behind limits unfinished := by
  obtain ⟨rfl, whole, begun⟩ := cut
  obtain ⟨answered, clear⟩ := answers_messages messages whole
  rw [answers_append, after_append, answered, clear]
  cases unfinished with
  | none => exact ⟨rfl, rfl⟩
  | some fragments =>
      obtain ⟨isUnfinished, fits⟩ := begun fragments rfl
      obtain ⟨answeredOpen, held⟩ := answers_unfinished fits isUnfinished
      simp only [Option.toList_some, List.flatMap_singleton]
      exact ⟨congrArg (messages.flatMap Fragments.answers ++ ·) answeredOpen, held⟩

theorem next_fragment {frame : Frame} (isData : frame.isData = true)
    (taken : ((behind limits unfinished).push frame).1.isOk = true) :
    ∃ fragments : Fragments, fragments.earlier = unfinished ∧ fragments.last = frame := by
  cases opcode : frame.opcode with
  | continuation =>
      cases unfinished with
      | none =>
          rw [push, opcode] at taken
          cases taken
      | some before => exact ⟨.continued before frame opcode, rfl, rfl⟩
  | text =>
      cases unfinished with
      | none => exact ⟨.opening frame (.inl opcode), rfl, rfl⟩
      | some before =>
          rw [push, opcode] at taken
          cases taken
  | binary =>
      cases unfinished with
      | none => exact ⟨.opening frame (.inr opcode), rfl, rfl⟩
      | some before =>
          rw [push, opcode] at taken
          cases taken
  | _ =>
      rw [Frame.isData, opcode] at isData
      cases isData

/-- Data frames that are all taken are messages in a row. -/
theorem cut_of_taken (data : List Frame) (isData : ∀ frame ∈ data, frame.opcode.isData = true)
    (taken : ∀ answer ∈ answers { limits } data, answer.isOk = true) :
    ∃ messages unfinished, CutsInto limits data messages unfinished ∧
      ∀ message ∈ messages, message.IsSound := by
  -- from the last frame on, so that the frames before it have been cut already
  induction data using List.reverseRecOn with
  | nil => exact ⟨[], none, ⟨rfl, List.forall_mem_nil _, nofun⟩, List.forall_mem_nil _⟩
  | append_singleton data frame induction =>
      rw [answers_append] at taken
      obtain ⟨messages, unfinished, cut, sound⟩ :=
        induction (fun other member => isData other (List.mem_append_left _ member))
          fun answer member => taken answer (List.mem_append_left _ member)
      have answer := taken _ (List.mem_append_right _ (List.mem_singleton_self _))
      rw [(answers_of_cut cut).2] at answer
      obtain ⟨fragments, rfl, rfl⟩ :=
        next_fragment (isData frame (List.mem_append_right _ (List.mem_singleton_self _))) answer
      have fits := fits_of_push_last answer
      cases fin : fragments.last.fin with
      | false => exact ⟨messages, some fragments, cut.extended fits fin, sound⟩
      | true =>
          refine ⟨messages ++ [fragments], none, cut.completed fits fin, fun message member => ?_⟩
          rcases List.mem_append.mp member with early | final
          · exact sound message early
          · obtain rfl := List.mem_singleton.mp final
            exact sound_of_push_last fin answer

theorem answers_without_control (assembler : Assembler) (frames : List Frame) :
    let data := frames.filter Frame.isData
    ((frames.zip (assembler.answers frames)).filter fun entry => entry.1.isData).map Prod.snd =
        assembler.answers data ∧
      assembler.after frames = assembler.after data := by
  induction frames generalizing assembler with
  | nil => exact ⟨rfl, rfl⟩
  | cons frame rest induction =>
      obtain ⟨answered, same⟩ := induction (assembler.push frame).2
      rw [answers, List.zip_cons_cons, after, List.foldl_cons, ← after, same]
      cases isControl : frame.opcode.isControl with
      | true =>
          have passed := push_control assembler isControl
          simp only [List.filter_cons, Frame.is_data_of_control isControl, Bool.false_eq_true, if_false]
          rw [passed] at answered ⊢
          exact ⟨answered, rfl⟩
      | false =>
          simp only [List.filter_cons, Frame.is_data_of_other isControl, if_true, List.map_cons]
          exact ⟨congrArg (_ :: ·) answered, rfl⟩

theorem answer_of_control (assembler : Assembler) {frames : List Frame} {frame : Frame}
    {answer : Except Error (Option Message)} (member : (frame, answer) ∈ frames.zip (assembler.answers frames))
    (isControl : frame.opcode.isControl = true) : answer = .ok none := by
  induction frames generalizing assembler with
  | nil => cases member
  | cons first rest induction =>
      rw [answers, List.zip_cons_cons] at member
      rcases List.mem_cons.mp member with here | later
      · obtain ⟨rfl, rfl⟩ := Prod.mk.inj here
        rw [push_control assembler isControl]
      · exact induction _ later

theorem all_taken_iff (assembler : Assembler) (frames : List Frame) :
    (∀ answer ∈ assembler.answers frames, answer.isOk = true) ↔
      ∀ answer ∈ assembler.answers (frames.filter Frame.isData),
        answer.isOk = true := by
  induction frames generalizing assembler with
  | nil => exact Iff.rfl
  | cons frame rest induction =>
      rw [answers, List.forall_mem_cons, induction]
      cases isControl : frame.opcode.isControl with
      | true =>
          rw [List.filter_cons_of_neg (by simp [Frame.is_data_of_control isControl]),
            push_control assembler isControl]
          exact and_iff_right rfl
      | false =>
          rw [List.filter_cons_of_pos (Frame.is_data_of_other isControl), answers,
            List.forall_mem_cons]

/-- Nothing is kept between messages: either one is in progress, or the assembler is as it was
at first. -/
def IsTidy (limits : Limits) (assembler : Assembler) : Prop :=
  assembler = { limits } ∨ assembler.limits = limits ∧ assembler.opcode ≠ none

theorem tidy_extend {assembler : Assembler} (own : assembler.limits = limits)
    (begun : assembler.opcode ≠ none) (frame : Frame) : IsTidy limits (assembler.extend frame).2 := by
  obtain ⟨opcode, known⟩ := Option.ne_none_iff_exists'.mp begun
  unfold extend
  rw [known]
  split
  · exact .inr ⟨own, begun⟩
  split
  · exact .inr ⟨own, begun⟩
  dsimp only
  split
  · exact .inr ⟨own, Option.some_ne_none opcode⟩
  split <;> exact .inl (congrArg (fun limits => ({ limits } : Assembler)) own)

theorem tidy_push {assembler : Assembler} (tidy : IsTidy limits assembler) (frame : Frame) :
    IsTidy limits (assembler.push frame).2 := by
  have own : assembler.limits = limits := by
    rcases tidy with rfl | ⟨own, -⟩
    · rfl
    · exact own
  unfold push
  split
  · exact tidy
  · split
    · exact tidy
    · rename_i known
      exact tidy_extend own (by simp [known]) frame
    · exact tidy
    · refine tidy_extend ?_ ?_ frame
      · exact own
      · exact Option.some_ne_none _

theorem tidy_after (earlier : List Frame) : IsTidy limits (after { limits } earlier) := by
  induction earlier using List.reverseRecOn with
  | nil => exact .inl rfl
  | append_singleton earlier frame induction =>
      rw [after_append]
      exact tidy_push induction frame

theorem clear_of_idle (earlier : List Frame) (idle : (after { limits } earlier).opcode = none) :
    after { limits } earlier = { limits } := by
  rcases tidy_after earlier with clear | ⟨-, begun⟩
  · exact clear
  · exact absurd idle begun

/-- Whenever no message is in progress, an assembler gives the next messages back one by one,
whatever their fragments are: the final fragment of each is answered with the whole message,
or with an error if it is a text and not UTF-8, and all else with nothing. Behind each
message the assembler is as it was at first. What it takes without an error is always such
a row of messages, and perhaps the beginning of one more. -/
theorem reassembly (limits : Limits) (earlier frames : List Frame)
    (idle : (after { limits } earlier).opcode = none) :
    let assembler := after { limits } earlier
    let answered := frames.zip (assembler.answers frames)
    let data := frames.filter Frame.isData
    (∀ frame answer, (frame, answer) ∈ answered → frame.opcode.isControl = true → answer = .ok none) ∧
      (∀ messages unfinished, CutsInto limits data messages unfinished →
        (answered.filter fun entry => entry.1.isData).map Prod.snd =
            messages.flatMap Fragments.answers ++
              List.replicate (unfinished.toList.flatMap Fragments.frames).length (.ok none) ∧
          ∀ front count, front <+: frames →
            front.filter Frame.isData = (messages.take count).flatMap Fragments.frames →
            assembler.after front = { limits }) ∧
      ((∀ answer ∈ assembler.answers frames, answer.isOk = true) ↔
        ∃ messages unfinished, CutsInto limits data messages unfinished ∧
          ∀ message ∈ messages, message.IsSound) := by
  intro assembler answered data
  have clear : assembler = { limits } := clear_of_idle earlier idle
  obtain ⟨dataAnswers, -⟩ := answers_without_control assembler frames
  refine ⟨fun frame answer member => answer_of_control assembler member, ?_, ?_⟩
  · intro messages unfinished cut
    refine ⟨?_, fun front count _ shape => ?_⟩
    · rw [dataAnswers, clear]
      exact (answers_of_cut cut).1
    · have wholeToo : ∀ message ∈ messages.take count, message.IsWhole ∧ message.Fits limits :=
        fun message member => cut.whole message (List.mem_of_mem_take member)
      rw [(answers_without_control assembler front).2, shape, clear]
      exact (answers_messages _ wholeToo).2
  · rw [all_taken_iff, clear]
    constructor
    · exact cut_of_taken data fun frame member => (List.mem_filter.mp member).2
    · rintro ⟨messages, unfinished, cut, sound⟩ answer member
      rw [(answers_of_cut cut).1] at member
      rcases List.mem_append.mp member with whole | begun
      · obtain ⟨message, among, inside⟩ := List.mem_flatMap.mp whole
        exact message.answers_of_sound (sound message among) answer inside
      · rw [List.eq_of_mem_replicate begun]
        rfl

/-- A text with a character that is cut into three fragments, a Ping between them; then a
binary message, a text that is not UTF-8, and the beginning of another text. -/
theorem reassembly_of_cut_character :
    let frames : List Frame := [.of false .text [0xE2], .ping [7], .of false .continuation [0x82],
      .of true .continuation [0xAC], .of true .binary [0xFF], .of true .text [0xFF],
      .of false .text [0x61]]
    let assembler := after { limits := {} } [.text "a"]
    assembler.opcode = none ∧
      ((frames.zip (assembler.answers frames)).filter fun entry => entry.1.isData).map Prod.snd =
        [.ok none, .ok none, .ok (some ⟨.text, [0xE2, 0x82, 0xAC]⟩), .ok (some ⟨.binary, [0xFF]⟩),
          .error .invalidUtf8, .ok none] ∧
      assembler.after (frames.take 6) = { limits := {} } := by
  intro frames assembler
  let euro : Fragments :=
    .continued (.continued (.opening (.of false .text [0xE2]) (.inl rfl))
      (.of false .continuation [0x82]) rfl) (.of true .continuation [0xAC]) rfl
  let single : Fragments := .opening (.of true .binary [0xFF]) (.inr rfl)
  let broken : Fragments := .opening (.of true .text [0xFF]) (.inl rfl)
  let begun : Fragments := .opening (.of false .text [0x61]) (.inl rfl)
  have idle : assembler.opcode = none := by decide +kernel
  have cut : CutsInto {} (frames.filter Frame.isData) [euro, single, broken] (some begun) := by
    refine ⟨rfl, by decide, ?_⟩
    rintro message ⟨⟩
    decide
  obtain ⟨-, answers, -⟩ := reassembly {} [.text "a"] frames idle
  obtain ⟨given, clear⟩ := answers _ _ cut
  refine ⟨idle, given.trans (by decide +kernel), clear _ 3 (List.take_prefix 6 frames) rfl⟩

end Assembler

end WebSocket
