import WebSocket.Proofs.Connection.Conduct

/-!
One passage through the gate, from the place in line to the way out. What an
actor writes inside extends what it has written before, towards the content that
it put in line. It writes on only while every transfer was done, and leaves early
only if one was not. Whoever finds no writer leaves at once.
-/

namespace WebSocket

/-- How far a passage has come. It is barred when there is no writer, or when it
has itself taken the writer away. -/
inductive Stage where
  | waiting
  | inside
  | barred
  | gone
  deriving DecidableEq, Repr

/-- What was put in line, how much of it was written, and how the last transfer
ended. Nothing is put in line by those who come to take the writer. -/
structure Passage where
  content : Bytes
  written : Bytes := []
  stage : Stage := .waiting
  status : SendStatus := .success
  deriving DecidableEq, Repr

namespace Transfer

def carried (bytes : Bytes) : Transfer → Bytes
  | done count => bytes.take (max 1 count)
  | _ => []

theorem carried_prefix (bytes : Bytes) (result : Transfer) : result.carried bytes <+: bytes := by
  cases result with
  | done count => exact List.take_prefix _ _
  | failed failure => exact List.nil_prefix
  | timedOut => exact List.nil_prefix

theorem done_of_success {result : Transfer} (success : result.status = .success) :
    ∃ count, result = done count := by
  cases result with
  | done count => exact ⟨count, rfl⟩
  | failed failure => cases failure with
    | mk kind reason => cases kind <;> cases success
  | timedOut => cases success

end Transfer

namespace Passage

def after (passage : Passage) : (action : Action) → action.Reply → Passage
  | .enterGate, hasWriter =>
      if passage.stage = .waiting then
        if hasWriter then { passage with stage := .inside }
        else { passage with stage := .barred, status := .fatalError }
      else passage
  | .write bytes _, result =>
      if passage.stage = .inside then
        { passage with written := passage.written ++ result.carried bytes, status := result.status }
      else passage
  | .flush _, result =>
      if passage.stage = .inside then { passage with status := result.status } else passage
  | .sleep _ _, inTime =>
      if passage.stage = .inside then { passage with status := if inTime then .success else .error }
      else passage
  | .takeWriter, _ =>
      if passage.stage = .inside then { passage with stage := .barred } else passage
  | .leaveGate, _ =>
      if passage.stage = .inside ∨ passage.stage = .barred then { passage with stage := .gone }
      else passage
  | _, _ => passage

def permits (passage : Passage) : Action → Prop
  | .enterGate => passage.stage = .waiting
  | .write bytes _ =>
      passage.stage = .inside ∧ passage.status = .success ∧ bytes ≠ [] ∧
        passage.written ++ bytes <+: passage.content
  | .flush _ | .sleep _ _ => passage.stage = .inside ∧ passage.status = .success
  | .readClock => passage.stage = .inside
  | .takeWriter => passage.stage = .inside ∧ passage.content = []
  | .leaveGate =>
      passage.stage = .barred ∨ passage.stage = .inside ∧ passage.content ≠ [] ∧
        (passage.status = .success → passage.written = passage.content)
  | _ => False

def IsAway (stand : Option Passage) : Prop := ∀ passage ∈ stand, passage.stage = .gone

def isOutside : Action → Bool
  | .enterGate | .leaveGate | .takeWriter | .write .. | .flush _ => false
  | _ => true

/-- The conduct of all who pass the gate. Away from the gate there may be further
rules, which an actor has `also` to keep to. -/
def conduct (also : (actor : Nat) → Option Passage → Action → Prop) : Conduct (Option Passage) where
  start := none
  permits actor stand action :=
    IsAway stand ∧ isOutside action = true ∧ also actor stand action ∨
      ∃ passage, stand = some passage ∧ passage.permits action
  after stand
    | .queueForGate content, _ => some { content }
    | action, reply => stand.map fun passage => passage.after action reply

theorem after_of_gone {passage : Passage} (gone : passage.stage = .gone) (action : Action)
    (reply : action.Reply) : passage.after action reply = passage := by
  cases action <;> first | rfl | simp [after, gone]

variable {also : Nat → Option Passage → Action → Prop} {actor : Nat} {stand : Option Passage}

theorem is_away_none : IsAway none := nofun

theorem away_of_gone {passage : Passage} (gone : passage.stage = .gone) : IsAway (some passage) := by
  rintro _ ⟨⟩
  exact gone

theorem conduct_after_away (away : IsAway stand) {action : Action}
    (notQueue : ∀ content, action ≠ .queueForGate content) (reply : action.Reply) :
    (conduct also).after stand action reply = stand := by
  have same : stand.map (fun passage => passage.after action reply) = stand := by
    cases stand with
    | none => rfl
    | some passage => exact congrArg some (after_of_gone (away passage rfl) action reply)
  cases action with
  | queueForGate content => exact absurd rfl (notQueue content)
  | _ => exact same

section Script

open Script

variable {Result : Type} {content : Bytes}

/-- A transfer has left the actor inside, with the status of its result. If it was
done, then all of `target` is written. -/
def Carries (content target : Bytes) (result : Transfer) (stand : Option Passage) : Prop :=
  ∃ written, stand = some ⟨content, written, .inside, result.status⟩ ∧
    (result.status = .success → written = target)

theorem carries_mono {middle target : Bytes} {result : Transfer}
    (failed : result.status ≠ .success) (carries : Carries content middle result stand) :
    Carries content target result stand := by
  obtain ⟨written, same, -⟩ := carries
  exact ⟨written, same, fun success => absurd success failed⟩

theorem status_failed (failure : IoFailure) : (Transfer.failed failure).status ≠ .success := by
  intro success
  obtain ⟨count, same⟩ := Transfer.done_of_success success
  cases same

theorem status_timed_out : Transfer.timedOut.status ≠ .success := nofun

theorem follows_write_all (deadline : Nat) (bytes : Bytes) (taken : Nat) (written : Bytes)
    (part : written ++ bytes.drop taken <+: content) :
    (Gate.writeAll deadline bytes taken).Follows (conduct also) actor
      (Carries content (written ++ bytes.drop taken)) (some ⟨content, written, .inside, .success⟩) := by
  induction bytes generalizing taken written with
  | nil => exact ⟨written, rfl, fun _ => by rw [List.drop_nil, List.append_nil]⟩
  | cons byte rest induction =>
      cases taken with
      | succ taken => exact induction taken written part
      | zero =>
          refine ⟨.inr ⟨_, rfl, rfl, rfl, List.cons_ne_nil _ _, part⟩, fun result => ?_⟩
          cases result with
          | failed failure =>
              exact ⟨_, rfl, fun success => absurd success (status_failed failure)⟩
          | timedOut => exact ⟨_, rfl, fun success => absurd success status_timed_out⟩
          | done count =>
              -- what was taken and what is still to be written are the whole again
              have whole : (written ++ (byte :: rest).take (max 1 count)) ++ rest.drop (count - 1) =
                  written ++ (byte :: rest).drop 0 := by
                have taken : (byte :: rest).take (max 1 count) = byte :: rest.take (count - 1) := by
                  obtain ⟨less, same⟩ : ∃ less, max 1 count = less + 1 := ⟨max 1 count - 1, by omega⟩
                  have fewer : count - 1 = less := by omega
                  rw [same, fewer, List.take_succ_cons]
                rw [taken, List.append_assoc, List.cons_append, List.take_append_drop, List.drop_zero]
              rw [← whole]
              exact induction (count - 1) _ (whole ▸ part)

theorem follows_then_transfer {first second : Script Transfer} {middle target : Bytes}
    (before : first.Follows (conduct also) actor (Carries content middle) stand)
    (behind : second.Follows (conduct also) actor (Carries content target)
      (some ⟨content, middle, .inside, .success⟩)) :
    (Gate.thenTransfer first second).Follows (conduct also) actor (Carries content target) stand := by
  apply before.bind
  intro result after carries
  cases result with
  | failed failure => exact carries_mono (status_failed failure) carries
  | timedOut => exact carries_mono status_timed_out carries
  | done count =>
      obtain ⟨written, rfl, whole⟩ := carries
      cases whole rfl
      exact behind

theorem follows_flush (deadline : Nat) (written : Bytes) :
    (Gate.flush deadline).Follows (conduct also) actor (Carries content written)
      (some ⟨content, written, .inside, .success⟩) :=
  ⟨.inr ⟨_, rfl, rfl, rfl⟩, fun _ => ⟨written, rfl, fun _ => rfl⟩⟩

theorem follows_pause (delay deadline : Nat) (written : Bytes) :
    (Gate.pause delay deadline).Follows (conduct also) actor (Carries content written)
      (some ⟨content, written, .inside, .success⟩) := by
  refine ⟨.inr ⟨_, rfl, rfl⟩, fun now => ⟨.inr ⟨_, rfl, rfl, rfl⟩, fun inTime => ?_⟩⟩
  cases inTime with
  | true => exact ⟨written, rfl, fun _ => rfl⟩
  | false => exact ⟨written, rfl, nofun⟩

theorem follows_write_slowly (delay deadline : Nat) (bytes written : Bytes)
    (part : written ++ bytes <+: content) :
    (Gate.writeSlowly delay deadline bytes).Follows (conduct also) actor
      (Carries content (written ++ bytes)) (some ⟨content, written, .inside, .success⟩) := by
  induction bytes generalizing written with
  | nil => exact ⟨written, rfl, fun _ => by rw [List.append_nil]⟩
  | cons byte rest induction =>
      have rejoined : written ++ byte :: rest = (written ++ [byte]) ++ rest := by
        rw [List.append_assoc, List.singleton_append]
      rw [rejoined] at part ⊢
      have single : written ++ [byte].drop 0 <+: content := (List.prefix_append _ _).trans part
      exact follows_then_transfer (follows_write_all deadline [byte] 0 written single)
        (follows_then_transfer (follows_flush deadline _)
          (follows_then_transfer (follows_pause delay deadline _) (induction _ part)))

theorem follows_transfer_all (slowWrite : Option Nat) (deadline : Nat) :
    (Gate.transferAll slowWrite deadline content).Follows (conduct also) actor
      (Carries content content) (some ⟨content, [], .inside, .success⟩) := by
  refine follows_then_transfer ?_ (follows_flush deadline content)
  cases slowWrite with
  | none => exact follows_write_all deadline content 0 [] (List.prefix_refl _)
  | some delay => exact follows_write_slowly delay deadline content [] (List.prefix_refl _)

def IsSent (content : Bytes) (status : SendStatus) (stand : Option Passage) : Prop :=
  ∃ written, stand = some ⟨content, written, .gone, status⟩ ∧ (status = .success → written = content)

theorem follows_send (config : Config) (nonempty : content ≠ []) (away : IsAway stand)
    (mayQueue : also actor stand (.queueForGate content)) :
    (Gate.send config content).Follows (conduct also) actor (IsSent content) stand := by
  refine ⟨.inl ⟨away, rfl, mayQueue⟩, fun _ => ⟨.inr ⟨_, rfl, rfl⟩, fun hasWriter => ?_⟩⟩
  cases hasWriter with
  | false => exact ⟨.inr ⟨_, rfl, .inl rfl⟩, fun _ => ⟨[], rfl, nofun⟩⟩
  | true =>
      refine ⟨.inr ⟨_, rfl, rfl⟩, fun entered => ?_⟩
      apply (follows_transfer_all config.slowWrite (entered + config.timeouts.write)).bind
      rintro result _ ⟨written, rfl, whole⟩
      exact ⟨.inr ⟨_, rfl, .inr ⟨rfl, nonempty, whole⟩⟩, fun _ => ⟨written, rfl, whole⟩⟩

theorem follows_shutdown (config : Config) (away : IsAway stand)
    (mayQueue : also actor stand (.queueForGate []))
    (mayShutDown : ∀ status action, action = .readClock ∨ (∃ deadline, action = .shutdown deadline) →
      also actor (some ⟨[], [], .gone, status⟩) action) :
    (Gate.shutdown config).Follows (conduct also) actor
      (fun _ after => ∃ status, after = some ⟨[], [], .gone, status⟩) stand := by
  refine ⟨.inl ⟨away, rfl, mayQueue⟩, fun _ => ⟨.inr ⟨_, rfl, rfl⟩, fun hasWriter => ?_⟩⟩
  cases hasWriter with
  | false => exact ⟨.inr ⟨_, rfl, .inl rfl⟩, fun _ => ⟨_, rfl⟩⟩
  | true =>
      have gone : IsAway (some ⟨[], [], .gone, .success⟩) := away_of_gone rfl
      refine ⟨.inr ⟨_, rfl, rfl, rfl⟩, fun _ => ⟨.inr ⟨_, rfl, .inl rfl⟩, fun _ => ?_⟩⟩
      refine ⟨.inl ⟨gone, rfl, mayShutDown _ _ (.inl rfl)⟩, fun start => ?_⟩
      exact ⟨.inl ⟨gone, rfl, mayShutDown _ _ (.inr ⟨_, rfl⟩)⟩, fun _ => ⟨_, rfl⟩⟩

end Script

structure IsSound (passage : Passage) : Prop where
  part : passage.written <+: passage.content
  fresh : passage.stage = .waiting → passage.written = [] ∧ passage.status = .success
  barred : passage.stage = .barred → passage.written = [] ∧
    (passage.status = .success → passage.content = [])
  whole : passage.stage = .gone → passage.status = .success → passage.written = passage.content

theorem is_sound_of_content (content : Bytes) : IsSound { content } where
  part := List.nil_prefix
  fresh _ := ⟨rfl, rfl⟩
  barred := nofun
  whole := nofun

theorem is_sound_after {passage : Passage} (sound : passage.IsSound) {action : Action}
    (permitted : passage.permits action) (reply : action.Reply) :
    (passage.after action reply).IsSound := by
  cases action with
  | enterGate =>
      obtain ⟨written, status⟩ := sound.fresh permitted
      have waiting : passage.stage = .waiting := permitted
      cases reply with
      | true =>
          simp only [after, waiting, if_true]
          exact ⟨sound.part, nofun, nofun, nofun⟩
      | false =>
          simp only [after, waiting, if_true]
          exact ⟨sound.part, nofun, fun _ => ⟨written, nofun⟩, nofun⟩
  | write bytes deadline =>
      obtain ⟨inside, -, -, part⟩ := permitted
      simp only [after, inside, if_true]
      refine ⟨?_, nofun, nofun, nofun⟩
      exact ((List.prefix_append_right_inj _).mpr (Transfer.carried_prefix bytes reply)).trans part
  | flush deadline =>
      simp only [after, permitted.1, if_true]
      exact ⟨sound.part, nofun, nofun, nofun⟩
  | sleep till deadline =>
      simp only [after, permitted.1, if_true]
      exact ⟨sound.part, nofun, nofun, nofun⟩
  | takeWriter =>
      obtain ⟨inside, empty⟩ := permitted
      simp only [after, inside, if_true]
      have nothing : passage.written = [] := List.prefix_nil.mp (empty ▸ sound.part)
      exact ⟨sound.part, nofun, fun _ => ⟨nothing, fun _ => empty⟩, nofun⟩
  | leaveGate =>
      rcases permitted with barred | ⟨inside, -, whole⟩
      · obtain ⟨nothing, empty⟩ := sound.barred barred
        simp only [after, barred, or_true, if_true]
        exact ⟨sound.part, nofun, nofun, fun _ success => nothing.trans (empty success).symm⟩
      · simp only [after, inside, true_or, if_true]
        exact ⟨sound.part, nofun, nofun, fun _ => whole⟩
  | _ => exact sound

end Passage

end WebSocket
