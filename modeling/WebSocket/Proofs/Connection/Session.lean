import WebSocket.Proofs.Connection.Conduct

/-!
The runs of a connection from the end of its handshake on. The opening itself is
an actor like any other, so that calls and cancellations may come before it.
-/

namespace WebSocket

/-- What happens to a connection from outside: time passes, the token is
cancelled, or the stream brings more. -/
inductive Hub.Drift (hub : Hub) : Hub → Prop where
  | tick : Drift hub { hub with now := hub.now + 1 }
  | cancel : Drift hub { hub with isCancelled := true }
  | feed (cue : Cue) :
      Drift hub
        { hub with
          stream := { hub.stream with
            reading := { hub.stream.reading with cues := hub.stream.reading.cues ++ [cue] } } }

theorem Hub.Drift.now_le {hub next : Hub} (drifts : hub.Drift next) : hub.now ≤ next.now := by
  cases drifts with
  | tick => exact Nat.le_succ _
  | cancel => exact Nat.le_refl _
  | feed cue => exact Nat.le_refl _

theorem Action.now_of_effect {setup : Setup} {actor : Nat} {action : Action} {hub : Hub}
    {effect : Effect action.Reply} (member : effect ∈ action.effects setup actor hub) :
    effect.hub.now = hub.now := by
  cases action with
  | tell observer event =>
      obtain rfl := List.mem_singleton.mp member
      unfold Hub.tell
      split
      · rfl
      · dsimp only
        split <;> rfl
  | write | flush | shutdown =>
      simp only [effects, Hub.transfer, Hub.answer] at member
      grind
  | read =>
      simp only [effects, Hub.receive, Hub.answer] at member
      grind
  | _ =>
      simp only [effects, Hub.answer, Hub.updateScheduler, Hub.log] at member
      grind

namespace World

open Connection

/-- Who may begin on a connection at any time. -/
inductive Joins (setup : Setup) : Script (Option Task) → Prop where
  | opening (isOpen : Bool) (leftover : Bytes) :
      Joins setup ((proceed setup isOpen leftover).bind fun _ => .done none)
  | call (call : Call) (id : Nat) :
      Joins setup ((call.script setup).bind fun result => .act (.report id result) fun _ => .done none)
  | task (task : Task) : Joins setup (task.script setup)
  | errand (errand : Errand) : Joins setup ((errand.script setup).bind fun _ => .done none)

/-- Anybody may begin at any time, while the clock goes on, the peer sends and somebody may cancel. -/
def session : Setting := ⟨Joins, Hub.Drift⟩

/-- The same actors, as long as nothing happens from outside. -/
def undisturbed : Setting := ⟨Joins, fun _ _ => False⟩

variable {Stand : Type} {setting : Setting} {conduct : Conduct Stand} {setup : Setup}
variable {IsIdle : Stand → Prop} {start world : World} {history : History}

theorem Joins.routine {script : Script (Option Task)} (joins : Joins setup script) :
    Routine setup script := by
  cases joins with
  | opening isOpen leftover => exact .bind (.of_proceed isOpen leftover) fun _ => .done none
  | call call id => exact .bind (.of_call call) fun _ => .aside rfl fun _ => .done none
  | task task => exact .of_task task
  | errand errand => exact .bind (.of_errand errand) fun _ => .done none

theorem session_respects (suits : conduct.Suits setup IsIdle) :
    session.Respects conduct (fun _ stand => IsIdle stand) setup where
  begins joins actor := (Joins.routine joins).follows suits actor suits.start
  spawns _ other := (Routine.of_task _).follows suits other suits.start
  resumes idle := (Routine.of_task _).follows suits _ idle

theorem obeys_of_empty (empty : start.actors = []) (ends : Option Task → Stand → Prop) :
    Obeys conduct ends [] start := by
  refine ⟨fun index actor here => ?_, fun _ absent => absurd absent List.not_mem_nil⟩
  rw [empty] at here
  cases here

theorem session_of_undisturbed (run : start.RunIn undisturbed history world) :
    start.RunIn session history world := by
  induction run with
  | refl => exact .refl
  | act _ here doing member induction => exact .act induction here doing member
  | goOn _ here ended induction => exact .goOn induction here ended
  | begin _ begins induction => exact .begin induction begins
  | drift _ never _ => exact never.elim

theorem session_of_run (run : start.Run history world) : start.RunIn session history world := by
  induction run with
  | refl => exact .refl
  | act _ here doing member induction => exact .act induction here doing member
  | goOn _ here ended induction => exact .goOn induction here ended
  | call _ call induction => exact .begin induction (.call call _)
  | task _ task induction => exact .begin induction (.task task)
  | errand _ errand induction => exact .begin induction (.errand errand)
  | tick _ induction => exact .drift induction .tick
  | cancel _ induction => exact .drift induction .cancel
  | feed _ cue induction => exact .drift induction (.feed cue)

theorem run_in_of_play_one {played : History × World} (index : Nat)
    (run : start.RunIn setting played.1 played.2) :
    start.RunIn setting (playOne played index).1 (playOne played index).2 := by
  obtain ⟨history, world⟩ := played
  unfold playOne
  dsimp only
  split
  · exact run
  · rename_i actor here
    split
    · exact run
    · rename_i task ended
      exact .goOn run here ended
    · rename_i action next doing
      split
      · exact run
      · rename_i effect rest effects
        exact .act run here doing (effects ▸ List.mem_cons_self)

theorem run_in_of_play (order : List Nat) {played : History × World}
    (run : start.RunIn setting played.1 played.2) :
    start.RunIn setting (play order played).1 (play order played).2 := by
  induction order generalizing played with
  | nil => exact run
  | cons index rest induction => exact induction (run_in_of_play_one index run)

end World

end WebSocket
