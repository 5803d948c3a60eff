import WebSocket.Proofs.Connection.Teardown

/-!
An operation of an actor in the course of a run, from the moment at which the actor is about to begin
it. Until it has returned, the actor has come to some rest of it, and it has kept to every conduct
that the operation keeps to.
-/

namespace WebSocket

variable {Result Stand : Type}

namespace Script

/-- With what happens in a history, an actor comes from a script to a rest of it. It stays where it is
while it waits, and whatever the others do. -/
inductive ComesTo (actor : Nat) (script : Script Result) : History → Script Result → Prop where
  | refl : ComesTo actor script [] script
  | own {history : History} {action : Action} {next : action.Reply → Script Result}
      (before : ComesTo actor script history (.act action next)) (reply : action.Reply) :
      ComesTo actor script (history ++ [⟨actor, action, some reply⟩]) (next reply)
  | waits {history : History} {action : Action} {next : action.Reply → Script Result}
      (before : ComesTo actor script history (.act action next)) :
      ComesTo actor script (history ++ [⟨actor, action, none⟩]) (.act action next)
  | other {history : History} {rest : Script Result} {happening : Happening}
      (before : ComesTo actor script history rest) (other : happening.actor ≠ actor) :
      ComesTo actor script (history ++ [happening]) rest

variable {script rest : Script Result} {history : History} {actor : Nat}

theorem ComesTo.follows {conduct : Conduct Stand} {ends : Result → Stand → Prop} {stand : Stand}
    (comes : script.ComesTo actor history rest) (follows : script.Follows conduct actor ends stand) :
    rest.Follows conduct actor ends (history.foldl (conduct.advance actor) stand) := by
  induction comes with
  | refl => exact follows
  | own _ reply induction =>
      rw [List.foldl_append, List.foldl_cons, List.foldl_nil, Conduct.advance, if_pos rfl]
      exact induction.2 reply
  | waits _ induction =>
      rw [List.foldl_append, List.foldl_cons, List.foldl_nil, Conduct.advance, ite_self]
      exact induction
  | other _ other induction =>
      rw [List.foldl_append, List.foldl_cons, List.foldl_nil, Conduct.advance, if_neg other]
      exact induction

end Script

namespace World

variable {setting : Setting} {start world : World} {history : History} {index : Nat}
variable {operation : Script Result} {next : Result → Script (Option Task)} {isAbortable : Bool}

/-- An actor has come from the beginning of an operation to its end, and has gone on with the result. -/
def HasGoneOn (setting : Setting) (start : World) (history : History) (index : Nat)
    (operation : Script Result) (next : Result → Script (Option Task)) (isAbortable : Bool) : Prop :=
  ∃ till result moment, till ≤ history.length ∧ start.RunIn setting (history.take till) moment ∧
    operation.ComesTo index (history.take till) (.done result) ∧
    moment.actors[index]? = some ⟨next result, isAbortable⟩

theorem HasGoneOn.append
    (goneOn : HasGoneOn setting start history index operation next isAbortable) (newest : Happening) :
    HasGoneOn setting start (history ++ [newest]) index operation next isAbortable := by
  obtain ⟨till, result, moment, within, run, comes, here⟩ := goneOn
  have same : (history ++ [newest]).take till = history.take till :=
    List.take_append_of_le_length within
  refine ⟨till, result, moment, ?_, same ▸ run, same ▸ comes, here⟩
  rw [List.length_append]
  omega

namespace RunIn

theorem has_gone_on (run : start.RunIn setting history world) {result : Result}
    (comes : operation.ComesTo index history (.done result))
    (here : world.actors[index]? = some ⟨next result, isAbortable⟩) :
    HasGoneOn setting start history index operation next isAbortable := by
  have whole : history.take history.length = history := List.take_length
  exact ⟨history.length, result, world, Nat.le_refl _, whole.symm ▸ run, whole.symm ▸ comes, here⟩

/-- Who is about to begin an operation is under way in it until it has returned. -/
theorem under_way (here : start.actors[index]? = some ⟨operation.bind next, isAbortable⟩)
    (run : start.RunIn setting history world) :
    (∃ rest, operation.ComesTo index history rest ∧
      world.actors[index]? = some ⟨rest.bind next, isAbortable⟩) ∨
    HasGoneOn setting start history index operation next isAbortable := by
  induction run with
  | refl => exact .inl ⟨operation, .refl, here⟩
  | @act history world other actor action further effect before there doing member induction =>
      rcases induction with ⟨rest, comes, found⟩ | goneOn
      · have after := actor_of_follow found other further effect
        by_cases own : other = index
        · subst own
          cases there.symm.trans found
          cases rest with
          | done result => exact .inr ((before.has_gone_on comes found).append _)
          | act first goesOn =>
              cases doing
              cases told : effect.reply with
              | none =>
                  rw [told] at after
                  exact .inl ⟨_, comes.waits, after⟩
              | some reply =>
                  rw [told, Option.elim_some, if_pos rfl] at after
                  exact .inl ⟨_, comes.own reply, after⟩
        · have same : (effect.reply.elim (⟨rest.bind next, isAbortable⟩ : Actor) fun reply =>
              if other = index then ⟨further reply, isAbortable⟩ else ⟨rest.bind next, isAbortable⟩) =
                ⟨rest.bind next, isAbortable⟩ := by
            cases effect.reply with
            | none => rfl
            | some reply => exact if_neg own
          exact .inl ⟨rest, comes.other own, after.trans (congrArg some same)⟩
      · exact .inr (goneOn.append _)
  | @goOn history world other actor task before there ended induction =>
      rcases induction with ⟨rest, comes, found⟩ | goneOn
      · by_cases own : other = index
        · subst own
          cases there.symm.trans found
          cases rest with
          | done result => exact .inr (before.has_gone_on comes found)
          | act action further => cases ended
        · exact .inl ⟨rest, comes, by rwa [putActor, List.getElem?_modify_ne _ _ own]⟩
      · exact .inr goneOn
  | begin _ _ induction =>
      rcases induction with ⟨rest, comes, found⟩ | goneOn
      · have within := (List.getElem?_eq_some_iff.mp found).1
        exact .inl ⟨rest, comes, (List.getElem?_append_left within).trans found⟩
      · exact .inr goneOn
  | drift _ _ induction => exact induction

theorem phase_le {middle : World} {later : History} (usual : setting.IsUsual) (empty : start.actors = [])
    (run : start.RunIn setting history middle) (behind : middle.RunIn setting later world) :
    middle.hub.phase ≤ world.hub.phase := by
  induction behind with
  | refl => exact Nat.le_refl _
  | @act later world index actor action next effect before here doing member induction =>
      have obeys := (run.trans before).obeys (usual.respects start.setup) (obeys_of_empty empty _)
      have follows := obeys.follows index actor here
      rw [doing] at follows
      rw [follow_eq]
      exact Phase.le_trans induction
        (Action.sights_of_effect (Release.onwards_of_permits follows.1) member).le
  | goOn _ _ _ induction => exact induction
  | begin _ _ induction => exact induction
  | drift _ drifts induction => cases usual.drifts drifts <;> exact induction

end RunIn

end World

end WebSocket
