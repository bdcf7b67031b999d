import ClasspathProbe.Proofs.World.Quieter
import ClasspathProbe.Proofs.World.TempDirectory

/-!
# Actions in related worlds

An action agrees over a relation (`Action.Agrees`) when it ends alike in any two related worlds and
leaves related worlds. There is one lemma for each way to build an action. The relation that matters
is that of a world and one with more logging whose files for records are there (`World.Parallel`).
-/

namespace ClasspathProbe

namespace Action

variable {α β : Type} {R : World → World → Prop} {x : Action α}

/-- Whether an action ends alike in related worlds and leaves related worlds. -/
def Agrees (R : World → World → Prop) (x : Action α) : Prop :=
  ∀ w w', R w w' → (exec x w').1 = (exec x w).1 ∧ R (exec x w).2 (exec x w').2

namespace Agrees

theorem pure (a : α) : Agrees R (pure a : Action α) := fun _ _ h => ⟨rfl, h⟩

theorem throw (e : Failure) : Agrees R (throw e : Action α) := fun _ _ h => ⟨rfl, h⟩

/-- What only looks at the world agrees when it sees the same. -/
theorem reads {f : World → Except Failure α} (hx : ∀ w, exec x w = (f w, w))
    (hf : ∀ w w', R w w' → f w' = f w) : Agrees R x := by
  intro w w' h
  rw [hx, hx]
  exact ⟨hf w w' h, h⟩

theorem view {f : World → α} (hf : ∀ w w', R w w' → f w' = f w) : Agrees R (Action.view f) :=
  reads (Action.exec_view f) fun w w' h => congrArg Except.ok (hf w w' h)

/-- What goes on may count on what the first action gives. -/
theorem bind_gives {Q : α → Prop} {f : α → Action β} (hx : Agrees R x) (hgives : Gives Q x)
    (hf : ∀ a, Q a → Agrees R (f a)) : Agrees R (x >>= f) := by
  intro w w' h
  obtain ⟨hsame, hafter⟩ := hx w w' h
  have hgiven := hgives w
  rw [exec_bind, exec_bind]
  generalize exec x w = r at hsame hafter hgiven
  generalize exec x w' = r' at hsame hafter
  obtain ⟨outcome, w₁⟩ := r
  obtain ⟨outcome', w₁'⟩ := r'
  obtain rfl : outcome' = outcome := hsame
  cases outcome' with
  | ok a => exact hf a (hgiven a w₁ rfl) w₁ w₁' hafter
  | error e => exact ⟨rfl, hafter⟩

theorem bind {f : α → Action β} (hx : Agrees R x) (hf : ∀ a, Agrees R (f a)) :
    Agrees R (x >>= f) := hx.bind_gives (gives_any x) fun a _ => hf a

/-- What goes on after a look at the world may make nothing of a difference seen. -/
theorem bind_reads {f : α → Action β}
    (hx : ∀ w w', R w w' → ∃ outcome outcome', exec x w = (outcome, w) ∧
      exec x w' = (outcome', w') ∧ outcome'.map f = outcome.map f)
    (hf : ∀ a, Agrees R (f a)) : Agrees R (x >>= f) := by
  intro w w' h
  obtain ⟨outcome, outcome', hw, hw', hsame⟩ := hx w w' h
  rw [exec_bind, exec_bind, hw, hw']
  cases outcome with
  | error e =>
    cases outcome' with
    | error e' =>
      obtain rfl := Except.error.inj hsame
      exact ⟨rfl, h⟩
    | ok a' => cases hsame
  | ok a =>
    cases outcome' with
    | error e' => cases hsame
    | ok a' =>
      have hnext : f a' = f a := Except.ok.inj hsame
      dsimp only
      rw [hnext]
      exact hf a w w' h

theorem map (f : α → β) (hx : Agrees R x) : Agrees R (f <$> x) := by
  intro w w' h
  obtain ⟨hsame, hafter⟩ := hx w w' h
  rw [exec_map, exec_map, hsame]
  exact ⟨rfl, hafter⟩

theorem recover {handle : Failure → Action α} (hx : Agrees R x)
    (hhandle : ∀ e, Agrees R (handle e)) : Agrees R (Action.recover x handle) := by
  intro w w' h
  obtain ⟨hsame, hafter⟩ := hx w w' h
  rw [exec_recover, exec_recover]
  generalize exec x w = r at hsame hafter
  generalize exec x w' = r' at hsame hafter
  obtain ⟨outcome, w₁⟩ := r
  obtain ⟨outcome', w₁'⟩ := r'
  obtain rfl : outcome' = outcome := hsame
  cases outcome' with
  | ok a => exact ⟨rfl, hafter⟩
  | error e => exact hhandle e w₁ w₁' hafter

theorem ask {question : FileTree → Location → Text → Except Refusal α} {name : Text}
    (hq : ∀ w w', R w w' → question w'.tree w'.here name = question w.tree w.here name) :
    Agrees R (Action.ask question name) := by
  refine reads (f := fun w => (exec (Action.ask question name) w).1) (fun w => ?_) fun w w' h => ?_
  · rw [exec_ask]
    split
    · rfl
    · split <;> rfl
  · rw [exec_ask, exec_ask, hq w w' h]
    split
    · rfl
    · split <;> rfl

theorem test {question : FileTree → Location → Text → Except Refusal Bool} {name : Text}
    (hq : ∀ w w', R w w' → question w'.tree w'.here name = question w.tree w.here name) :
    Agrees R (Action.test question name) := by
  refine reads (f := fun w => (exec (Action.test question name) w).1) (fun w => ?_) fun w w' h => ?_
  · rw [exec_test]
    split
    · rfl
    · split
      · rfl
      · split <;> rfl
  · rw [exec_test, exec_test, hq w w' h]
    split
    · rfl
    · split
      · rfl
      · split <;> rfl

end Agrees

end Action

open ClasspathProbe.Action (Agrees exec)

/-! ## Worlds with more logging -/

namespace World

variable {P : Location → Prop} {w w' : World}

/-- The second world is the first with more logging, and the files for records are there. -/
structure Parallel (P : Location → Prop) (w w' : World) : Prop extends Quieter P w w' where
  logsOpen : w.LogsOpen P

namespace Parallel

theorem sight_eq (h : Parallel P w w') (p : Path) : w'.sight p = w.sight p := by
  rw [sight, sight, h.tree.sight_eq, h.here]

theorem take (h : Parallel P w w') (r : Log.Record) : Parallel P (w.take r) (w'.take r) :=
  ⟨h.toQuieter.take h.logsOpen r, h.logsOpen.extends (take_extends w r)⟩

theorem agrees_log (logger : Text) (level : Log.Level) (text : Text) :
    Agrees (Parallel P) (Action.log logger level text) :=
  fun _ _ h => ⟨rfl, h.take ⟨logger, level, text⟩⟩

theorem agrees_isDirectory (p : Path) : Agrees (Parallel P) (Action.isDirectory p) :=
  .reads (Action.exec_isDirectory p) fun w w' h => by rw [h.sight_eq]

theorem agrees_isThere (p : Path) : Agrees (Parallel P) (Action.isThere p) :=
  .test fun w w' h => by
    rw [h.here]
    exact h.tree.look_map _ (fun _ _ _ _ => rfl) _ _

end Parallel

end World

end ClasspathProbe
