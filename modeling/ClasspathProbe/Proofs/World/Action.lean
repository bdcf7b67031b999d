import ClasspathProbe.World

/-!
# Running actions

An action is run in a world and leaves an outcome and a world (`exec`). There is one lemma for each
way to build an action, and a relation between worlds that holds again after every step holds after
the whole (`Keeps`).
-/

namespace ClasspathProbe.Action

variable {α β : Type} {x : Action α} {w w' : World} {a : α} {e : Failure}

/-- The outcome of an action in a world, and the world after it. -/
def exec (x : Action α) (w : World) : Except Failure α × World :=
  Id.run (StateT.run (ExceptT.run x) w)

/-! ## Outcomes -/

@[simp] theorem exec_pure (a : α) (w : World) : exec (pure a : Action α) w = (.ok a, w) := rfl

@[simp] theorem exec_get (w : World) : exec get w = (.ok w, w) := rfl

@[simp] theorem exec_set (w w' : World) : exec (set w' : Action PUnit) w = (.ok ⟨⟩, w') := rfl

@[simp] theorem exec_modify (f : World → World) (w : World) :
    exec (modify f : Action PUnit) w = (.ok ⟨⟩, f w) := rfl

@[simp] theorem exec_view (f : World → α) (w : World) : exec (view f) w = (.ok (f w), w) := rfl

@[simp] theorem exec_log (logger : Text) (level : Log.Level) (text : Text) (w : World) :
    exec (log logger level text) w = (.ok ⟨⟩, w.take ⟨logger, level, text⟩) := rfl

theorem exec_bind (x : Action α) (f : α → Action β) (w : World) :
    exec (x >>= f) w =
      match exec x w with
      | (.ok a, w') => exec (f a) w'
      | (.error e, w') => (.error e, w') := by
  unfold exec ExceptT.run StateT.run Id.run
  simp only [bind, ExceptT.bind, ExceptT.mk, StateT.bind, ExceptT.bindCont]
  cases x w with
  | mk outcome w' => cases outcome <;> rfl

theorem exec_bind_ok (h : exec x w = (.ok a, w')) (f : α → Action β) :
    exec (x >>= f) w = exec (f a) w' := by
  rw [exec_bind, h]

theorem exec_bind_error (h : exec x w = (.error e, w')) (f : α → Action β) :
    exec (x >>= f) w = (.error e, w') := by
  rw [exec_bind, h]

/-- A sequence succeeds only by both of its parts. -/
theorem of_exec_bind {f : α → Action β} {b : β} (h : exec (x >>= f) w = (.ok b, w')) :
    ∃ a w₁, exec x w = (.ok a, w₁) ∧ exec (f a) w₁ = (.ok b, w') := by
  rw [exec_bind] at h
  generalize exec x w = r at h
  obtain ⟨outcome, w₁⟩ := r
  cases outcome with
  | ok a => exact ⟨a, w₁, rfl, h⟩
  | error e => cases h

/-- A sequence fails by one of its parts. -/
theorem of_exec_bind_error {f : α → Action β} (h : exec (x >>= f) w = (.error e, w')) :
    exec x w = (.error e, w') ∨ ∃ a w₁, exec x w = (.ok a, w₁) ∧ exec (f a) w₁ = (.error e, w') := by
  rw [exec_bind] at h
  generalize exec x w = r at h
  obtain ⟨outcome, w₁⟩ := r
  cases outcome with
  | ok a => exact .inr ⟨a, w₁, rfl, h⟩
  | error e' =>
    obtain ⟨he, rfl⟩ := Prod.mk.inj h
    obtain rfl := Except.error.inj he
    exact .inl rfl

theorem of_exec_pure {a b : α} (h : exec (pure a : Action α) w = (.ok b, w')) : b = a ∧ w' = w := by
  obtain ⟨hb, hw⟩ := Prod.mk.inj h
  exact ⟨(Except.ok.inj hb).symm, hw.symm⟩

theorem exec_recover (x : Action α) (handle : Failure → Action α) (w : World) :
    exec (recover x handle) w =
      match exec x w with
      | (.ok a, w') => (.ok a, w')
      | (.error e, w') => exec (handle e) w' := by
  unfold exec recover ExceptT.run StateT.run Id.run
  simp only [tryCatch, tryCatchThe, MonadExceptOf.tryCatch, ExceptT.tryCatch, ExceptT.mk, bind,
    StateT.bind]
  cases x w with
  | mk outcome w' => cases outcome <;> rfl

theorem exec_map (f : α → β) (x : Action α) (w : World) :
    exec (f <$> x) w = ((exec x w).1.map f, (exec x w).2) := by
  unfold exec ExceptT.run StateT.run Id.run
  simp only [Functor.map, ExceptT.map, ExceptT.mk, bind, StateT.bind]
  cases x w with
  | mk outcome w' => cases outcome <;> rfl

/-- Attempting an action gives its outcome and never fails. -/
theorem exec_attempt (x : Action α) (w : World) :
    exec (recover (Except.ok <$> x) fun e => pure (.error e)) w =
      (.ok (exec x w).1, (exec x w).2) := by
  rw [exec_recover, exec_map]
  generalize exec x w = r
  obtain ⟨outcome, w'⟩ := r
  cases outcome <;> rfl

/-! ## Requests to the operating system -/

theorem exec_ask (question : FileTree → Location → Text → Except Refusal α) (name : Text)
    (w : World) :
    exec (ask question name) w =
      if name.contains '\x00' then (.error .embeddedNul, w)
      else
        match question w.tree w.here name with
        | .ok a => (.ok a, w)
        | .error why => (.error (.refused why name), w) := by
  rw [ask, systemName]
  split
  · rfl
  · rw [exec_bind_ok (exec_pure _ _), exec_bind_ok (exec_get _)]
    cases question w.tree w.here name <;> rfl

theorem exec_test (question : FileTree → Location → Text → Except Refusal Bool) (name : Text)
    (w : World) :
    exec (test question name) w =
      if name.contains '\x00' then (.ok false, w)
      else
        match question w.tree w.here name with
        | .ok b => (.ok b, w)
        | .error why =>
          if why.meansAbsent then (.ok false, w) else (.error (.refused why name), w) := by
  rw [test]
  split
  · rfl
  · rw [exec_bind_ok (exec_get _)]
    cases question w.tree w.here name with
    | ok b => rfl
    | error why =>
      dsimp only
      split <;> rfl

theorem exec_change (request : FileTree → Location → Text → Except Refusal FileTree) (name : Text)
    (w : World) :
    exec (change request name) w =
      if name.contains '\x00' then (.error .embeddedNul, w)
      else
        match request w.tree w.here name with
        | .ok tree => (.ok ⟨⟩, { w with tree })
        | .error why => (.error (.refused why name), w) := by
  rw [change, systemName]
  split
  · rfl
  · rw [exec_bind_ok (exec_pure _ _), exec_bind_ok (exec_get _)]
    cases request w.tree w.here name <;> rfl

/-! ## Relations kept -/

/-- A relation between worlds that taking records keeps, and so all that only reads and logs. -/
structure LogFrame (R : World → World → Prop) : Prop where
  refl : ∀ w, R w w
  trans : ∀ {w w' w''}, R w w' → R w' w'' → R w w''
  take : ∀ w r, R w (w.take r)

/-- Whether an action always leaves a world that is related to the one before. -/
def Keeps (R : World → World → Prop) (x : Action α) : Prop := ∀ w, R w (exec x w).2

namespace Keeps

variable {R : World → World → Prop} {x : Action α}

theorem after {r : Except Failure α} {w w' : World} (hx : Keeps R x) (h : exec x w = (r, w')) :
    R w w' := by
  have hrun := hx w
  rw [h] at hrun
  exact hrun

theorem pure (hR : LogFrame R) (a : α) : Keeps R (pure a : Action α) := fun w => hR.refl w

theorem throw (hR : LogFrame R) (e : Failure) : Keeps R (throw e : Action α) := fun w => hR.refl w

theorem log (hR : LogFrame R) (logger : Text) (level : Log.Level) (text : Text) :
    Keeps R (Action.log logger level text) := fun w => hR.take w ⟨logger, level, text⟩

theorem of_exec (hR : LogFrame R) (h : ∀ w, (exec x w).2 = w) : Keeps R x := by
  intro w
  rw [h w]
  exact hR.refl w

theorem bind (hR : LogFrame R) {f : α → Action β} (hx : Keeps R x) (hf : ∀ a, Keeps R (f a)) :
    Keeps R (x >>= f) := by
  intro w
  have h := hx w
  rw [exec_bind]
  generalize exec x w = r at h
  obtain ⟨outcome, w'⟩ := r
  cases outcome with
  | ok a => exact hR.trans h (hf a w')
  | error e => exact h

theorem get (hR : LogFrame R) : Keeps R (MonadState.get : Action World) :=
  of_exec hR fun _ => rfl

theorem ask (hR : LogFrame R) (question : FileTree → Location → Text → Except Refusal α)
    (name : Text) : Keeps R (Action.ask question name) := by
  refine of_exec hR fun w => ?_
  rw [exec_ask]
  split
  · rfl
  · split <;> rfl

theorem test (hR : LogFrame R) (question : FileTree → Location → Text → Except Refusal Bool)
    (name : Text) : Keeps R (Action.test question name) := by
  refine of_exec hR fun w => ?_
  rw [exec_test]
  split
  · rfl
  · split
    · rfl
    · split <;> rfl

theorem map (f : α → β) (hx : Keeps R x) : Keeps R (f <$> x) := by
  intro w
  rw [exec_map]
  exact hx w

theorem recover (hR : LogFrame R) {handle : Failure → Action α} (hx : Keeps R x)
    (hhandle : ∀ e, Keeps R (handle e)) : Keeps R (Action.recover x handle) := by
  intro w
  have h := hx w
  rw [exec_recover]
  generalize exec x w = r at h
  obtain ⟨outcome, w'⟩ := r
  cases outcome with
  | ok a => exact h
  | error e => exact hR.trans h (hhandle e w')

theorem mapM (hR : LogFrame R) {f : α → Action β} (hf : ∀ a, Keeps R (f a)) (as : List α) :
    Keeps R (as.mapM f) := by
  induction as with
  | nil =>
    rw [List.mapM_nil]
    exact .pure hR []
  | cons a as ih =>
    rw [List.mapM_cons]
    exact .bind hR (hf a) fun b => .bind hR ih fun bs => .pure hR (b :: bs)

theorem forIn (hR : LogFrame R) {f : α → β → Action (ForInStep β)} (hf : ∀ a b, Keeps R (f a b))
    (as : List α) (b : β) : Keeps R (ForIn.forIn as b f) := by
  induction as generalizing b with
  | nil =>
    rw [List.forIn_nil]
    exact .pure hR b
  | cons a as ih =>
    rw [List.forIn_cons]
    refine .bind hR (hf a b) fun step => ?_
    cases step with
    | done b => exact .pure hR b
    | yield b => exact ih b

end Keeps

/-! ## What actions give -/

section Giving

variable {Q : α → Prop} {S : β → Prop}

/-- Whether what an action gives, if anything, has a property. -/
def Gives (Q : α → Prop) (x : Action α) : Prop := ∀ w a w', exec x w = (.ok a, w') → Q a

namespace Gives

theorem pure {a : α} (h : Q a) : Gives Q (pure a) := by
  rintro w _ w' ⟨⟩
  exact h

theorem throw (e : Failure) : Gives Q (throw e) := by
  rintro w a w' ⟨⟩

theorem bind {x : Action α} {f : α → Action β} (hx : Gives Q x) (hf : ∀ a, Q a → Gives S (f a)) :
    Gives S (x >>= f) := by
  intro w b w' h
  obtain ⟨a, w₁, hw, h⟩ := of_exec_bind h
  exact hf a (hx w a w₁ hw) w₁ b w' h

theorem bind_any {x : Action α} {f : α → Action β} (hf : ∀ a, Gives S (f a)) :
    Gives S (x >>= f) := by
  intro w b w' h
  obtain ⟨a, w₁, -, h⟩ := of_exec_bind h
  exact hf a w₁ b w' h

theorem map {f : β → α} {x : Action β} (hx : Gives S x) (hf : ∀ b, S b → Q (f b)) :
    Gives Q (f <$> x) := by
  intro w a w' h
  rw [exec_map] at h
  generalize hw : exec x w = r at h
  obtain ⟨outcome, w₁⟩ := r
  cases outcome with
  | ok b =>
    obtain rfl := Except.ok.inj (Prod.mk.inj h).1
    exact hf b (hx w b w₁ hw)
  | error e => cases h

theorem recover {x : Action α} {handle : Failure → Action α} (hx : Gives Q x)
    (hhandle : ∀ e, Gives Q (handle e)) : Gives Q (Action.recover x handle) := by
  intro w a w' h
  rw [exec_recover] at h
  generalize hw : exec x w = r at h
  obtain ⟨outcome, w₁⟩ := r
  cases outcome with
  | ok b =>
    obtain ⟨hb, -⟩ := Prod.mk.inj h
    exact hx w a w₁ (hb ▸ hw)
  | error e => exact hhandle e w₁ a w' h

end Gives

theorem gives_any (x : Action α) : Gives (fun _ => True) x := fun _ _ _ _ => trivial

end Giving

end ClasspathProbe.Action
