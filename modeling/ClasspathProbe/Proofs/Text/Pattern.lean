import ClasspathProbe.Proofs.Text.Cut
import ClasspathProbe.Text.Pattern

/-!
# Patterns on lines

Backtracking is local. When the pieces of a pattern stay inside a class of characters, and what
follows them can only match outside that class, then the pieces must match the whole of the stretch
up to the first character outside (`match?_append`). So the matches that a search finds in a text
cut at some character are those that it finds in the parts (`findAll_append_cons`).
-/

namespace ClasspathProbe.Text

variable {inside : Char → Bool}

/-- What is read at the first place of a text where something is read, its end included. -/
def firstAt {α : Type} (read? : Text → Option α) : Text → Option α
  | [] => read? []
  | c :: s =>
    match read? (c :: s) with
    | some a => some a
    | none => firstAt read? s

/-- Whether all that a piece can match lies inside a class of characters. -/
def Piece.Within (inside : Char → Bool) : Piece → Prop
  | .word w => ∀ c ∈ w, inside c = true
  | .maybe c => inside c = true
  | .run f => ∀ c, f c = true → inside c = true

namespace Pattern

/-- The captures of the first way in which a pattern matches the whole of a text. -/
def whole? : Pattern → Text → Option (List Text)
  | [], s => if s = [] then some [] else none
  | .word w :: ps, s => (after? w s).bind (whole? ps)
  | .maybe c :: ps, s =>
    match (after? [c] s).bind (whole? ps) with
    | some runs => some runs
    | none => whole? ps s
  | .run f :: ps, s => (longestRun f (whole? ps) s).map fun (run, runs) => run :: runs

end Pattern

/-! ## Matching up to the end of a stretch -/

section Stretch

variable {rest : Text} (hrest : ∀ c ∈ rest.head?, inside c = false)

include hrest in
/-- A run stops where its class does, so giving back never leaves the stretch. -/
theorem longestRun_append {α β : Type} {f : Char → Bool} (hf : ∀ c, f c = true → inside c = true)
    {next : Text → Option α} {next' : Text → Option β} (ending? : Option (β → α)) {s : Text}
    (hs : ∀ c ∈ s, inside c = true)
    (hnext : ∀ s, (∀ c ∈ s, inside c = true) →
      next (s ++ rest) = ending?.bind fun g => (next' s).map g) :
    longestRun f next (s ++ rest) =
      ending?.bind fun g => (longestRun f next' s).map fun (run, b) => (run, g b) := by
  induction s with
  | nil =>
    cases rest with
    | nil => simp [longestRun]
    | cons d rest =>
      have hd : f d = false := by
        cases h : f d with
        | false => rfl
        | true => simpa [hf d h] using hrest d rfl
      simp [longestRun, hd]
  | cons c s ih =>
    have hs' : ∀ d ∈ s, inside d = true := fun d hd => hs d (List.mem_cons_of_mem _ hd)
    rw [List.cons_append, longestRun, longestRun]
    split
    · rw [ih hs', hnext s hs']
      cases ending? with
      | none => rfl
      | some g => cases longestRun f next' s <;> simp [Option.map_map, Function.comp_def]
    · cases ending? <;> rfl

include hrest in
theorem Pattern.match?_append {q : Pattern}
    (hq : ∀ c s, inside c = true → Pattern.match? q (c :: s) = none) {p : Pattern}
    (hp : ∀ piece ∈ p, piece.Within inside) {s : Text} (hs : ∀ c ∈ s, inside c = true) :
    Pattern.match? (p ++ q) (s ++ rest) =
      (Pattern.match? q rest).bind fun m =>
        (Pattern.whole? p s).map fun runs => (runs ++ m.1, m.2) := by
  induction p generalizing s with
  | nil =>
    cases s with
    | nil => cases h : match? q rest <;> simp [whole?, h]
    | cons c s => simp [whole?, hq c _ (hs c List.mem_cons_self)]
  | cons piece p ih =>
    have ih := @ih fun x hx => hp x (List.mem_cons_of_mem _ hx)
    have hpiece := hp piece List.mem_cons_self
    have hafter : ∀ {w t : Text}, after? w s = some t → ∀ c ∈ t, inside c = true :=
      fun h c hc => hs c (by rw [after?_eq_some_iff.1 h]; exact List.mem_append_right _ hc)
    cases piece with
    | word w =>
      rw [List.cons_append, match?, whole?, after?_append hpiece hrest]
      cases h : after? w s with
      | none => simp
      | some t => simpa using ih (hafter h)
    | maybe c =>
      have hc : ∀ d ∈ [c], inside d = true := by simpa [Piece.Within] using hpiece
      rw [List.cons_append, match?, whole?, after?_append hc hrest, ih hs]
      cases h : after? [c] s with
      | none => simp
      | some t =>
        simp only [Option.map_some, Option.bind_some, ih (hafter h)]
        cases match? q rest with
        | none => rfl
        | some m => cases whole? p t <;> rfl
    | run f =>
      have hnext : ∀ s, (∀ c ∈ s, inside c = true) → match? (p ++ q) (s ++ rest) =
          ((match? q rest).map fun m runs => (runs ++ m.1, m.2)).bind fun g =>
            (whole? p s).map g := by
        intro s hs
        rw [ih hs]
        cases match? q rest <;> rfl
      have hrun := longestRun_append hrest hpiece _ hs hnext
      rw [List.cons_append, match?, whole?, hrun]
      cases match? q rest with
      | none => rfl
      | some m => cases longestRun f (whole? p) s <;> rfl

end Stretch

/-! ## Searching part by part -/

theorem Pattern.findAll_append (p : Pattern) (passed s : Text) :
    findAll p passed.length (passed ++ s) = findAll p 0 s := by
  induction passed with
  | nil => rfl
  | cons c passed ih => exact ih

/-- A pattern whose matches all stop behind the next separator finds at most one match before it,
and then goes on behind it. -/
theorem Pattern.findAll_append_cons {p : Pattern} {read? : Text → Option (List Text)} {sep : Char}
    {l rest : Text} (h : ∀ u, u <:+ l →
      Pattern.match? p (u ++ sep :: rest) = (read? u).map fun runs => (runs, rest)) :
    findAll p 0 (l ++ sep :: rest) = (firstAt read? l).toList ++ findAll p 0 rest := by
  induction l with
  | nil =>
    have hnil := h [] List.suffix_rfl
    rw [List.nil_append] at hnil ⊢
    rw [findAll, hnil, firstAt]
    cases read? [] with
    | none => rfl
    | some runs => simp
  | cons c l ih =>
    have hcons := h (c :: l) List.suffix_rfl
    rw [List.cons_append] at hcons ⊢
    rw [findAll, hcons, firstAt]
    cases read? (c :: l) with
    | none => exact ih fun u hu => h u (hu.trans (List.suffix_cons c l))
    | some runs =>
      have hskip : (l ++ sep :: rest).length - rest.length = (l ++ [sep]).length := by
        simp only [List.length_append, List.length_cons, List.length_nil]
        omega
      simp only [Option.map_some, hskip, Option.toList_some, List.singleton_append]
      rw [show l ++ sep :: rest = (l ++ [sep]) ++ rest by simp, findAll_append]

theorem Pattern.findAll_eq_nil {p : Pattern} {s : Text}
    (h : ∀ u, u <:+ s → Pattern.match? p u = none) : findAll p 0 s = [] := by
  induction s with
  | nil => rfl
  | cons c s ih =>
    rw [findAll, h _ List.suffix_rfl]
    exact ih fun u hu => h u (hu.trans (List.suffix_cons c s))

/-! ## The first place -/

theorem firstAt_append {α : Type} {read? : Text → Option α} {before s : Text}
    (h : ∀ u, u <:+ before → u ≠ [] → read? (u ++ s) = none) :
    firstAt read? (before ++ s) = firstAt read? s := by
  induction before with
  | nil => rfl
  | cons c before ih =>
    have hc := h (c :: before) List.suffix_rfl (List.cons_ne_nil c before)
    rw [List.cons_append] at hc ⊢
    rw [firstAt, hc]
    exact ih fun u hu => h u (hu.trans (List.suffix_cons c before))

theorem firstAt_congr {α : Type} {read? read?' : Text → Option α} {s rest : Text}
    (h : ∀ u, u <:+ s → read? (u ++ rest) = read?' u) (hrest : firstAt read? rest = read?' []) :
    firstAt read? (s ++ rest) = firstAt read?' s := by
  induction s with
  | nil => rw [List.nil_append, hrest, firstAt]
  | cons c s ih =>
    have hc := h (c :: s) List.suffix_rfl
    rw [List.cons_append] at hc ⊢
    rw [firstAt, firstAt, hc, ih fun u hu => h u (hu.trans (List.suffix_cons c s))]

/-- When reading behind a later occurrence of a lead is never easier than behind an earlier one,
only the first occurrence counts. -/
theorem firstAt_after? {α : Type} (lead : Text) {read? : Text → Option α} {s : Text}
    (hread : ∀ r t, r <:+ s → t <:+ r → read? r = none → read? t = none) :
    firstAt (fun u => (after? lead u).bind read?) s =
      (cut? lead s).bind fun m => read? m.2 := by
  have hnone : ∀ s, (∀ t, lead ++ t <:+ s → read? t = none) →
      firstAt (fun u => (after? lead u).bind read?) s = none := by
    intro s hs
    have hfirst : (after? lead s).bind read? = none := by
      cases h : after? lead s with
      | none => rfl
      | some t => exact hs t (after?_eq_some_iff.1 h ▸ List.suffix_rfl)
    induction s with
    | nil => exact hfirst
    | cons c s ih =>
      have hs' : ∀ t, lead ++ t <:+ s → read? t = none :=
        fun t ht => hs t (ht.trans (List.suffix_cons c s))
      rw [firstAt, hfirst]
      refine ih hs' ?_
      cases h : after? lead s with
      | none => rfl
      | some t => exact hs' t (after?_eq_some_iff.1 h ▸ List.suffix_rfl)
  induction s with
  | nil => cases h : after? lead [] <;> simp [firstAt, cut?, h]
  | cons c s ih =>
    have ih := ih fun r t hr => hread r t (hr.trans (List.suffix_cons c s))
    cases h : after? lead (c :: s) with
    | none =>
      rw [cut?, firstAt, h]
      cases hc : cut? lead s <;> simp [ih, hc]
    | some r =>
      rw [cut?, firstAt, h]
      cases hr : read? r with
      | some a => simp [hr]
      | none =>
        simp only [Option.bind_some, hr]
        refine hnone s fun t ht => ?_
        -- both rests are suffixes of one text, and the later one is shorter
        have hr' : r <:+ c :: s := ⟨lead, (after?_eq_some_iff.1 h).symm⟩
        have ht' : t <:+ c :: s := ((List.suffix_append lead t).trans ht).trans
          (List.suffix_cons c s)
        refine hread r t hr' (List.suffix_of_suffix_length_le ht' hr' ?_) hr
        have h₁ := congrArg List.length (after?_eq_some_iff.1 h)
        have h₂ := ht.length_le
        simp only [List.length_append, List.length_cons] at h₁ h₂
        omega

/-! ## Runs -/

theorem eq_nil_of_longestRun_eq_none {α : Type} {f : Char → Bool} {next : Text → Option α}
    {s : Text} (h : longestRun f next s = none) {run t : Text} (hs : s = run ++ t)
    (hrun : ∀ c ∈ run, f c = true) (ht : (next t).isSome) : run = [] := by
  induction s generalizing run with
  | nil => exact (List.append_eq_nil_iff.1 hs.symm).1
  | cons c s ih =>
    cases run with
    | nil => rfl
    | cons d run =>
      rw [List.cons_append, List.cons.injEq] at hs
      obtain ⟨rfl, rfl⟩ := hs
      rw [longestRun, if_pos (hrun c List.mem_cons_self)] at h
      split at h
      · simp at h
      · next hn =>
        have hnil := ih hn rfl fun d hd => hrun d (List.mem_cons_of_mem _ hd)
        rw [hnil, List.nil_append, Option.map_eq_none_iff] at h
        simp [h] at ht

/-- A run that is found is the longest behind which the rest succeeds. -/
theorem longestRun_eq_some {α : Type} {f : Char → Bool} {next : Text → Option α} {s run : Text}
    {a : α} (h : longestRun f next s = some (run, a)) :
    run ≠ [] ∧ ∃ t, s = run ++ t ∧ next t = some a ∧
      ∀ run' t', s = run' ++ t' → (∀ c ∈ run', f c = true) → (next t').isSome →
        run'.length ≤ run.length := by
  induction s generalizing run with
  | nil => simp [longestRun] at h
  | cons c s ih =>
    rw [longestRun] at h
    split at h
    · split at h
      · next run₀ a₀ hs =>
        obtain ⟨rfl, rfl⟩ := Prod.mk.inj (Option.some.inj h)
        obtain ⟨-, t, rfl, ht, hlast⟩ := ih hs
        refine ⟨List.cons_ne_nil c run₀, t, rfl, ht, fun run' t' he hrun' ht' => ?_⟩
        cases run' with
        | nil => simp
        | cons d run' =>
          rw [List.cons_append, List.cons.injEq] at he
          exact Nat.succ_le_succ
            (hlast run' t' he.2 (fun d hd => hrun' d (List.mem_cons_of_mem _ hd)) ht')
      · next hs =>
        obtain ⟨b, hb, he⟩ := Option.map_eq_some_iff.1 h
        obtain ⟨rfl, rfl⟩ := Prod.mk.inj he
        refine ⟨List.cons_ne_nil c [], s, rfl, hb, fun run' t' he hrun' ht' => ?_⟩
        cases run' with
        | nil => simp
        | cons d run' =>
          rw [List.cons_append, List.cons.injEq] at he
          have hnil := eq_nil_of_longestRun_eq_none hs he.2
            (fun d hd => hrun' d (List.mem_cons_of_mem _ hd)) ht'
          simp [hnil]
    · simp at h

end ClasspathProbe.Text
