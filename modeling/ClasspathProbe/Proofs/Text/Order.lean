import ClasspathProbe.Text

/-!
# The order of texts

Texts are ordered by the code points of their characters, from the first one on. The order is total,
and `le` decides whether a text is another one or comes before it (`le_iff_before`).
-/

namespace ClasspathProbe.Text

/-- Whether one text comes before another by the code points of their characters. -/
def Before (s t : Text) : Prop := List.Lex (fun c d => c.toNat < d.toNat) s t

theorem le_cons_iff {c d : Char} {s t : Text} :
    le (c :: s) (d :: t) = true ↔ c.toNat < d.toNat ∨ c = d ∧ le s t = true := by
  rw [Text.le, Bool.or_eq_true, Bool.and_eq_true, decide_eq_true_eq, decide_eq_true_eq]
  exact Iff.rfl

theorem le_refl (s : Text) : le s s = true := by
  induction s with
  | nil => rfl
  | cons c s ih => exact le_cons_iff.2 (.inr ⟨rfl, ih⟩)

theorem le_trans {s t u : Text} (hst : le s t = true) (htu : le t u = true) :
    le s u = true := by
  induction s generalizing t u with
  | nil => rfl
  | cons c s ih =>
    cases t with
    | nil => cases hst
    | cons d t =>
      cases u with
      | nil => cases htu
      | cons e u =>
        rw [le_cons_iff] at hst htu ⊢
        obtain hcd | ⟨rfl, hst⟩ := hst
        · obtain hde | ⟨rfl, -⟩ := htu
          · exact .inl (Nat.lt_trans hcd hde)
          · exact .inl hcd
        · obtain hde | ⟨rfl, htu⟩ := htu
          · exact .inl hde
          · exact .inr ⟨rfl, ih hst htu⟩

theorem le_total (s t : Text) : le s t = true ∨ le t s = true := by
  induction s generalizing t with
  | nil => exact .inl rfl
  | cons c s ih =>
    cases t with
    | nil => exact .inr rfl
    | cons d t =>
      rw [le_cons_iff, le_cons_iff]
      obtain hlt | heq | hgt := Nat.lt_trichotomy c.toNat d.toNat
      · exact .inl (.inl hlt)
      · obtain rfl := Char.toNat_inj.1 heq
        exact (ih t).imp (fun h => .inr ⟨rfl, h⟩) fun h => .inr ⟨rfl, h⟩
      · exact .inr (.inl hgt)

theorem le_antisymm {s t : Text} (hst : le s t = true) (hts : le t s = true) : s = t := by
  induction s generalizing t with
  | nil =>
    cases t with
    | nil => rfl
    | cons d t => cases hts
  | cons c s ih =>
    cases t with
    | nil => cases hst
    | cons d t =>
      rw [le_cons_iff] at hst hts
      obtain hcd | ⟨rfl, hst⟩ := hst
      · obtain hdc | ⟨rfl, -⟩ := hts
        · exact absurd hcd (Nat.lt_asymm hdc)
        · exact absurd hcd (Nat.lt_irrefl _)
      · obtain hdc | ⟨-, hts⟩ := hts
        · exact absurd hdc (Nat.lt_irrefl _)
        · rw [ih hst hts]

theorem le_iff_before {s t : Text} : le s t = true ↔ s = t ∨ s.Before t := by
  induction s generalizing t with
  | nil =>
    cases t with
    | nil => exact iff_of_true rfl (.inl rfl)
    | cons d t => exact iff_of_true rfl (.inr .nil)
  | cons c s ih =>
    cases t with
    | nil =>
      refine iff_of_false (by simp [le]) ?_
      rintro (h | h) <;> cases h
    | cons d t =>
      rw [le_cons_iff, ih]
      constructor
      · rintro (hlt | ⟨rfl, rfl | hbefore⟩)
        · exact .inr (.rel hlt)
        · exact .inl rfl
        · exact .inr (.cons hbefore)
      · rintro (heq | hbefore)
        · obtain ⟨rfl, rfl⟩ := List.cons.inj heq
          exact .inr ⟨rfl, .inl rfl⟩
        · cases hbefore with
          | rel hlt => exact .inl hlt
          | cons hbefore => exact .inr ⟨rfl, .inr hbefore⟩

end ClasspathProbe.Text
