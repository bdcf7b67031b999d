import ClasspathProbe.Text

/-!
# Cutting texts

`pieces` and `joined` are the library's `List.splitOn` and `List.intercalate`, so that what is known
of those carries over. `after?` succeeds on the texts that start with the lead and nowhere else, and
what stands behind a text can be left out of its sight when the lead cannot reach there.
-/

namespace ClasspathProbe.Text

variable {lead part s : Text} {sep : Char}

/-! ## Pieces -/

theorem pieces_eq_splitOn (sep : Char) (s : Text) : pieces sep s = s.splitOn sep := by
  induction s with
  | nil => rfl
  | cons c s ih =>
    rw [pieces, List.splitOn_cons_eq_if_modifyHead, ih]
    by_cases h : c = sep
    · simp [h]
    · obtain ⟨p, ps, hp⟩ := List.exists_cons_of_ne_nil (List.splitOn_ne_nil sep s)
      simp [h, hp]

theorem joined_eq_intercalate (sep : Text) (ts : List Text) :
    joined sep ts = sep.intercalate ts := by
  induction ts with
  | nil => rfl
  | cons t ts ih =>
    cases ts with
    | nil => simp [joined]
    | cons u us =>
      rw [joined, ih, List.intercalate_cons_cons, List.append_assoc]
      simp

theorem pieces_ne_nil (sep : Char) (s : Text) : pieces sep s ≠ [] := by
  rw [pieces_eq_splitOn]
  exact List.splitOn_ne_nil sep s

theorem pieces_of_not_mem (h : sep ∉ s) : pieces sep s = [s] := by
  rw [pieces_eq_splitOn, List.splitOn_eq_singleton h]

theorem pieces_append_cons {l : Text} (h : sep ∉ l) (r : Text) :
    pieces sep (l ++ sep :: r) = l :: pieces sep r := by
  rw [pieces_eq_splitOn, List.splitOn_append_cons_self_of_not_mem h, pieces_eq_splitOn]

/-- A text is one piece, or a piece, the separator and more. -/
@[elab_as_elim]
theorem pieces_induction (sep : Char) {motive : Text → Prop}
    (last : ∀ s, sep ∉ s → motive s)
    (piece : ∀ l r, sep ∉ l → motive r → motive (l ++ sep :: r)) (s : Text) : motive s := by
  by_cases h : sep ∈ s
  · obtain ⟨l, r, hs, hl⟩ := List.eq_append_cons_of_mem h
    have hlt : r.length < s.length := by
      rw [hs, List.length_append, List.length_cons]
      omega
    rw [hs]
    exact piece l r hl (pieces_induction sep last piece r)
  · exact last s h
termination_by s.length

theorem not_mem_of_mem_pieces {piece : Text} (h : piece ∈ pieces sep s) : sep ∉ piece := by
  induction s using pieces_induction sep with
  | last s hs =>
    rw [pieces_of_not_mem hs, List.mem_singleton] at h
    rwa [h]
  | piece l r hl ih =>
    rw [pieces_append_cons hl] at h
    rcases List.mem_cons.1 h with rfl | hr
    · exact hl
    · exact ih hr

/-- A character other than the separator is in a text exactly when it is in one of its pieces. -/
theorem exists_mem_pieces {c : Char} (hc : c ≠ sep) :
    (∃ piece ∈ pieces sep s, c ∈ piece) ↔ c ∈ s := by
  induction s using pieces_induction sep with
  | last s hs => simp [pieces_of_not_mem hs]
  | piece l r hl ih =>
    rw [pieces_append_cons hl, List.mem_append, List.mem_cons, ← ih]
    simp [hc]

theorem mem_joined {c : Char} (hc : c ≠ sep) {parts : List Text} :
    c ∈ joined [sep] parts ↔ ∃ part ∈ parts, c ∈ part := by
  induction parts with
  | nil => simp [joined]
  | cons part parts ih =>
    cases parts with
    | nil => simp [joined]
    | cons next parts =>
      rw [joined, List.mem_append, List.mem_append, ih]
      · simp [hc]
      · simp

/-- A separator at the end leaves an empty piece. -/
theorem nil_mem_pieces (sep : Char) (s : Text) : [] ∈ pieces sep (s ++ [sep]) := by
  induction s using pieces_induction sep with
  | last s h =>
    rw [pieces_append_cons h]
    simp [pieces]
  | piece l r h ih =>
    rw [List.append_assoc, List.cons_append, pieces_append_cons h]
    exact List.mem_cons_of_mem _ ih

theorem not_mem_of_cutLast?_eq_none (h : cutLast? sep s = none) : sep ∉ s := by
  induction s with
  | nil => simp
  | cons c s ih =>
    rw [cutLast?] at h
    split at h
    · simp at h
    · next hs =>
      have hc : c ≠ sep := fun hc => by simp [hc] at h
      simp [Ne.symm hc, ih hs]

theorem cutLast?_eq_none (h : sep ∉ s) : cutLast? sep s = none := by
  induction s with
  | nil => rfl
  | cons c s ih =>
    rw [List.mem_cons, not_or] at h
    rw [cutLast?, ih h.2]
    exact if_neg (Ne.symm h.1)

theorem cutLast?_eq_some {l r : Text} (h : cutLast? sep s = some (l, r)) :
    s = l ++ sep :: r ∧ sep ∉ r := by
  induction s generalizing l with
  | nil => simp [cutLast?] at h
  | cons c s ih =>
    rw [cutLast?] at h
    split at h
    · next l' r' hs =>
      obtain ⟨rfl, rfl⟩ := Prod.mk.inj (Option.some.inj h)
      exact ⟨congrArg (c :: ·) (ih hs).1, (ih hs).2⟩
    · next hs =>
      split at h
      · next hc =>
        obtain ⟨rfl, rfl⟩ := Prod.mk.inj (Option.some.inj h)
        exact ⟨by rw [hc, List.nil_append], not_mem_of_cutLast?_eq_none hs⟩
      · simp at h

/-! ## Leads -/

theorem after?_eq_some_iff {r : Text} : after? lead s = some r ↔ s = lead ++ r := by
  induction lead generalizing s with
  | nil => simp [after?]
  | cons c lead ih =>
    cases s with
    | nil => simp [after?]
    | cons d s =>
      by_cases h : c = d
      · simp [after?, h, ih]
      · simp [after?, h, Ne.symm h]

/-- A lead of characters of a class does not reach into a text that starts outside the class. -/
theorem after?_append {inside : Char → Bool} (hlead : ∀ c ∈ lead, inside c = true) {rest : Text}
    (hrest : ∀ c ∈ rest.head?, inside c = false) :
    after? lead (s ++ rest) = (after? lead s).map (· ++ rest) := by
  induction lead generalizing s with
  | nil => simp [after?]
  | cons c lead ih =>
    cases s with
    | nil =>
      cases rest with
      | nil => rfl
      | cons d rest =>
        have hd : inside d = false := hrest d rfl
        have hc : c ≠ d := fun h => by simp [← h, hlead c List.mem_cons_self] at hd
        simp [after?, hc]
    | cons d s =>
      by_cases h : c = d
      · simp [after?, h, ih fun c hc => hlead c (List.mem_cons_of_mem _ hc)]
      · simp [after?, h]

/-- A text is what stands before a part, the part, and what stands behind it. -/
theorem cut?_eq_some {l r : Text} (h : cut? part s = some (l, r)) : s = l ++ (part ++ r) := by
  induction s generalizing l with
  | nil =>
    obtain ⟨t, ht, he⟩ := Option.map_eq_some_iff.1 h
    obtain ⟨rfl, rfl⟩ := Prod.mk.inj he
    simpa using after?_eq_some_iff.1 ht
  | cons c s ih =>
    rw [cut?] at h
    split at h
    · next t ht =>
      obtain ⟨rfl, rfl⟩ := Prod.mk.inj (Option.some.inj h)
      simpa using after?_eq_some_iff.1 ht
    · obtain ⟨⟨l', r'⟩, hm, he⟩ := Option.map_eq_some_iff.1 h
      obtain ⟨rfl, rfl⟩ := Prod.mk.inj he
      rw [ih hm, List.cons_append]

/-- A part is found at the start of a text. -/
theorem cut?_append (part r : Text) : cut? part (part ++ r) = some ([], r) := by
  have hafter : after? part (part ++ r) = some r := after?_eq_some_iff.2 rfl
  generalize part ++ r = s at hafter ⊢
  cases s with
  | nil => rw [cut?, hafter, Option.map_some]
  | cons c s => rw [cut?, hafter]

theorem not_infix_of_occurs (h : occurs part s = false) : ¬part <:+: s := by
  rintro ⟨before, after, rfl⟩
  rw [List.append_assoc] at h
  induction before with
  | nil =>
    rw [List.nil_append, occurs, cut?_append] at h
    simp at h
  | cons c before ih =>
    rw [List.cons_append, occurs, cut?] at h
    split at h
    · simp at h
    · exact ih (Option.isSome_map.symm.trans h)

theorem occurs_iff : occurs part s = true ↔ part <:+: s := by
  constructor
  · intro h
    obtain ⟨⟨l, r⟩, hcut⟩ := Option.isSome_iff_exists.1 h
    exact ⟨l, r, by rw [cut?_eq_some hcut, List.append_assoc]⟩
  · intro h
    cases hoccurs : occurs part s with
    | true => rfl
    | false => exact absurd h (not_infix_of_occurs hoccurs)

theorem cut?_eq_none (h : ¬part <:+: s) : cut? part s = none := by
  cases hcut : cut? part s with
  | none => rfl
  | some m =>
    obtain ⟨l, r⟩ := m
    exact absurd ⟨l, r, by rw [cut?_eq_some hcut, List.append_assoc]⟩ h

/-! ## Parts across a join -/

/-- A part does not reach across the end of a text whose last character it holds at most as its own
last one. -/
theorem infix_append_of_getLast? {x : Char} {a b : Text} (hpart : x ∉ part.dropLast)
    (ha : a.getLast? = some x) (h : part <:+: a ++ b) : part <:+: a ∨ part <:+: b := by
  obtain h | h | ⟨front, back, rfl, hfront, hback⟩ := List.infix_append_iff.1 h
  · exact .inl h
  · exact .inr h
  · -- the part is cut by the join, so its front holds the character
    by_cases hnil : back = []
    · subst hnil
      rw [List.append_nil]
      exact .inl hfront.isInfix
    by_cases hempty : front = []
    · subst hempty
      exact .inr hback.isInfix
    obtain ⟨rest, rfl⟩ := hfront
    have hx : x ∈ front := by
      rw [List.getLast?_append, Option.or_of_isSome (by simpa using hempty)] at ha
      exact List.mem_of_getLast? ha
    rw [List.dropLast_append_of_ne_nil hnil] at hpart
    exact absurd (List.mem_append_left _ hx) hpart

/-- A part does not reach across a character that it does not hold. -/
theorem infix_append_cons {a b : Text} (hpart : sep ∉ part) (h : part <:+: a ++ sep :: b) :
    part <:+: a ∨ part <:+: b := by
  have hempty : ∀ front : Text, front <+: sep :: b → front ⊆ part → front = [] := by
    intro front hfront hsub
    obtain rfl | ⟨rest, rfl, -⟩ := List.prefix_cons_iff.1 hfront
    · rfl
    · exact absurd (hsub List.mem_cons_self) hpart
  obtain h | h | ⟨front, back, rfl, hfront, hback⟩ := List.infix_append_iff.1 h
  · exact .inl h
  · obtain h | h := List.infix_cons_iff.1 h
    · rw [hempty part h (List.Subset.refl part)]
      exact .inl (List.nil_infix)
    · exact .inr h
  · rw [hempty back hback (List.subset_append_right front back), List.append_nil]
    exact .inl hfront.isInfix

/-! ## Runs -/

section Runs

variable {p : Char → Bool} {run rest : Text}

theorem dropWhile_run (hrun : ∀ c ∈ run, p c = true) (hrest : ∀ c ∈ rest.head?, p c = false) :
    (run ++ rest).dropWhile p = rest := by
  rw [List.dropWhile_append_of_pos hrun]
  cases rest with
  | nil => rfl
  | cons c rest =>
    rw [List.dropWhile_cons_of_neg]
    rw [hrest c rfl]
    exact Bool.false_ne_true

theorem takeWhile_run (hrun : ∀ c ∈ run, p c = true) (hrest : ∀ c ∈ rest.head?, p c = false) :
    (run ++ rest).takeWhile p = run := by
  have hall := List.takeWhile_append_dropWhile (p := p) (l := run ++ rest)
  rw [dropWhile_run hrun hrest] at hall
  exact List.append_cancel_right hall

/-- Whether a text starts with a character of a class. -/
theorem startsWith_iff :
    (s.head?.map p).getD false = true ↔ s ≠ [] ∧ ∀ c ∈ s.head?, p c = true := by
  cases s <;> simp

theorem takeWhile_ne_nil (h : (s.head?.map p).getD false = true) : s.takeWhile p ≠ [] := by
  obtain ⟨hne, hhead⟩ := startsWith_iff.1 h
  obtain ⟨c, t, rfl⟩ := List.exists_cons_of_ne_nil hne
  rw [List.takeWhile_cons_of_pos (hhead c rfl)]
  exact List.cons_ne_nil _ _

theorem startsWith_run (hne : run ≠ []) (hrun : ∀ c ∈ run, p c = true) (rest : Text) :
    ((run ++ rest).head?.map p).getD false = true := by
  obtain ⟨c, t, rfl⟩ := List.exists_cons_of_ne_nil hne
  exact hrun c List.mem_cons_self

end Runs

end ClasspathProbe.Text
