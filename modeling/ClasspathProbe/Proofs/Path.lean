import ClasspathProbe.Path
import ClasspathProbe.Proofs.Text.Cut
import ClasspathProbe.Text

/-!
# Paths and their texts

A path is read back from its text (`ofText_toText`), so paths with one text are equal: comparing
paths is comparing their normalised texts. A path has a blank text exactly when it is one blank name
in the working directory (`isBlank_toText`).
-/

namespace ClasspathProbe.Path

variable {p q : Path}

/-! ## Joined parts -/

theorem pieces_joined {parts : List Text} (h : ∀ p ∈ parts, IsPart p) (hne : parts ≠ []) :
    Text.pieces '/' (Text.joined ['/'] parts) = parts := by
  rw [Text.pieces_eq_splitOn, Text.joined_eq_intercalate,
    List.splitOn_intercalate '/' (fun p hp => (h p hp).2.2) hne]

theorem partsOf_joined {parts : List Text} (h : ∀ p ∈ parts, IsPart p) :
    partsOf (Text.joined ['/'] parts) = parts := by
  by_cases hne : parts = []
  · subst hne
    rfl
  · rw [partsOf, pieces_joined h hne]
    exact List.filter_eq_self.2 fun p hp => decide_eq_true (h p hp)

/-- A part comes first in joined parts, and it starts with no slash. -/
theorem head?_joined_ne {parts : List Text} (h : ∀ p ∈ parts, IsPart p) :
    (Text.joined ['/'] parts).head? ≠ some '/' := by
  cases parts with
  | nil => simp [Text.joined]
  | cons a parts =>
    obtain ⟨hne, -, hslash⟩ := h a List.mem_cons_self
    obtain ⟨c, a', rfl⟩ := List.exists_cons_of_ne_nil hne
    have hc : c ≠ '/' := fun hc => hslash (by simp [hc])
    cases parts <;> simp [Text.joined, hc]

/-! ## Reading a text back -/

@[simp] theorem partsOf_slash (s : Text) : partsOf ('/' :: s) = partsOf s := by
  rw [partsOf, Text.pieces, if_pos rfl, List.filter_cons_of_neg (by simp [IsPart]), partsOf]

theorem partsOf_root (r : Root) (s : Text) : partsOf (r.toText ++ s) = partsOf s := by
  cases r <;> simp [Root.toText]

theorem rootOf_root (r : Root) {s : Text} (h : s.head? ≠ some '/') :
    rootOf (r.toText ++ s) = r := by
  have hs : s.takeWhile (· = '/') = [] := by
    cases s with
    | nil => rfl
    | cons c s => simp at h; simp [h]
  cases r <;> simp [rootOf, Root.toText, hs]

theorem toText_of_ne (h : ¬(p.root = .here ∧ p.parts = [])) :
    p.toText = p.root.toText ++ Text.joined ['/'] p.parts := if_neg h

/-- The text of a path reads as the path. -/
@[simp] theorem ofText_toText (p : Path) : ofText p.toText = p := by
  obtain ⟨root, parts, h⟩ := p
  rw [ofText, mk.injEq]
  by_cases hdot : root = .here ∧ parts = []
  · obtain ⟨rfl, rfl⟩ := hdot
    exact ⟨rfl, rfl⟩
  · rw [toText_of_ne hdot]
    exact ⟨rootOf_root root (head?_joined_ne h), by rw [partsOf_root, partsOf_joined h]⟩

theorem toText_ne_nil (p : Path) : p.toText ≠ [] := by
  intro h
  have hdot : p = .ofText [] := by rw [← ofText_toText p, h]
  rw [hdot] at h
  cases h

theorem toText_inj : p.toText = q.toText ↔ p = q :=
  ⟨fun h => by rw [← ofText_toText p, h, ofText_toText], congrArg toText⟩

/-! ## Absolute texts -/

/-- Reading and showing parts only leaves characters out. -/
theorem joined_partsOf_sublist (s : Text) : (Text.joined ['/'] (partsOf s)).Sublist s := by
  induction s using Text.pieces_induction '/' with
  | last s h =>
    rw [partsOf, Text.pieces_of_not_mem h]
    by_cases hs : IsPart s
    · rw [List.filter_cons_of_pos (by simpa using hs)]
      exact List.Sublist.refl s
    · rw [List.filter_cons_of_neg (by simpa using hs)]
      exact List.nil_sublist s
  | piece l r h ih =>
    rw [partsOf, Text.pieces_append_cons h]
    by_cases hl : IsPart l
    · rw [List.filter_cons_of_pos (by simpa using hl), ← partsOf]
      cases hr : partsOf r with
      | nil => exact List.sublist_append_left l _
      | cons q parts =>
        rw [hr] at ih
        rw [Text.joined, List.append_assoc]
        · exact (List.Sublist.refl l).append (ih.cons_cons '/')
        · exact List.cons_ne_nil q parts
    · rw [List.filter_cons_of_neg (by simpa using hl), ← partsOf]
      exact (ih.cons '/').trans (List.sublist_append_right l _)

theorem rootOf_slash_ne (s : Text) : rootOf ('/' :: s) ≠ .here := by
  simp only [rootOf, List.takeWhile_cons, decide_true, if_true, List.length_cons]
  split <;> simp_all

theorem head?_toText (h : p.root ≠ .here) : p.toText.head? = some '/' := by
  rw [toText_of_ne fun hdot => h hdot.1]
  cases hroot : p.root with
  | here => exact absurd hroot h
  | slash => rfl
  | twoSlashes => rfl

/-- The text of an absolute path is what was read with characters left out. -/
theorem toText_ofText_sublist {s : Text} (h : s.head? = some '/') :
    (ofText s).toText.Sublist s := by
  obtain ⟨s, rfl⟩ := List.head?_eq_some_iff.1 h
  rw [toText_of_ne fun hdot => rootOf_slash_ne s hdot.1]
  simp only [ofText]
  by_cases hs : s.head? = some '/'
  · obtain ⟨s, rfl⟩ := List.head?_eq_some_iff.1 hs
    rw [partsOf_slash, partsOf_slash]
    have htwo : (rootOf ('/' :: '/' :: s)).toText.Sublist ['/', '/'] := by
      cases rootOf ('/' :: '/' :: s) <;> simp [Root.toText]
    exact htwo.append (joined_partsOf_sublist s)
  · have hone : rootOf ('/' :: s) = .slash := rootOf_root .slash hs
    rw [hone, partsOf_slash]
    exact (joined_partsOf_sublist s).cons_cons '/'

theorem toText_sublist {s : Text} (hs : (ofText s).parts ≠ []) : (ofText s).toText.Sublist s := by
  by_cases hslash : s.head? = some '/'
  · exact toText_ofText_sublist hslash
  · have hhere : (ofText s).root = .here := rootOf_root .here hslash
    rw [toText_of_ne fun hdot => hs hdot.2, hhere]
    exact joined_partsOf_sublist s

/-- A name without NUL has none when it is shown as a path either. -/
theorem contains_toText {s : Text} (hclean : s.contains '\x00' = false) :
    (ofText s).toText.contains '\x00' = false := by
  by_cases hs : (ofText s).parts = []
  · rw [toText]
    simp only [hs]
    cases (ofText s).root <;> rfl
  · rw [Bool.eq_false_iff, ne_eq, List.contains_iff_mem] at hclean ⊢
    exact fun hmem => hclean ((toText_sublist hs).mem hmem)

theorem ofText_ne_here {s : Text} (h : s.head? = some '/') : (ofText s).root ≠ .here := by
  obtain ⟨rest, rfl⟩ := List.head?_eq_some_iff.1 h
  exact rootOf_slash_ne rest

theorem head?_of_ofText_ne_here {s : Text} (h : (ofText s).root ≠ .here) : s.head? = some '/' := by
  by_cases hs : s.head? = some '/'
  · exact hs
  · exact absurd (rootOf_root .here hs) h

theorem join_of_ne_here (p : Path) (h : q.root ≠ .here) : p.join q = q := by
  rw [join, if_pos]
  simpa [isAbsolute] using h

theorem join_ne_here (q : Path) (h : p.root ≠ .here) : (p.join q).root ≠ .here := by
  rw [join]
  split
  · next habs => simpa [isAbsolute] using habs
  · exact h

theorem normal_ne_here (h : p.root ≠ .here) : p.normal.root ≠ .here := by
  rw [normal]
  refine ofText_ne_here ?_
  cases hroot : p.root with
  | here => exact absurd hroot h
  | slash => rfl
  | twoSlashes => rfl

/-! ## Characters of a path -/

section Characters

variable {c : Char}

theorem not_mem_root (hslash : c ≠ '/') (r : Root) : c ∉ r.toText := by
  cases r <;> simp [Root.toText, hslash]

/-- A character that is neither a slash nor a dot stays when a text is read as a path. -/
theorem mem_ofText (hslash : c ≠ '/') (hdot : c ≠ '.') {s : Text} :
    (∃ part ∈ (ofText s).parts, c ∈ part) ↔ c ∈ s := by
  rw [← Text.exists_mem_pieces hslash]
  constructor
  · rintro ⟨part, hpart, hc⟩
    exact ⟨part, (List.mem_filter.1 hpart).1, hc⟩
  · rintro ⟨piece, hpiece, hc⟩
    have hne : piece ≠ [] := List.ne_nil_of_mem hc
    have hnotdot : piece ≠ ['.'] := by
      rintro rfl
      exact hdot (List.mem_singleton.1 hc)
    have hpart : IsPart piece := ⟨hne, hnotdot, Text.not_mem_of_mem_pieces hpiece⟩
    exact ⟨piece, List.mem_filter.2 ⟨hpiece, decide_eq_true hpart⟩, hc⟩

theorem mem_toText (hslash : c ≠ '/') (hdot : c ≠ '.') :
    c ∈ p.toText ↔ ∃ part ∈ p.parts, c ∈ part := by
  by_cases hnone : p.root = .here ∧ p.parts = []
  · rw [toText, if_pos hnone, hnone.2]
    simp [hdot]
  · rw [toText_of_ne hnone, List.mem_append, or_iff_right (not_mem_root hslash _),
      Text.mem_joined hslash]

theorem mem_toText_ofText (hslash : c ≠ '/') (hdot : c ≠ '.') {s : Text} :
    c ∈ (ofText s).toText ↔ c ∈ s := by
  rw [mem_toText hslash hdot, mem_ofText hslash hdot]

theorem mem_parts_join {part : Text} (h : part ∈ (p.join q).parts) :
    part ∈ p.parts ∨ part ∈ q.parts := by
  rw [join] at h
  split at h
  · exact .inr h
  · exact List.mem_append.1 h

theorem mem_foldl_of_step {step : List Text → Text → List Text}
    (hstep : ∀ kept part, ∀ q ∈ step kept part, q = part ∨ q ∈ kept) {parts kept : List Text}
    {part : Text} (h : part ∈ parts.foldl step kept) : part ∈ parts ∨ part ∈ kept := by
  induction parts generalizing kept with
  | nil => exact .inr h
  | cons next parts ih =>
    rcases ih h with hparts | hkept
    · exact .inl (List.mem_cons_of_mem next hparts)
    · rcases hstep kept next part hkept with rfl | hkept
      · exact .inl List.mem_cons_self
      · exact .inr hkept

/-- Taking steps back brings no character in. -/
theorem exists_mem_of_mem_normal (hslash : c ≠ '/') (hdot : c ≠ '.') (h : c ∈ p.normal.toText) :
    ∃ part ∈ p.parts, c ∈ part := by
  rw [normal, mem_toText_ofText hslash hdot, List.mem_append,
    or_iff_right (not_mem_root hslash _), Text.mem_joined hslash] at h
  obtain ⟨part, hkept, hc⟩ := h
  refine ⟨part, (mem_foldl_of_step ?_ (List.mem_reverse.1 hkept)).resolve_right ?_, hc⟩
  · intro kept part q hq
    split at hq
    · split at hq
      · split at hq
        · cases hq
        · exact .inl (List.mem_singleton.1 hq)
      · split at hq
        · exact List.mem_cons.1 hq
        · exact .inr (List.mem_cons_of_mem _ hq)
    · exact List.mem_cons.1 hq
  · exact List.not_mem_nil

end Characters

/-! ## Blank paths -/

/-- Whether a path is a single blank name, looked for in the working directory. -/
def IsBlankName (p : Path) : Prop := p.root = .here ∧ ∃ b, p.parts = [b] ∧ Text.isBlank b = true

theorem isBlank_toText : Text.isBlank p.toText = true ↔ p.IsBlankName := by
  obtain ⟨root, parts, h⟩ := p
  have hslash : ∀ s : Text, Text.isBlank ('/' :: s) = false := fun s => rfl
  cases root with
  | slash => simp [IsBlankName, toText, Root.toText, hslash]
  | twoSlashes => simp [IsBlankName, toText, Root.toText, hslash]
  | here =>
    match parts with
    | [] => simp [IsBlankName, toText, Text.isBlank, show Text.isSpace '.' = false from rfl]
    | [b] => simp [IsBlankName, toText, Root.toText, Text.joined]
    | b :: c :: parts =>
      simp [IsBlankName, toText, Root.toText, Text.joined, Text.isBlank,
        show Text.isSpace '/' = false from rfl]

end ClasspathProbe.Path
