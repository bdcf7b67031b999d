import ClasspathProbe.Text
import Mathlib.Data.List.Basic

/-!
# The lines of a text

The lines of a text are what stands between its line ends (`IsLines`), and reading them one
character after the other gives just these (`isLines_iff`). A part without line ends stands inside
one of the lines (`IsLines.exists_of_append`).
-/

namespace ClasspathProbe.Text

variable {s line ending rest : Text} {ls : List Text} {c : Char}

/-- Whether a text has no character that ends a line. -/
def IsOneLine (s : Text) : Prop := ∀ c ∈ s, isLineBoundary c = false

instance (s : Text) : Decidable s.IsOneLine :=
  decidable_of_iff (s.all fun c => !isLineBoundary c) (by simp [IsOneLine])

/-- The end of a line, in front of the rest of a text: carriage return with line feed, or one
character that is not the first of these two. -/
inductive IsLineEnd : Text → Text → Prop where
  | pair (rest : Text) : IsLineEnd ['\r', '\n'] rest
  | sole {c : Char} {rest : Text} (hc : isLineBoundary c = true)
    (hpair : c = '\r' → rest.head? ≠ some '\n') : IsLineEnd [c] rest

/-- The lines of a text. Behind the last line end there is a line only when there is something. -/
inductive IsLines : Text → List Text → Prop where
  | nil : IsLines [] []
  | last {line : Text} (hne : line ≠ []) (hline : line.IsOneLine) : IsLines line [line]
  | ended {line ending rest : Text} {ls : List Text} (hline : line.IsOneLine)
    (hending : IsLineEnd ending rest) (hrest : IsLines rest ls) :
    IsLines (line ++ (ending ++ rest)) (line :: ls)

/-! ## Reading lines -/

theorem linesFrom_cons (h : isLineBoundary c = false) (line s : Text) :
    linesFrom line (c :: s) = linesFrom (c :: line) s := by
  rw [linesFrom.eq_def]
  split
  next hcons => cases hcons
  next hcons =>
    obtain rfl := (List.cons.inj hcons).1
    cases h
  next hcons =>
    obtain ⟨rfl, rfl⟩ := List.cons.inj hcons
    rw [h]
    rfl

theorem linesFrom_append (h : line.IsOneLine) (read s : Text) :
    linesFrom read (line ++ s) = linesFrom (line.reverse ++ read) s := by
  induction line generalizing read with
  | nil => rfl
  | cons c line ih =>
    obtain ⟨hc, hline⟩ := List.forall_mem_cons.1 h
    rw [List.cons_append, linesFrom_cons hc, ih hline, List.reverse_cons, List.append_assoc]
    rfl

theorem linesFrom_ending (h : IsLineEnd ending rest) (line : Text) :
    linesFrom line (ending ++ rest) = line.reverse :: lines rest := by
  cases h with
  | pair => rfl
  | @sole c _ hc hpair =>
    rw [List.singleton_append, linesFrom.eq_def]
    split
    next hcons => cases hcons
    next hcons =>
      obtain ⟨rfl, rfl⟩ := List.cons.inj hcons
      exact absurd rfl (hpair rfl)
    next hcons =>
      obtain ⟨rfl, rfl⟩ := List.cons.inj hcons
      rw [hc]
      rfl

theorem IsLines.lines_eq (h : IsLines s ls) : lines s = ls := by
  induction h with
  | nil => rfl
  | @last line hne hline =>
    have hlast := linesFrom_append hline [] []
    rw [List.append_nil, List.append_nil] at hlast
    rw [lines, hlast, linesFrom, if_neg (by simpa using hne), List.reverse_reverse]
  | @ended line ending rest ls hline hending hrest ih =>
    rw [lines, linesFrom_append hline, linesFrom_ending hending, ih]
    simp

theorem IsOneLine.reverse (h : line.IsOneLine) : IsOneLine line.reverse := fun c hc =>
  h c (List.mem_reverse.1 hc)

theorem isLines_linesFrom (line s : Text) (h : line.IsOneLine) :
    IsLines (line.reverse ++ s) (linesFrom line s) := by
  induction line, s using linesFrom.induct with
  | case1 line hempty =>
    obtain rfl := List.isEmpty_iff.1 hempty
    exact .nil
  | case2 line hfull =>
    rw [linesFrom, if_neg hfull, List.append_nil]
    exact .last (by simpa using hfull) h.reverse
  | case3 line s ih =>
    rw [linesFrom]
    exact .ended h.reverse (.pair s) (ih nofun)
  | case4 line c s hpair hc ih =>
    have hending : IsLineEnd [c] s := by
      refine .sole hc fun hreturn hfeed => ?_
      obtain ⟨rest, rfl⟩ := List.head?_eq_some_iff.1 hfeed
      exact hpair rest hreturn rfl
    rw [show c :: s = [c] ++ s from rfl, linesFrom_ending hending]
    exact .ended h.reverse hending (ih nofun)
  | case5 line c s hpair hc ih =>
    have hc : isLineBoundary c = false := by simpa using hc
    rw [linesFrom_cons hc]
    have hlines := ih (List.forall_mem_cons.2 ⟨hc, h⟩)
    rwa [List.reverse_cons, List.append_assoc] at hlines

/-- **The lines that are read are the lines of the text.** -/
theorem isLines_iff : IsLines s ls ↔ lines s = ls := by
  constructor
  · exact IsLines.lines_eq
  · rintro rfl
    exact isLines_linesFrom [] s nofun

/-! ## Parts of lines -/

theorem IsLineEnd.ne_nil (h : IsLineEnd ending rest) : ending ≠ [] := by
  cases h <;> exact nofun

theorem IsLineEnd.isLineBoundary (h : IsLineEnd ending rest) (hc : c ∈ ending) :
    isLineBoundary c = true := by
  cases h with
  | pair =>
    simp only [List.mem_cons, List.not_mem_nil, or_false] at hc
    obtain rfl | rfl := hc <;> rfl
  | sole h => rwa [List.mem_singleton.1 hc]

/-- Two parts of a text that have no character in common stand beside each other. -/
theorem beside_of_append {before part after : Text} (hending : ending ≠ []) (hpart : part ≠ [])
    (hapart : ∀ c ∈ part, c ∉ ending) (h : line ++ (ending ++ rest) = before ++ (part ++ after)) :
    (∃ r, line = before ++ (part ++ r) ∧ after = r ++ (ending ++ rest)) ∨
      ∃ d, before = line ++ (ending ++ d) ∧ rest = d ++ (part ++ after) := by
  obtain ⟨d, rfl, hd⟩ | ⟨d, rfl, hd⟩ := List.append_eq_append_iff.1 h
  · right
    obtain ⟨f, rfl, hf⟩ | ⟨f, rfl, hf⟩ := List.append_eq_append_iff.1 hd
    · exact ⟨f, rfl, hf⟩
    · cases f with
      | nil => exact ⟨[], by simp, hf.symm⟩
      | cons c f =>
        obtain ⟨x, part, rfl⟩ := List.exists_cons_of_ne_nil hpart
        obtain rfl := (List.cons.inj hf).1
        exact absurd (List.mem_append_right d List.mem_cons_self) (hapart x List.mem_cons_self)
  · left
    obtain ⟨f, rfl, hf⟩ | ⟨f, rfl, hf⟩ := List.append_eq_append_iff.1 hd
    · exact ⟨f, rfl, hf⟩
    · cases f with
      | nil => exact ⟨[], by simp, hf.symm⟩
      | cons c f =>
        obtain ⟨x, ending, rfl⟩ := List.exists_cons_of_ne_nil hending
        obtain rfl := (List.cons.inj hf).1
        exact absurd List.mem_cons_self
          (hapart x (List.mem_append_right d List.mem_cons_self))

/-- A part without line ends stands in one of the lines, at the same place of the text. -/
theorem IsLines.exists_of_append {before part after : Text} (h : IsLines s ls)
    (hs : s = before ++ (part ++ after)) (hne : part ≠ []) (hpart : part.IsOneLine) :
    ∃ l r, l <:+ before ∧ r <+: after ∧ l ++ (part ++ r) ∈ ls := by
  induction h generalizing before with
  | nil =>
    have hnil := List.append_eq_nil_iff.1 hs.symm
    exact absurd (List.append_eq_nil_iff.1 hnil.2).1 hne
  | last =>
    subst hs
    exact ⟨before, after, List.suffix_rfl, List.prefix_rfl, List.mem_singleton_self _⟩
  | @ended line ending rest ls hline hending hrest ih =>
    have hapart : ∀ c ∈ part, c ∉ ending := fun c hc hend =>
      Bool.false_ne_true ((hpart c hc).symm.trans (hending.isLineBoundary hend))
    obtain ⟨r, rfl, rfl⟩ | ⟨d, rfl, hd⟩ := beside_of_append hending.ne_nil hne hapart hs
    · exact ⟨before, r, List.suffix_rfl, List.prefix_append r _, List.mem_cons_self⟩
    · obtain ⟨l, r, hl, hr, hmem⟩ := ih hd
      refine ⟨l, r, hl.trans ?_, hr, List.mem_cons_of_mem _ hmem⟩
      exact (List.suffix_append ending d).trans (List.suffix_append line _)

end ClasspathProbe.Text
