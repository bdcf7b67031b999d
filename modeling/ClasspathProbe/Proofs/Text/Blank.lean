import ClasspathProbe.Text
import Mathlib.Data.List.DropRight

/-!
# Texts without outer blanks

Stripping a text leaves nothing only when the text is blank; else what is left starts and ends with
a visible character (`isTrimmed_strip`), and blanks put behind the text make no difference
(`strip_append`).
-/

namespace ClasspathProbe.Text

variable {s t blanks : Text}

/-- A text that starts and ends with a visible character. -/
structure IsTrimmed (s : Text) : Prop where
  ne_nil : s ≠ []
  head : ∀ c ∈ s.head?, isSpace c = false
  last : ∀ c ∈ s.getLast?, isSpace c = false

instance (s : Text) : Decidable s.IsTrimmed :=
  decidable_of_iff
    (!s.isEmpty && s.head?.all (fun c => !isSpace c) && s.getLast?.all (fun c => !isSpace c)) <| by
      simp only [Bool.and_eq_true, Bool.not_eq_true', List.isEmpty_eq_false_iff,
        Option.all_eq_true, and_assoc]
      exact ⟨fun h => ⟨h.1, h.2.1, h.2.2⟩, fun h => ⟨h.ne_nil, h.head, h.last⟩⟩

theorem stripEnd_eq_rdropWhile (s : Text) : stripEnd s = s.rdropWhile isSpace := rfl

theorem stripEnd_append (hblanks : ∀ c ∈ blanks, isSpace c = true) (s : Text) :
    stripEnd (s ++ blanks) = stripEnd s := by
  rw [stripEnd, List.reverse_append,
    List.dropWhile_append_of_pos fun c hc => hblanks c (List.mem_reverse.1 hc), stripEnd]

theorem stripEnd_of_last (h : ∀ c ∈ s.getLast?, isSpace c = false) : stripEnd s = s := by
  rw [stripEnd_eq_rdropWhile, List.rdropWhile_eq_self_iff]
  intro hne
  rw [h _ (List.getLast?_eq_some_getLast hne)]
  exact Bool.false_ne_true

theorem stripStart_of_head (h : ∀ c ∈ s.head?, isSpace c = false) : stripStart s = s := by
  cases s with
  | nil => rfl
  | cons c s =>
    rw [stripStart, List.dropWhile_cons_of_neg]
    rw [h c rfl]
    exact Bool.false_ne_true

/-- What stripping takes from the end of a text is blank. -/
theorem exists_stripEnd_append (s : Text) :
    ∃ blanks, s = stripEnd s ++ blanks ∧ ∀ c ∈ blanks, isSpace c = true := by
  refine ⟨(s.reverse.takeWhile isSpace).reverse, ?_, ?_⟩
  · rw [stripEnd, ← List.reverse_append, List.takeWhile_append_dropWhile, List.reverse_reverse]
  · intro c hc
    exact List.all_eq_true.1 List.all_takeWhile c (List.mem_reverse.1 hc)

theorem last_stripEnd (s : Text) : ∀ c ∈ (stripEnd s).getLast?, isSpace c = false := by
  intro c hc
  rw [stripEnd, List.getLast?_reverse] at hc
  have hhead := List.head?_dropWhile_not isSpace s.reverse
  rw [Option.mem_def.1 hc] at hhead
  simpa using hhead

theorem isTrimmed_stripEnd (hne : s ≠ []) (h : ∀ c ∈ s.head?, isSpace c = false) :
    (stripEnd s).IsTrimmed := by
  obtain ⟨blanks, hs, hblanks⟩ := exists_stripEnd_append s
  have hleft : stripEnd s ≠ [] := by
    intro hnil
    rw [hnil, List.nil_append] at hs
    obtain ⟨c, r, hr⟩ := List.exists_cons_of_ne_nil hne
    have hspace := hblanks c (by rw [← hs, hr]; exact List.mem_cons_self)
    rw [h c (by rw [hr]; rfl)] at hspace
    exact Bool.false_ne_true hspace
  refine ⟨hleft, ?_, last_stripEnd s⟩
  intro c hc
  refine h c ?_
  rw [hs, List.head?_append_of_ne_nil _ hleft]
  exact hc

theorem isTrimmed_strip (h : s.isBlank = false) : s.strip.IsTrimmed := by
  refine isTrimmed_stripEnd ?_ ?_
  · intro hnil
    have hall : ∀ c ∈ s, isSpace c = true := List.dropWhile_eq_nil_iff.1 hnil
    rw [isBlank, List.all_eq_true.2 hall] at h
    cases h
  · intro c hc
    have hhead := List.head?_dropWhile_not isSpace s
    rw [show (s.dropWhile isSpace).head? = some c from hc] at hhead
    simpa using hhead

theorem IsTrimmed.strip_eq (h : s.IsTrimmed) : s.strip = s := by
  rw [strip, stripStart_of_head h.head, stripEnd_of_last h.last]

theorem IsTrimmed.not_isBlank (h : s.IsTrimmed) : s.isBlank = false := by
  obtain ⟨c, r, rfl⟩ := List.exists_cons_of_ne_nil h.ne_nil
  rw [isBlank, List.all_cons, h.head c rfl, Bool.false_and]

theorem strip_append (hblanks : ∀ c ∈ blanks, isSpace c = true) (s : Text) :
    strip (s ++ blanks) = strip s := by
  rw [strip, strip, stripStart, stripStart, List.dropWhile_append]
  split
  next hnil =>
    -- nothing visible comes before the blanks
    have hs : s.dropWhile isSpace = [] := by simpa using hnil
    rw [List.dropWhile_eq_nil_iff.2 hblanks, hs]
  next => exact stripEnd_append hblanks _

end ClasspathProbe.Text
