import ClasspathProbe.Proofs.Text.Blank
import ClasspathProbe.Proofs.Text.Cut
import ClasspathProbe.Proofs.Text.Lines

/-!
# Returns before line feeds

A text as Windows ends its lines. Cutting off a lead, or a run of characters to which both or
neither of carriage return and line feed belong, gives the same as without the returns, with returns
in what is left. The lines are the same (`lines_withReturns`).
-/

namespace ClasspathProbe.Text

variable {s t line : Text} {c : Char}

/-- A text with a carriage return before every line feed. -/
def withReturns (s : Text) : Text := s.flatMap fun c => if c = '\n' then ['\r', '\n'] else [c]

theorem withReturns_feed (s : Text) : withReturns ('\n' :: s) = '\r' :: '\n' :: withReturns s := rfl

theorem withReturns_cons (h : c ≠ '\n') (s : Text) : withReturns (c :: s) = c :: withReturns s := by
  rw [withReturns, List.flatMap_cons, if_neg h]
  rfl

theorem withReturns_append (s t : Text) :
    withReturns (s ++ t) = withReturns s ++ withReturns t := List.flatMap_append

theorem withReturns_of_not_mem (h : '\n' ∉ s) : withReturns s = s := by
  induction s with
  | nil => rfl
  | cons c s ih =>
    rw [List.mem_cons, not_or] at h
    rw [withReturns_cons (Ne.symm h.1), ih h.2]

/-! ## Leads and runs -/

/-- Whether a text has neither carriage return nor line feed. -/
def HasNoEnds (s : Text) : Prop := ∀ c ∈ s, c ≠ '\r' ∧ c ≠ '\n'

instance (s : Text) : Decidable s.HasNoEnds :=
  decidable_of_iff (s.all fun c => c != '\r' && c != '\n') (by simp [HasNoEnds])

theorem after?_withReturns {lead : Text} (h : lead.HasNoEnds) (s : Text) :
    after? lead (withReturns s) = (after? lead s).map withReturns := by
  induction lead generalizing s with
  | nil => rfl
  | cons d lead ih =>
    obtain ⟨⟨hreturn, hfeed⟩, hlead⟩ := List.forall_mem_cons.1 h
    cases s with
    | nil => rfl
    | cons c s =>
      by_cases hc : c = '\n'
      · subst hc
        rw [withReturns_feed, after?, if_neg hreturn, after?, if_neg hfeed]
        rfl
      · rw [withReturns_cons hc, after?, after?]
        split
        · exact ih hlead s
        · rfl

theorem occurs_cons (part : Text) (c : Char) (s : Text) :
    occurs part (c :: s) = ((after? part (c :: s)).isSome || occurs part s) := by
  rw [occurs, cut?]
  cases after? part (c :: s) with
  | some r => rfl
  | none => exact Option.isSome_map

theorem occurs_withReturns {part : Text} (hne : part ≠ []) (h : part.HasNoEnds) (s : Text) :
    occurs part (withReturns s) = occurs part s := by
  obtain ⟨d, part, rfl⟩ := List.exists_cons_of_ne_nil hne
  obtain ⟨hreturn, hfeed⟩ := h d List.mem_cons_self
  induction s with
  | nil => rfl
  | cons c s ih =>
    by_cases hc : c = '\n'
    · subst hc
      rw [withReturns_feed, occurs_cons, occurs_cons, occurs_cons, ih, after?, if_neg hreturn,
        after?, if_neg hfeed, after?, if_neg hfeed]
      rfl
    · have hafter := after?_withReturns h (c :: s)
      rw [withReturns_cons hc] at hafter ⊢
      rw [occurs_cons, occurs_cons, hafter, ih, Option.isSome_map]

section Runs

variable {p : Char → Bool} (hp : p '\r' = p '\n')

include hp

theorem head?_withReturns (s : Text) : (withReturns s).head?.map p = s.head?.map p := by
  cases s with
  | nil => rfl
  | cons c s =>
    by_cases hc : c = '\n'
    · subst hc
      exact congrArg some hp
    · rw [withReturns_cons hc]
      rfl

theorem dropWhile_withReturns (s : Text) :
    (withReturns s).dropWhile p = withReturns (s.dropWhile p) := by
  induction s with
  | nil => rfl
  | cons c s ih =>
    by_cases hc : c = '\n'
    · subst hc
      rw [withReturns_feed, List.dropWhile_cons, List.dropWhile_cons, List.dropWhile_cons, hp, ih]
      split <;> rfl
    · rw [withReturns_cons hc, List.dropWhile_cons, List.dropWhile_cons, ih]
      split
      · rfl
      · rw [withReturns_cons hc]

end Runs

/-- The first line of a text gains a return at most, which is blank. -/
theorem strip_takeWhile_withReturns (s : Text) :
    strip ((withReturns s).takeWhile (· ≠ '\n')) = strip (s.takeWhile (· ≠ '\n')) := by
  have hinside : ∀ {line : Text}, '\n' ∉ line → ∀ c ∈ line, decide (c ≠ '\n') = true :=
    fun h c hc => decide_eq_true fun heq => h (heq ▸ hc)
  by_cases h : '\n' ∈ s
  · obtain ⟨line, rest, rfl, hline⟩ := List.eq_append_cons_of_mem h
    have hfirst : (line ++ '\n' :: rest).takeWhile (· ≠ '\n') = line :=
      takeWhile_run (hinside hline) fun c hc => by cases hc; rfl
    have hgained : ((line ++ ['\r']) ++ '\n' :: withReturns rest).takeWhile (· ≠ '\n') =
        line ++ ['\r'] := by
      refine takeWhile_run (List.forall_mem_append.2 ⟨hinside hline, ?_⟩) fun c hc => ?_
      · exact List.forall_mem_singleton.2 rfl
      · cases hc
        rfl
    rw [withReturns_append, withReturns_of_not_mem hline, withReturns_feed,
      List.append_cons line '\r', hgained, hfirst]
    exact strip_append (List.forall_mem_singleton.2 rfl) line
  · rw [withReturns_of_not_mem h]

/-! ## Lines -/

theorem IsOneLine.not_mem_feed (h : line.IsOneLine) : '\n' ∉ line := fun hmem =>
  Bool.false_ne_true (h _ hmem).symm

theorem IsLines.withReturns {ls : List Text} (h : IsLines s ls) (hs : '\r' ∉ s) :
    IsLines s.withReturns ls := by
  induction h with
  | nil => exact .nil
  | last hne hline =>
    rw [withReturns_of_not_mem hline.not_mem_feed]
    exact .last hne hline
  | @ended line ending rest ls hline hending hrest ih =>
    rw [List.mem_append, List.mem_append, not_or, not_or] at hs
    obtain ⟨-, hreturn, hrestReturn⟩ := hs
    rw [withReturns_append, withReturns_append, withReturns_of_not_mem hline.not_mem_feed]
    refine .ended hline ?_ (ih hrestReturn)
    cases hending with
    | pair => exact absurd List.mem_cons_self hreturn
    | @sole c _ hc hpair =>
      by_cases hfeed : c = '\n'
      · subst hfeed
        exact .pair _
      · have hne : c ≠ '\r' := fun heq => hreturn (heq ▸ List.mem_cons_self)
        rw [withReturns_of_not_mem (by simpa using Ne.symm hfeed)]
        exact .sole hc fun heq => absurd heq hne

theorem lines_withReturns (h : '\r' ∉ s) : lines s.withReturns = lines s :=
  isLines_iff.1 ((isLines_iff.2 rfl).withReturns h)

end ClasspathProbe.Text
