import ClasspathProbe.Marker
import ClasspathProbe.Proofs.Text.Pattern

/-!
# Marker lines, line by line

The two patterns search a whole output at once; here their findings are told from its lines. Only a
line that has been ended counts, and of it only what is left to be read when the terminal has obeyed
its carriage returns (`visible`). In that text a pattern finds at most one match, behind the first
occurrence of its marker, and what it captures depends on nothing else (`findAll_eq_filterMap`).
-/

namespace ClasspathProbe.Marker

open Text (Pattern Piece)

/-! ## Lines -/

/-- The lines of an output that have been ended, without their line feeds. -/
def endedLines (output : Text) : List Text := (Text.pieces '\n' output).dropLast

/-- What counts of a line: one carriage return at its end is part of the line's end, and any other
hides what stands before it. -/
def visible (line : Text) : Text :=
  let kept := if Text.endsWith ['\r'] line then line.dropLast else line
  match Text.cutLast? '\r' kept with
  | some (_, text) => text
  | none => kept

theorem inLine_iff {c : Char} : inLine c = true ↔ c ≠ '\r' ∧ c ≠ '\n' := by simp [inLine]

theorem endedLines_of_not_mem {s : Text} (h : '\n' ∉ s) : endedLines s = [] := by
  rw [endedLines, Text.pieces_of_not_mem h]
  rfl

theorem endedLines_append_cons {l : Text} (h : '\n' ∉ l) (r : Text) :
    endedLines (l ++ '\n' :: r) = l :: endedLines r := by
  rw [endedLines, Text.pieces_append_cons h, List.dropLast_cons_of_ne_nil (Text.pieces_ne_nil _ r),
    endedLines]

theorem not_mem_of_mem_endedLines {output line : Text} (h : line ∈ endedLines output) :
    '\n' ∉ line := by
  induction output using Text.pieces_induction '\n' with
  | last s hs => simp [endedLines_of_not_mem hs] at h
  | piece l r hl ih =>
    rw [endedLines_append_cons hl, List.mem_cons] at h
    obtain rfl | h := h
    · exact hl
    · exact ih h

/-- A line is a hidden part that stops behind a carriage return, the visible text, and perhaps the
carriage return of its end. -/
structure Layout (line hidden text ending : Text) : Prop where
  eq : line = hidden ++ (text ++ ending)
  clean : '\r' ∉ text
  ending_eq : ending = [] ∨ ending = ['\r']
  hidden_eq : hidden = [] ∨ ∃ before, hidden = before ++ ['\r']
  /-- The return of the line's end is not taken for one that hides. -/
  last_is_ending : text ++ ending = [] → hidden = []

theorem exists_layout (line : Text) :
    ∃ hidden ending, Layout line hidden (visible line) ending := by
  have hsplit : ∀ kept : Text, ∃ hidden text, kept = hidden ++ text ∧ '\r' ∉ text ∧
      (hidden = [] ∨ ∃ before, hidden = before ++ ['\r']) ∧
      text = match Text.cutLast? '\r' kept with | some (_, text) => text | none => kept := by
    intro kept
    cases h : Text.cutLast? '\r' kept with
    | none => exact ⟨[], kept, rfl, Text.not_mem_of_cutLast?_eq_none h, .inl rfl, rfl⟩
    | some m =>
      obtain ⟨before, text⟩ := m
      obtain ⟨he, hclean⟩ := Text.cutLast?_eq_some h
      exact ⟨before ++ ['\r'], text, by simp [he], hclean, .inr ⟨before, rfl⟩, rfl⟩
  by_cases h : Text.endsWith ['\r'] line = true
  · obtain ⟨kept, rfl⟩ := List.isSuffixOf_iff_suffix.1 h
    obtain ⟨hidden, text, he, hclean, hhidden, htext⟩ := hsplit kept
    have hv : visible (kept ++ ['\r']) = text := by
      rw [visible, if_pos h, List.dropLast_concat, htext]
    refine ⟨hidden, ['\r'], ?_⟩
    rw [hv]
    exact ⟨by rw [he, List.append_assoc], hclean, .inr rfl, hhidden, by simp⟩
  · obtain ⟨hidden, text, he, hclean, hhidden, htext⟩ := hsplit line
    have hv : visible line = text := by rw [visible, if_neg h, htext]
    refine ⟨hidden, [], ?_⟩
    rw [hv]
    refine ⟨by rw [List.append_nil, he], hclean, .inl rfl, hhidden, fun hnil => ?_⟩
    rw [List.append_nil] at hnil
    rw [hnil, List.append_nil] at he
    obtain hh | ⟨before, hb⟩ := hhidden
    · exact hh
    · exact absurd (List.isSuffixOf_iff_suffix.2 ⟨before, (he.trans hb).symm⟩) h

theorem inLine_of_mem_visible {line : Text} (hline : '\n' ∉ line) :
    ∀ c ∈ visible line, inLine c = true := by
  obtain ⟨hidden, ending, h⟩ := exists_layout line
  intro c hc
  refine inLine_iff.2 ⟨fun he => h.clean (he ▸ hc), fun he => hline ?_⟩
  rw [h.eq, ← he]
  simp [hc]

/-! ## Line ends -/

theorem match?_lineEnd_feed (rest : Text) :
    Pattern.match? lineEnd ('\n' :: rest) = some ([], rest) := by
  simp [lineEnd, Pattern.match?, Text.after?]

theorem match?_lineEnd_return (rest : Text) :
    Pattern.match? lineEnd ('\r' :: '\n' :: rest) = some ([], rest) := by
  simp [lineEnd, Pattern.match?, Text.after?]

theorem match?_lineEnd_of_inLine (c : Char) (s : Text) (h : inLine c = true) :
    Pattern.match? lineEnd (c :: s) = none := by
  obtain ⟨hr, hn⟩ := inLine_iff.1 h
  simp [lineEnd, Pattern.match?, Text.after?, Ne.symm hr, Ne.symm hn]

theorem match?_lineEnd_return_cons {c : Char} (s : Text) (h : c ≠ '\n') :
    Pattern.match? lineEnd ('\r' :: c :: s) = none := by
  simp [lineEnd, Pattern.match?, Text.after?, Ne.symm h]

theorem match?_lineEnd_of_not_mem {s : Text} (h : '\n' ∉ s) : Pattern.match? lineEnd s = none := by
  cases s with
  | nil => rfl
  | cons c s =>
    have hc : c ≠ '\n' := fun hc => h (by simp [hc])
    by_cases hr : c = '\r'
    · subst hr
      cases s with
      | nil => simp [lineEnd, Pattern.match?, Text.after?]
      | cons d s => exact match?_lineEnd_return_cons s fun hd => h (by simp [hd])
    · exact match?_lineEnd_of_inLine c s (inLine_iff.2 ⟨hr, hc⟩)

/-! ## Searching an output -/

/-- What a pattern reads when it starts at a text and stops at the line's end. -/
def readLine? (p : Pattern) (s : Text) : Option (List Text) :=
  let rest := s.dropWhile inLine
  if rest = [] ∨ rest = ['\r'] then p.whole? (s.takeWhile inLine) else none

theorem takeWhile_inLine (s : Text) : ∀ c ∈ s.takeWhile inLine, inLine c = true :=
  List.all_eq_true.1 List.all_takeWhile

section Search

variable {p : Pattern} (hp : ∀ piece ∈ p, Piece.Within inLine piece)

include hp in
theorem match?_line {s : Text} (hs : '\n' ∉ s) (rest : Text) :
    Pattern.match? (p ++ lineEnd) (s ++ '\n' :: rest) =
      (readLine? p s).map fun runs => (runs, rest) := by
  have hsplit : s ++ '\n' :: rest =
      s.takeWhile inLine ++ (s.dropWhile inLine ++ '\n' :: rest) := by
    rw [← List.append_assoc, List.takeWhile_append_dropWhile]
  have hmem : ∀ c ∈ s.dropWhile inLine, c ≠ '\n' := fun c hc he =>
    hs (he ▸ (List.dropWhile_suffix inLine).subset hc)
  have hhead := List.head?_dropWhile_not inLine s
  have hmatch := fun {rest : Text} (h : ∀ c ∈ rest.head?, inLine c = false) =>
    Text.Pattern.match?_append h match?_lineEnd_of_inLine hp (takeWhile_inLine s)
  rw [hsplit]
  cases hd : s.dropWhile inLine with
  | nil =>
    rw [List.nil_append, hmatch (by simp [inLine]), match?_lineEnd_feed]
    simp [readLine?, hd]
  | cons c d =>
    rw [hd] at hmem hhead
    have hc : c = '\r' := by
      have hout : inLine c = false := by simpa using hhead
      simpa [inLine, hmem c List.mem_cons_self] using hout
    subst hc
    rw [List.cons_append, hmatch (by simp [inLine])]
    -- the return belongs to the line's end only when the line feed follows it at once
    cases d with
    | nil =>
      rw [List.nil_append, match?_lineEnd_return]
      simp [readLine?, hd]
    | cons c d =>
      rw [List.cons_append,
        match?_lineEnd_return_cons _ (hmem c (List.mem_cons_of_mem _ List.mem_cons_self))]
      simp [readLine?, hd]

include hp in
theorem match?_unended {s : Text} (hs : '\n' ∉ s) : Pattern.match? (p ++ lineEnd) s = none := by
  have hrest : '\n' ∉ s.dropWhile inLine := fun h => hs ((List.dropWhile_suffix inLine).subset h)
  have hhead : ∀ c ∈ (s.dropWhile inLine).head?, inLine c = false := fun c hc => by
    have h := List.head?_dropWhile_not inLine s
    rw [Option.mem_def.1 hc] at h
    simpa using h
  rw [show s = s.takeWhile inLine ++ s.dropWhile inLine from
      List.takeWhile_append_dropWhile.symm,
    Text.Pattern.match?_append hhead match?_lineEnd_of_inLine hp (takeWhile_inLine s),
    match?_lineEnd_of_not_mem hrest, Option.bind_none]

/-- Nothing is read from a place before the last carriage return that hides. -/
theorem readLine?_hidden {u s : Text} (hs : s ≠ []) : readLine? p (u ++ '\r' :: s) = none := by
  have hsuffix : '\r' :: s <:+ (u ++ '\r' :: s).dropWhile inLine := by
    induction u with
    | nil => simp [inLine]
    | cons c u ih =>
      rw [List.cons_append, List.dropWhile_cons]
      split
      · exact ih
      · exact ((List.suffix_append u _).trans (List.suffix_cons c _))
  have hlen := hsuffix.length_le
  have hpos := List.length_pos_iff.2 hs
  rw [readLine?, if_neg]
  rintro (h | h) <;> rw [h] at hlen <;>
    simp only [List.length_cons, List.length_nil] at hlen <;> omega

/-- In a line, a pattern is matched in the visible text alone. -/
theorem firstAt_readLine? {line : Text} (hline : '\n' ∉ line) :
    Text.firstAt (readLine? p) line = Text.firstAt p.whole? (visible line) := by
  have hclean := inLine_of_mem_visible hline
  obtain ⟨hidden, ending, h⟩ := exists_layout line
  generalize visible line = text at hclean h ⊢
  -- nothing is read before the visible text, and in it the line's end adds nothing
  rw [h.eq, Text.firstAt_append fun u hu hne => ?_, Text.firstAt_congr fun u hu => ?_]
  · obtain he | he := h.ending_eq
    · subst he
      rfl
    · rw [he, Text.firstAt]
      have hread : readLine? p ['\r'] = p.whole? [] := by simp [readLine?, inLine]
      rw [hread]
      cases hw : p.whole? [] with
      | some runs => rfl
      | none => exact hw
  · have hu' : ∀ c ∈ u, inLine c = true := fun c hc => hclean c (hu.subset hc)
    have htake : (u ++ ending).takeWhile inLine = u ++ ending.takeWhile inLine :=
      List.takeWhile_append_of_pos hu'
    have hdrop : (u ++ ending).dropWhile inLine = ending.dropWhile inLine :=
      List.dropWhile_append_of_pos hu'
    rw [readLine?, htake, hdrop]
    obtain rfl | rfl := h.ending_eq <;> simp [inLine]
  · obtain he | ⟨before, he⟩ := h.hidden_eq
    · exact absurd (List.suffix_nil.1 (he ▸ hu)) hne
    · have hs : text ++ ending ≠ [] := fun hnil => by
        have := h.last_is_ending hnil
        simp [he] at this
      obtain ⟨u', rfl, -⟩ := (List.suffix_concat_iff.1 (he ▸ hu)).resolve_left hne
      rw [List.append_assoc, List.singleton_append]
      exact readLine?_hidden hs

end Search

/-- The findings of a pattern in an output, line by line. -/
theorem findAll_eq_filterMap (marker : Text) (body : Pattern)
    (hmarker : ∀ c ∈ marker, inLine c = true) (hbody : ∀ piece ∈ body, Piece.Within inLine piece)
    (hmono : ∀ r t, (∀ c ∈ r, inLine c = true) → t <:+ r → body.whole? r = none →
      body.whole? t = none) (output : Text) :
    Pattern.findAll (.word marker :: (body ++ lineEnd)) 0 output =
      (endedLines output).filterMap fun line =>
        (Text.cut? marker (visible line)).bind fun m => body.whole? m.2 := by
  have hp : ∀ piece ∈ Piece.word marker :: body, Piece.Within inLine piece := by
    intro piece hpiece
    obtain rfl | hpiece := List.mem_cons.1 hpiece
    · exact hmarker
    · exact hbody piece hpiece
  rw [← List.cons_append]
  induction output using Text.pieces_induction '\n' with
  | last s hs =>
    rw [endedLines_of_not_mem hs, List.filterMap_nil]
    exact Pattern.findAll_eq_nil fun u hu => match?_unended hp fun h => hs (hu.subset h)
  | piece l r hl ih =>
    have hclean := inLine_of_mem_visible hl
    have hfirst : Text.firstAt (Pattern.whole? (.word marker :: body)) (visible l) =
        (Text.cut? marker (visible l)).bind fun m => body.whole? m.2 :=
      Text.firstAt_after? marker fun r t hr => hmono r t fun c hc => hclean c (hr.subset hc)
    rw [Pattern.findAll_append_cons fun u hu => match?_line hp (fun hn => hl (hu.subset hn)) r,
      firstAt_readLine? hl, hfirst, ih, endedLines_append_cons hl, List.filterMap_cons]
    cases (Text.cut? marker (visible l)).bind fun m => body.whole? m.2 <;> rfl

end ClasspathProbe.Marker
