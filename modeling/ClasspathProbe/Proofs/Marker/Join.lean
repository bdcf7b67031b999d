import ClasspathProbe.Proofs.Marker.Grammar

/-!
# Outputs put together

What an output reports is what its ended lines report, each for itself. So an output that is put
together at a line feed reports what its two parts report, and for an output made of lines only the
set of its lines counts (`parse_lines`).
-/

namespace ClasspathProbe.Marker

variable {s t : Text} {artifacts : List Artifact}

/-! ## The lines of an output put together -/

/-- Texts with a line feed behind each of them. -/
def fed (lines : List Text) : Text := lines.flatMap fun l => l ++ ['\n']

theorem endedLines_append (a b : Text) :
    endedLines (a ++ '\n' :: b) = endedLines (a ++ ['\n']) ++ endedLines b := by
  induction a using Text.pieces_induction '\n' with
  | last s hs =>
    have hend : endedLines (s ++ ['\n']) = [s] := by
      rw [endedLines_append_cons hs, endedLines_of_not_mem List.not_mem_nil]
    rw [endedLines_append_cons hs, hend, List.singleton_append]
  | piece l r hl ih =>
    have hwhole : (l ++ '\n' :: r) ++ '\n' :: b = l ++ '\n' :: (r ++ '\n' :: b) := by simp
    have hfirst : (l ++ '\n' :: r) ++ ['\n'] = l ++ '\n' :: (r ++ ['\n']) := by simp
    rw [hwhole, hfirst, endedLines_append_cons hl, endedLines_append_cons hl, ih,
      List.cons_append]

theorem mem_endedLines_fed {lines : List Text} {line : Text} :
    line ∈ endedLines (fed lines) ↔ ∃ l ∈ lines, line ∈ endedLines (l ++ ['\n']) := by
  induction lines with
  | nil => simp [fed, endedLines_of_not_mem List.not_mem_nil]
  | cons l lines ih =>
    have hfed : fed (l :: lines) = l ++ '\n' :: fed lines := by simp [fed]
    rw [hfed, endedLines_append, List.mem_append, ih]
    simp

/-! ## Parsing by lines -/

/-- Whether an output reports an artifact with a blank name. -/
def ReportsBlank (output : Text) : Prop :=
  ∃ line ∈ endedLines output, ∃ a, Reports (visible line) a ∧ a.compiled.IsBlankName

theorem any_reported_iff {output : Text} :
    ((reported output).any fun a => a.compiled.toText.isBlank) = true ↔ ReportsBlank output := by
  rw [List.any_eq_true]
  constructor
  · rintro ⟨a, ha, hblank⟩
    obtain ⟨line, hline, hreports⟩ := mem_reported.1 ha
    exact ⟨line, hline, a, hreports, Path.isBlank_toText.1 hblank⟩
  · rintro ⟨line, hline, a, hreports, hblank⟩
    exact ⟨a, mem_reported.2 ⟨line, hline, hreports⟩, Path.isBlank_toText.2 hblank⟩

theorem parse_of_blank {output : Text} (h : ReportsBlank output) :
    parse output = .error Artifact.blankFailure := by
  rw [parse_eq, if_pos (any_reported_iff.2 h)]

theorem parse_of_not_blank {output : Text} (h : ¬ReportsBlank output) :
    parse output = .ok (reported output).eraseDups := by
  rw [parse_eq, if_neg (mt any_reported_iff.1 h)]

theorem parse_failed_iff {output : Text} :
    (∃ e, parse output = .error e) ↔ ReportsBlank output := by
  by_cases h : ReportsBlank output
  · rw [parse_of_blank h]
    simp [h]
  · rw [parse_of_not_blank h]
    simp [h]

theorem parse_ok_iff {output : Text} :
    parse output = .ok artifacts ↔
      ¬ReportsBlank output ∧ (reported output).eraseDups = artifacts := by
  by_cases h : ReportsBlank output
  · rw [parse_of_blank h]
    simp [h]
  · rw [parse_of_not_blank h]
    simp [h]

/-- Two outcomes of parsing are the same: one failure, or one set of artifacts. -/
inductive SameOutcome : Except Failure (List Artifact) → Except Failure (List Artifact) → Prop where
  | failed (e : Failure) : SameOutcome (.error e) (.error e)
  | parsed {as bs : List Artifact} (mem : ∀ a, a ∈ as ↔ a ∈ bs) : SameOutcome (.ok as) (.ok bs)

/-- Only the set of what is reported counts. -/
theorem parse_of_reported (h : ∀ a, a ∈ reported s ↔ a ∈ reported t) :
    SameOutcome (parse s) (parse t) := by
  have hblank : ReportsBlank s ↔ ReportsBlank t := by
    simp only [← any_reported_iff, List.any_eq_true, h]
  by_cases hs : ReportsBlank s
  · rw [parse_of_blank hs, parse_of_blank (hblank.1 hs)]
    exact .failed _
  · rw [parse_of_not_blank hs, parse_of_not_blank (mt hblank.2 hs)]
    refine .parsed fun a => ?_
    rw [List.mem_eraseDups, List.mem_eraseDups, h]

/-- Only the set of the ended lines counts. -/
theorem parse_congr (h : ∀ line, line ∈ endedLines s ↔ line ∈ endedLines t) :
    SameOutcome (parse s) (parse t) :=
  parse_of_reported fun a => by simp only [mem_reported, h]

theorem reportsBlank_append {a b : Text} :
    ReportsBlank (a ++ '\n' :: b) ↔ ReportsBlank (a ++ ['\n']) ∨ ReportsBlank b := by
  rw [ReportsBlank, endedLines_append]
  simp only [List.mem_append, or_and_right, exists_or]
  rfl

theorem mem_reported_append {a b : Text} {x : Artifact} :
    x ∈ reported (a ++ '\n' :: b) ↔ x ∈ reported (a ++ ['\n']) ∨ x ∈ reported b := by
  rw [mem_reported, mem_reported, mem_reported, endedLines_append]
  simp only [List.mem_append, or_and_right, exists_or]

/-- **Parsing goes line by line.** An output put together at a line feed fails to be parsed exactly
when one of its parts does, and else gives the artifacts of both. Outputs made of the same lines, in
any order and each any number of times, are parsed alike. -/
theorem parse_lines (a b : Text) {lines lines' : List Text}
    (hlines : ∀ l, l ∈ lines ↔ l ∈ lines') :
    ((∃ e, parse (a ++ '\n' :: b) = .error e) ↔
      (∃ e, parse (a ++ ['\n']) = .error e) ∨ ∃ e, parse b = .error e) ∧
    (∀ as bs, parse (a ++ ['\n']) = .ok as → parse b = .ok bs →
      ∃ cs, parse (a ++ '\n' :: b) = .ok cs ∧ ∀ x, x ∈ cs ↔ x ∈ as ∨ x ∈ bs) ∧
    SameOutcome (parse (lines.flatMap fun l => l ++ ['\n']))
      (parse (lines'.flatMap fun l => l ++ ['\n'])) := by
  refine ⟨?_, ?_, ?_⟩
  · rw [parse_failed_iff, parse_failed_iff, parse_failed_iff]
    exact reportsBlank_append
  · intro as bs ha hb
    obtain ⟨hblankA, rfl⟩ := parse_ok_iff.1 ha
    obtain ⟨hblankB, rfl⟩ := parse_ok_iff.1 hb
    have hblank : ¬ReportsBlank (a ++ '\n' :: b) := by
      rw [reportsBlank_append]
      exact not_or.2 ⟨hblankA, hblankB⟩
    refine ⟨_, parse_of_not_blank hblank, fun x => ?_⟩
    rw [List.mem_eraseDups, List.mem_eraseDups, List.mem_eraseDups]
    exact mem_reported_append
  · refine parse_congr (s := fed lines) (t := fed lines') fun line => ?_
    rw [mem_endedLines_fed, mem_endedLines_fed]
    simp only [hlines]

/-- Two lines of an output, the second of them written on Windows. -/
def twoLines : List Text :=
  ["kotlin-lsp-gradle /a.jar".toList, "kotlin-lsp-gradle-src /b.jar|/s.jar\r".toList]

theorem parse_twoLines_repeated :
    (∀ l, l ∈ twoLines ↔ l ∈ twoLines.reverse ++ twoLines) ∧
      SameOutcome (parse (twoLines.flatMap fun l => l ++ ['\n']))
        (parse ((twoLines.reverse ++ twoLines).flatMap fun l => l ++ ['\n'])) := by
  have hlines : ∀ l, l ∈ twoLines ↔ l ∈ twoLines.reverse ++ twoLines := by
    intro l
    rw [List.mem_append, List.mem_reverse, or_self]
  exact ⟨hlines, (parse_lines [] [] hlines).2.2⟩

end ClasspathProbe.Marker
