import ClasspathProbe.Proofs.BuildReport
import ClasspathProbe.Proofs.Marker.Join
import ClasspathProbe.Proofs.Marker.Output
import ClasspathProbe.Proofs.Text.Returns

/-!
# Line ends of another system

What a build writes is read alike whether its lines end as on Windows or not: the artifacts that its
output reports, whether it failed, the place of the failure and the lines that speak of errors
(`LineEnds.make_no_difference`).
-/

namespace ClasspathProbe

variable {s errors : Text}

/-! ## Marker lines -/

namespace Marker

theorem endedLines_withReturns (s : Text) :
    endedLines s.withReturns = (endedLines s).map (· ++ ['\r']) := by
  induction s using Text.pieces_induction '\n' with
  | last s hs =>
    rw [Text.withReturns_of_not_mem hs, endedLines_of_not_mem hs]
    rfl
  | piece l r hl ih =>
    have hlead : '\n' ∉ l ++ ['\r'] := by simpa using hl
    rw [Text.withReturns_append, Text.withReturns_of_not_mem hl, Text.withReturns_feed,
      List.append_cons l '\r', endedLines_append_cons hlead, endedLines_append_cons hl, ih,
      List.map_cons]

theorem subset_of_mem_endedLines {line : Text} (h : line ∈ endedLines s) : line ⊆ s := by
  induction s using Text.pieces_induction '\n' with
  | last s hs => simp [endedLines_of_not_mem hs] at h
  | piece l r hl ih =>
    rw [endedLines_append_cons hl, List.mem_cons] at h
    obtain rfl | h := h
    · exact List.subset_append_left _ _
    · exact fun c hc => List.mem_append_right _ (List.mem_cons_of_mem _ (ih h hc))

/-- The return of a line's end is not visible. -/
theorem visible_withReturn {line : Text} (h : line ∈ endedLines s) (hs : '\r' ∉ s) :
    visible (line ++ ['\r']) = visible line := by
  have hline : ∀ c ∈ line, inLine c = true := fun c hc => inLine_iff.2
    ⟨fun heq => hs (heq ▸ subset_of_mem_endedLines h hc),
      fun heq => not_mem_of_mem_endedLines h (heq ▸ hc)⟩
  have hfeed := visible_of_inLine hline .feed
  rw [LineEnd.lead, List.append_nil] at hfeed
  rw [hfeed]
  exact visible_of_inLine hline .returnFeed

theorem mem_reported_withReturns (hs : '\r' ∉ s) {a : Artifact} :
    a ∈ reported s.withReturns ↔ a ∈ reported s := by
  rw [mem_reported, mem_reported, endedLines_withReturns]
  constructor
  · rintro ⟨_, hmem, hreports⟩
    obtain ⟨line, hline, rfl⟩ := List.mem_map.1 hmem
    rw [visible_withReturn hline hs] at hreports
    exact ⟨line, hline, hreports⟩
  · rintro ⟨line, hline, hreports⟩
    refine ⟨line ++ ['\r'], List.mem_map_of_mem hline, ?_⟩
    rw [visible_withReturn hline hs]
    exact hreports

theorem parse_withReturns (hs : '\r' ∉ s) : SameOutcome (parse s) (parse s.withReturns) :=
  parse_of_reported fun _ => (mem_reported_withReturns hs).symm

end Marker

/-! ## Error streams -/

namespace BuildReport

open Text (isSpace)

theorem failed_withReturns (errors : Text) : failed errors.withReturns = failed errors :=
  Text.occurs_withReturns (List.cons_ne_nil _ _) (by decide) errors

theorem placeAt?_withReturns (s : Text) :
    (placeAt? s.withReturns).map Text.strip = (placeAt? s).map Text.strip := by
  rw [placeAt?, placeAt?, Text.after?_withReturns (by decide)]
  cases Text.after? "*" s with
  | none => rfl
  | some below =>
    simp only [Option.map_some, Option.bind_eq_bind, Option.bind_some]
    rw [Text.head?_withReturns rfl, Text.stripStart, Text.dropWhile_withReturns rfl,
      Text.after?_withReturns (by decide), Text.stripStart]
    cases Text.after? "Where:" (below.dropWhile isSpace) with
    | none =>
      simp only [Option.map_none, Option.bind_none]
    | some under =>
      simp only [Option.map_some, Option.bind_some]
      rw [Text.head?_withReturns rfl, Text.dropWhile_withReturns rfl, Text.head?_withReturns rfl]
      simp only [Option.map_bind, Function.comp_def, Option.pure_def, Option.map_some,
        Text.strip_takeWhile_withReturns]

theorem placeAt?_of_ne {c : Char} (h : c ≠ '*') (s : Text) : placeAt? (c :: s) = none := by
  rw [placeAt?, show "*".toList = ['*'] from rfl, Text.after?, if_neg (Ne.symm h)]
  rfl

theorem place?_withReturns (s : Text) : place? s.withReturns = place? s := by
  induction s with
  | nil => rfl
  | cons c s ih =>
    by_cases hc : c = '\n'
    · subst hc
      have hskip : ∀ {c : Char}, c ≠ '*' → ∀ s, place? (c :: s) = place? s := fun h s =>
        place?_cons_of_none (placeAt?_of_ne h s)
      rw [Text.withReturns_feed, hskip (by decide), hskip (by decide), hskip (by decide), ih]
    · have hat := placeAt?_withReturns (c :: s)
      rw [Text.withReturns_cons hc] at hat ⊢
      cases hplace : placeAt? (c :: s) with
      | none =>
        rw [hplace] at hat
        rw [place?_cons_of_none hplace, place?_cons_of_none (Option.map_eq_none_iff.1 hat), ih]
      | some line =>
        rw [hplace] at hat
        obtain ⟨line', hplace', hsame⟩ := Option.map_eq_some_iff.1 hat
        rw [place?_cons_of_some hplace, place?_cons_of_some hplace', hsame]

theorem warnings_withReturns (hfailed : failed errors = false) (h : '\r' ∉ errors) :
    warnings errors.withReturns = warnings errors := by
  have hsame := (failed_withReturns errors).trans hfailed
  rw [warnings_of_passed hfailed, warnings_of_passed hsame, Text.lines_withReturns h]

end BuildReport

/-! ## Both streams -/

namespace LineEnds

open BuildReport

/-- **It makes no difference how lines end.** -/
theorem make_no_difference (hs : '\r' ∉ s) :
    Marker.SameOutcome (Marker.parse s) (Marker.parse s.withReturns) ∧
    failed s.withReturns = failed s ∧
    (failed s = true → ∃ place : Option Text,
      (∀ t, place = some t ↔ IsPlace s t) ∧ (∀ t, place = some t ↔ IsPlace s.withReturns t) ∧
      warnings s = (place.map ("Gradle task failed at ".toList ++ ·)).toList ++
        ["Gradle task failed: ".toList ++ s] ∧
      warnings s.withReturns = (place.map ("Gradle task failed at ".toList ++ ·)).toList ++
        ["Gradle task failed: ".toList ++ s.withReturns]) ∧
    (failed s = false → warnings s.withReturns = warnings s) := by
  refine ⟨Marker.parse_withReturns hs, failed_withReturns s, fun hfailed => ?_, fun hpassed => ?_⟩
  · have hplace : ∀ t, place? s = some t ↔ IsPlace s.withReturns t := fun t => by
      rw [← place?_withReturns, place?_eq_some_iff]
    refine ⟨place? s, fun t => place?_eq_some_iff, hplace, warnings_of_failed hfailed, ?_⟩
    rw [warnings_of_failed ((failed_withReturns s).trans hfailed), place?_withReturns]
  · exact warnings_withReturns hpassed hs

/-- An output with a marker line, which is the error stream of a failed build, too. -/
def sample : Text :=
  "kotlin-lsp-gradle /a.jar\nFAILURE: Build failed\n\n* Where:\nScript 'b'  \nend".toList

theorem make_no_difference_sample :
    '\r' ∉ sample ∧ failed sample = true ∧
      Marker.SameOutcome (Marker.parse sample) (Marker.parse sample.withReturns) ∧
      IsPlace sample.withReturns "Script 'b'".toList := by
  have hs : '\r' ∉ sample := by decide
  have hfailed : failed sample = true := by decide
  obtain ⟨hparse, -, hplaces, -⟩ := make_no_difference hs
  obtain ⟨place, hplace, hreturns, -⟩ := hplaces hfailed
  have hfound : IsPlace sample "Script 'b'".toList := place?_eq_some_iff.1 (by decide)
  exact ⟨hs, hfailed, hparse, (hreturns _).1 ((hplace _).2 hfound)⟩

end LineEnds

end ClasspathProbe
