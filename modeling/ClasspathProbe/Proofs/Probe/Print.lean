import ClasspathProbe.Marker
import ClasspathProbe.Probe

/-!
# What the probe scripts print

A script prints a line as a quoted text in which a dollar sign stands before each value. Those texts
are taken from the scripts themselves (`prints`). Of what is printed around the values, only two
forms hold a marker, and filled with the paths of an artifact they are its marker line
(`exists_reports_iff`).
-/

namespace ClasspathProbe.Probe

/-! ## Quoted texts with values -/

/-- What follows a value: its name, or an expression in braces, is passed over. -/
def behindValue : Text → Text
  | '\x7b' :: s => (s.dropWhile (· ≠ '\x7d')).drop 1
  | s => s.dropWhile Char.isAlphanum

/-- The fixed parts of a quoted text, one more than it has values. -/
def fixedParts (quoted : Text) : List Text :=
  match Text.pieces '$' quoted with
  | [] => []
  | part :: parts => part :: parts.map behindValue

/-- What a line of a script prints, if it prints anything. -/
def printed? (line : Text) : Option (List Text) :=
  (Text.cut? "System.out.println \"" line).map fun (_, s) => fixedParts (s.takeWhile (· ≠ '"'))

/-- What the script of a probe prints, each line by its fixed parts. -/
def prints (p : Probe) : List (List Text) :=
  p.scriptLines.flatMap fun line => (printed? line.toList).toList

/-- A line with values between its fixed parts, if there are as many as it needs. -/
def filled? : (parts values : List Text) → Option Text
  | [part], [] => some part
  | part :: parts, value :: values => (filled? parts values).map fun s => part ++ value ++ s
  | _, _ => none

/-! ## The lines with a marker -/

/-- What a line prints, told by its characters. -/
theorem printed?_of_eq {line : String} {s : Text} {found : List (List Text)}
    (h : line = String.ofList s) (hs : (printed? s).toList = found) :
    (printed? line.toList).toList = found := by
  rw [h, String.toList_ofList, hs]

set_option maxRecDepth 4000 in
theorem prints_project : prints .project =
    [[[]], ["gradle-version ".toList, []], ["kotlin-lsp-project ".toList, []],
      [Marker.plainMarker, []], [Marker.plainMarker, []], [Marker.pairedMarker, ['|'], []],
      [Marker.plainMarker, []]] := by
  simp only [prints, scriptLines, projectLines, String.reduceAppend, List.flatMap_cons,
    List.flatMap_nil]
  repeat rw [printed?_of_eq rfl rfl]
  rfl

theorem prints_buildScripts : prints .buildScripts =
    [[[]], ["gradle-version ".toList, []], [Marker.plainMarker, []], [Marker.plainMarker, []],
      [Marker.plainMarker, []]] := by
  simp only [prints, scriptLines, buildScriptLines, String.reduceAppend, List.flatMap_cons,
    List.flatMap_nil]
  repeat rw [printed?_of_eq rfl rfl]
  rfl

/-- Whether what is printed around values holds a marker. -/
def holdsMarker (parts : List Text) : Bool :=
  parts.any fun part => Text.occurs Marker.plainMarker part || Text.occurs Marker.pairedMarker part

/-- Of what a script prints, the lines with a marker. -/
def reports (p : Probe) : List (List Text) := p.prints.filter holdsMarker

theorem reports_project : reports .project =
    [[Marker.plainMarker, []], [Marker.plainMarker, []], [Marker.pairedMarker, ['|'], []],
      [Marker.plainMarker, []]] := by
  rw [reports, prints_project]
  rfl

theorem reports_buildScripts : reports .buildScripts =
    [[Marker.plainMarker, []], [Marker.plainMarker, []], [Marker.plainMarker, []]] := by
  rw [reports, prints_buildScripts]
  rfl

theorem mem_reports {p : Probe} {parts : List Text} (h : parts ∈ p.reports) :
    parts = [Marker.plainMarker, []] ∨ parts = [Marker.pairedMarker, ['|'], []] := by
  cases p with
  | project =>
    rw [reports_project] at h
    simp only [List.mem_cons, List.not_mem_nil, or_false] at h
    obtain h | h | h | h := h
    · exact .inl h
    · exact .inl h
    · exact .inr h
    · exact .inl h
  | buildScripts =>
    rw [reports_buildScripts] at h
    simp only [List.mem_cons, List.not_mem_nil, or_false, or_self] at h
    exact .inl h

/-- The lines with a marker that the scripts print for an artifact are its marker line. -/
theorem exists_reports_iff {compiled text : Text} {sources : Option Text} :
    (∃ (p : Probe) (parts : List Text), parts ∈ p.reports ∧
      filled? parts (compiled :: sources.toList) = some text) ↔
      text = Marker.line compiled sources := by
  constructor
  · rintro ⟨p, parts, hreports, hfilled⟩
    obtain rfl | rfl := mem_reports hreports
    · cases sources with
      | none => simpa [filled?, Marker.line] using hfilled.symm
      | some s => simp [filled?] at hfilled
    · cases sources with
      | none => simp [filled?] at hfilled
      | some s => simpa [filled?, Marker.line] using hfilled.symm
  · rintro rfl
    cases sources with
    | none =>
      refine ⟨.project, [Marker.plainMarker, []], ?_, by simp [filled?, Marker.line]⟩
      rw [reports_project]
      exact List.mem_cons_self
    | some s =>
      refine ⟨.project, [Marker.pairedMarker, ['|'], []], ?_, by simp [filled?, Marker.line]⟩
      rw [reports_project]
      exact List.mem_cons_of_mem _ (List.mem_cons_of_mem _ List.mem_cons_self)

end ClasspathProbe.Probe
