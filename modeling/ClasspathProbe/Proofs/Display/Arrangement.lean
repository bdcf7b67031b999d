import ClasspathProbe.Proofs.Display

/-!
# Listings and the order of a set

A set of artifacts or paths has no order of its own, so it may be met in any arrangement of its
members. Listings of paths do not depend on it. A listing of artifacts does, as soon as two
artifacts with one compiled path are shown differently: they stay in the order in which they were
met (`listings_arranged`).
-/

namespace ClasspathProbe.Display

variable {project : Text} {as bs : List Artifact}

/-- The cell with the sources of an artifact. -/
def sourcesCell (a : Artifact) : Text := a.sources.elim "[dim]-[/]" cell

theorem classpath_eq_iff :
    classpath project as = classpath project bs ↔
      (Artifact.byCompiled as).map (fun a => [cell a.compiled, sourcesCell a]) =
        (Artifact.byCompiled bs).map fun a => [cell a.compiled, sourcesCell a] := by
  rw [classpath, classpath]
  cases ha : Artifact.byCompiled as with
  | nil =>
    cases hb : Artifact.byCompiled bs with
    | nil => simp
    | cons b bs => simp [info]
  | cons a as =>
    cases hb : Artifact.byCompiled bs with
    | nil => simp [info]
    | cons b bs =>
      constructor
      · intro h
        injection h with htable
        injection htable
      · intro hrows
        have hlength := congrArg List.length hrows
        rw [List.length_map, List.length_map] at hlength
        dsimp only [List.isEmpty_cons]
        rw [hlength]
        simpa [sourcesCell] using hrows

theorem classpath_arranged_iff :
    (∀ others : List Artifact, others.Perm as → classpath project others = classpath project as) ↔
      ∀ a ∈ as, ∀ b ∈ as, a.compiled = b.compiled → sourcesCell a = sourcesCell b := by
  simp only [classpath_eq_iff]
  rw [Artifact.rearranged_iff]
  constructor
  · intro h a ha b hb hpath
    have hrow := h a ha b hb hpath
    simpa [hpath] using hrow
  · intro h a ha b hb hpath
    rw [hpath, h a ha b hb hpath]

theorem artifactsText_arranged_iff :
    (∀ others : List Artifact, others.Perm as → artifactsText others = artifactsText as) ↔
      ∀ a ∈ as, ∀ b ∈ as, a.compiled = b.compiled → a = b := by
  have hlisted := @Artifact.rearranged_iff Artifact id as
  simpa [artifactsText_eq_iff] using hlisted

theorem pathsInOrder_of_perm {ps qs : List Path} (h : ps.Perm qs) :
    Artifact.pathsInOrder ps = Artifact.pathsInOrder qs :=
  Artifact.pathsInOrder_eq_iff.2 fun _ => h.mem_iff

/-- The text of artifacts is the same for every arrangement of them exactly when no two have one
compiled path, and their table exactly when such two have the same cell for their sources. Paths are
listed alike in every arrangement. -/
theorem listings_arranged (project : Text) (artifacts : List Artifact) (paths : List Path) :
    ((∀ others : List Artifact, others.Perm artifacts →
        artifactsText others = artifactsText artifacts) ↔
      ∀ a ∈ artifacts, ∀ b ∈ artifacts, a.compiled = b.compiled → a = b) ∧
    ((∀ others : List Artifact, others.Perm artifacts →
        classpath project others = classpath project artifacts) ↔
      ∀ a ∈ artifacts, ∀ b ∈ artifacts, a.compiled = b.compiled →
        sourcesCell a = sourcesCell b) ∧
    ∀ others : List Path, others.Perm paths →
      pathsText others = pathsText paths ∧
        buildScriptClasspath project others = buildScriptClasspath project paths := by
  refine ⟨artifactsText_arranged_iff, classpath_arranged_iff, fun others hperm => ?_⟩
  have hlisted : Artifact.pathsInOrder others = Artifact.pathsInOrder paths :=
    pathsInOrder_of_perm hperm
  constructor
  · rw [pathsText, hlisted, pathsText]
  · rw [buildScriptClasspath, hlisted, buildScriptClasspath]

/-- A jar that is reported once without sources and once with them. -/
def reportedTwice : List Artifact := [⟨"/a.jar", none⟩, ⟨"/a.jar", some "/a-sources.jar"⟩]

/-- Met the other way round, the two reports of one jar are listed the other way round. -/
theorem reportedTwice_reversed :
    reportedTwice.reverse.Perm reportedTwice ∧
      artifactsText reportedTwice.reverse ≠ artifactsText reportedTwice ∧
      classpath "demo" reportedTwice.reverse ≠ classpath "demo" reportedTwice := by
  have hkept : Artifact.byCompiled reportedTwice = reportedTwice :=
    Artifact.byCompiled_pair (by decide) rfl
  have hswapped : Artifact.byCompiled reportedTwice.reverse = reportedTwice.reverse :=
    Artifact.byCompiled_pair (by decide) rfl
  refine ⟨List.reverse_perm _, fun h => ?_, fun h => ?_⟩
  · rw [artifactsText_eq_iff, hkept, hswapped] at h
    exact absurd h (by decide)
  · rw [classpath_eq_iff, hkept, hswapped] at h
    exact absurd h (by decide)

end ClasspathProbe.Display
