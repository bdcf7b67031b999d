import ClasspathProbe.Display
import ClasspathProbe.Proofs.Artifact
import ClasspathProbe.Proofs.World.Action
import ClasspathProbe.Resolver

/-!
# Artifacts made again from what is shown of them

An artifact that is listed as JSON can be made again from the texts of its paths, and is the same
then (`rebuilt_ok`), unless it is shown by a blank name. Such an artifact exists although a blank
name is refused: the name is judged as it is given, before slashes and dots around it are left out
of the path. It takes a text that is not blank itself (`ofNames_blank`); artifacts made of paths
never get there. `rebuilt_of_ofNames` puts the two together.
-/

namespace ClasspathProbe.Artifact

open ClasspathProbe.Action (exec)

variable {a : Artifact} {compiled : Name} {sources : Option Name}

/-! ## Ways to make an artifact -/

/-- The values that an object of JSON has for texts of paths, of which the second may be missing. -/
def textFields (s : Text) (t : Option Text) : Fields :=
  [(compiledField, .text s), (sourcesField, t.elim .null .text)]

theorem readSources_text (t : Option Text) :
    readSources (some (t.elim .null .text)) = .ok (t.map .ofText) := by
  cases t <;> rfl

theorem ofFields_textFields (s : Text) (t : Option Text) :
    ofFields (textFields s t) = ofNames (.text s) (t.map .text) := by
  have hcompiled : (textFields s t).lookup compiledField = some (.text s) := by
    rw [textFields, List.lookup_cons_self]
  have hsources : (textFields s t).lookup sourcesField = some (t.elim .null .text) := by
    have hne : (sourcesField == compiledField) = false := by decide
    rw [textFields, List.lookup_cons, hne]
    exact List.lookup_cons_self
  have hpaths : (t.map Name.text).map Name.toPath = t.map Path.ofText := by
    rw [Option.map_map]
    rfl
  rw [ofFields, hcompiled, hsources, readSources_text, ofNames, hpaths]
  by_cases hblank : s.isBlank = true
  · have hread : readCompiled (some (.text s)) = .error .emptyArtifact := if_pos hblank
    rw [hread, if_pos (show (Name.text s).toText.isBlank = true from hblank)]
  · have hread : readCompiled (some (.text s)) = .ok (.ofText s) := if_neg hblank
    rw [hread, if_neg (show ¬ (Name.text s).toText.isBlank = true from hblank)]
    rfl

/-- What is listed of an artifact are the texts of its paths. -/
theorem artifactJson_toValue (a : Artifact) :
    (Display.artifactJson a).toValue = (textFields a.shown.1 a.shown.2).toValue := by
  obtain ⟨p, q⟩ := a
  cases q <;> rfl

/-! ## Making an artifact again -/

/-- The artifact that the listed texts of one make. -/
def rebuilt (a : Artifact) : Except Failure Artifact := ofFields (textFields a.shown.1 a.shown.2)

theorem rebuilt_eq (a : Artifact) :
    rebuilt a = if a.compiled.toText.isBlank then .error blankFailure else .ok a := by
  have hsources : (a.shown.2.map Name.text).map Name.toPath = a.sources := by
    obtain ⟨p, q⟩ := a
    cases q with
    | none => rfl
    | some q =>
      have hq : Path.ofText q.toText = q := Path.ofText_toText q
      simp only [shown, Option.map_some, Name.toPath, hq]
  have hcompiled : (Name.text a.shown.1).toPath = a.compiled := Path.ofText_toText a.compiled
  rw [rebuilt, ofFields_textFields, ofNames, hsources, hcompiled]
  rfl

theorem rebuilt_ok (h : ¬ a.compiled.IsBlankName) : rebuilt a = .ok a := by
  have hblank : ¬ a.compiled.toText.isBlank = true := fun hb => h (Path.isBlank_toText.1 hb)
  rw [rebuilt_eq, if_neg hblank]

theorem rebuilt_blank (h : a.compiled.IsBlankName) : rebuilt a = .error blankFailure := by
  rw [rebuilt_eq, if_pos (Path.isBlank_toText.2 h)]

theorem ofNames_ok :
    ofNames compiled sources = .ok a ↔
      compiled.toText.isBlank = false ∧ a.compiled = compiled.toPath ∧
        a.sources = sources.map Name.toPath := by
  rw [ofNames]
  cases compiled.toText.isBlank with
  | true => simp
  | false =>
    obtain ⟨p, q⟩ := a
    simp [eq_comm]

/-- Only a text can be the name of an artifact that is shown by a blank name. -/
theorem ofNames_blank (h : ofNames compiled sources = .ok a) (hblank : a.compiled.IsBlankName) :
    ∃ s, compiled = .text s ∧ s.isBlank = false ∧ a.compiled = .ofText s := by
  obtain ⟨hname, hcompiled, -⟩ := ofNames_ok.1 h
  cases compiled with
  | text s => exact ⟨s, rfl, hname, hcompiled⟩
  | path p =>
    have htext : p.toText.isBlank = true := by
      rw [Path.isBlank_toText, ← show a.compiled = p from hcompiled]
      exact hblank
    rw [Name.toText, htext] at hname
    cases hname

/-- A listing shows the texts of an artifact's paths. An artifact that is not shown by a blank name
is made again from them, and is usable in the same worlds. One that is shown by a blank name comes
from a text that is not blank and has more than the name in it, and cannot be made again. -/
theorem rebuilt_of_ofNames (h : ofNames compiled sources = .ok a) :
    (Display.artifactJson a).toValue = (textFields a.shown.1 a.shown.2).toValue ∧
    (¬ a.compiled.IsBlankName → a.compiled.toText.isBlank = false ∧
      ∃ b, rebuilt a = .ok b ∧ b = a ∧
        ∀ w, exec (Resolver.isUsable b) w = exec (Resolver.isUsable a) w) ∧
    (a.compiled.IsBlankName → a.compiled.toText.isBlank = true ∧
      rebuilt a = .error blankFailure ∧
        ∃ s, compiled = .text s ∧ s.isBlank = false ∧ s ≠ a.compiled.toText) := by
  refine ⟨artifactJson_toValue a, ?_, ?_⟩
  · intro hnot
    have hshown : a.compiled.toText.isBlank = false :=
      Bool.eq_false_iff.2 fun hb => hnot (Path.isBlank_toText.1 hb)
    exact ⟨hshown, a, rebuilt_ok hnot, rfl, fun _ => rfl⟩
  · intro hblank
    have hshown := Path.isBlank_toText.2 hblank
    obtain ⟨s, hs, hnot, -⟩ := ofNames_blank h hblank
    refine ⟨hshown, rebuilt_blank hblank, s, hs, hnot, fun heq => ?_⟩
    rw [← heq, hnot] at hshown
    cases hshown

theorem rebuilt_of_ofNames_space :
    ∃ a, ofNames (.text " /") none = .ok a ∧ a.compiled.toText = " ".toList ∧
      a.compiled.IsBlankName ∧ rebuilt a = .error blankFailure := by
  have hmade : ofNames (.text " /") none = .ok ⟨.ofText " /", none⟩ := rfl
  have hblank : Path.IsBlankName (.ofText " /") := ⟨rfl, " ".toList, rfl, rfl⟩
  exact ⟨_, hmade, rfl, hblank, ((rebuilt_of_ofNames hmade).2.2 hblank).2.1⟩

/-- Not every artifact can be made again from its listing. -/
theorem exists_not_rebuilt :
    ¬ ∀ compiled sources a, ofNames compiled sources = .ok a →
      a.compiled.toText.isBlank = false ∧ ∃ b, rebuilt a = .ok b ∧ b = a ∧
        ∀ w, exec (Resolver.isUsable b) w = exec (Resolver.isUsable a) w := by
  intro h
  have hshown := (h (.text " /") none ⟨.ofText " /", none⟩ rfl).1
  cases hshown

end ClasspathProbe.Artifact
