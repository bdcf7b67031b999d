import ClasspathProbe.Display
import ClasspathProbe.Proofs.Artifact
import ClasspathProbe.Proofs.Json.Writer

/-!
# Listings as JSON

What a reader of JSON finds in a listing: every artifact or path once, by its exact texts and in
order. So two lists with one listing have the same members; for paths, only such lists have one.
-/

namespace ClasspathProbe.Display

/-- A text in ASCII that is a JSON array and nothing else, with one item for each member of a list
and the items in order. -/
structure Lists {α : Type} (text : Text) (toJson : α → Json) (before : α → α → Prop)
    (as listed : List α) : Prop where
  ascii : Json.IsAscii text
  reads : ∀ v, Json.IsText text v ↔ v = .list (listed.map toJson)
  mem : ∀ a, a ∈ listed ↔ a ∈ as
  once : (listed.map toJson).Nodup
  ordered : listed.Pairwise before

theorem lists_indented {α : Type} {toJson : α → Json} {before : α → α → Prop}
    {as listed : List α} (hnumber : ∀ a ∈ listed, (toJson a).numberless)
    (hmem : ∀ a, a ∈ listed ↔ a ∈ as) (honce : (listed.map toJson).Nodup)
    (hordered : listed.Pairwise before) :
    Lists (Json.indented (.list (listed.map toJson))) toJson before as listed := by
  have hlist : (Json.list (listed.map toJson)).numberless := by
    rw [Json.numberless, Json.numberlessItems_iff]
    intro v hv
    obtain ⟨a, ha, rfl⟩ := List.mem_map.1 hv
    exact hnumber a ha
  exact ⟨Json.isAscii_written Json.blank_onLines 0 _ hlist, fun v => Json.isText_indented hlist,
    hmem, honce, hordered⟩

/-- Two listings with one text list the same. -/
theorem Lists.map_eq {α : Type} {text : Text} {toJson : α → Json} {before : α → α → Prop}
    {as bs listed listed' : List α} (h : Lists text toJson before as listed)
    (h' : Lists text toJson before bs listed') : listed.map toJson = listed'.map toJson := by
  have hv := (h'.reads _).1 ((h.reads _).2 rfl)
  simpa using hv

/-! ## Artifacts -/

theorem artifactJson_inj {a b : Artifact} (h : artifactJson a = artifactJson b) : a = b := by
  rw [← Artifact.shown_inj]
  obtain ⟨p, s⟩ := a
  obtain ⟨q, t⟩ := b
  cases s <;> cases t <;> simp_all [artifactJson, Artifact.shown]

theorem numberless_artifactJson (a : Artifact) : (artifactJson a).numberless := by
  obtain ⟨p, s⟩ := a
  cases s <;> rfl

theorem lists_artifactsText (artifacts : List Artifact) :
    Lists (artifactsText artifacts) artifactJson
      (fun a b =>
        a.compiled.toText = b.compiled.toText ∨ a.compiled.toText.Before b.compiled.toText)
      artifacts (Artifact.byCompiled artifacts) := by
  refine lists_indented (fun a _ => numberless_artifactJson a) (fun a => Artifact.mem_byCompiled) ?_
    (Artifact.pairwise_byCompiled artifacts)
  exact List.pairwise_map.2 ((Artifact.nodup_byCompiled artifacts).imp fun hne he =>
    hne (artifactJson_inj he))

theorem artifactsText_eq_iff {as bs : List Artifact} :
    artifactsText as = artifactsText bs ↔ Artifact.byCompiled as = Artifact.byCompiled bs := by
  constructor
  · intro h
    have has := lists_artifactsText as
    rw [h] at has
    exact List.map_inj_right (fun a b he => artifactJson_inj he) |>.1
      (has.map_eq (lists_artifactsText bs))
  · intro h
    rw [artifactsText, h, artifactsText]

theorem mem_iff_of_artifactsText_eq {as bs : List Artifact}
    (h : artifactsText as = artifactsText bs) (a : Artifact) : a ∈ as ↔ a ∈ bs := by
  rw [← Artifact.mem_byCompiled, artifactsText_eq_iff.1 h, Artifact.mem_byCompiled]

/-! ## Paths -/

theorem pathJson_inj {p q : Path} (h : Json.text p.toText = .text q.toText) : p = q :=
  Path.toText_inj.1 (Json.text.inj h)

theorem lists_pathsText (paths : List Path) :
    Lists (pathsText paths) (fun p => .text p.toText) (fun p q => p.toText.Before q.toText) paths
      (Artifact.pathsInOrder paths) := by
  refine lists_indented (fun p _ => rfl) (fun p => Artifact.mem_pathsInOrder) ?_
    (Artifact.pairwise_pathsInOrder paths)
  exact List.pairwise_map.2 ((Artifact.nodup_pathsInOrder paths).imp fun hne he =>
    hne (pathJson_inj he))

theorem pathsText_eq_iff {ps qs : List Path} :
    pathsText ps = pathsText qs ↔ ∀ p, p ∈ ps ↔ p ∈ qs := by
  rw [← Artifact.pathsInOrder_eq_iff]
  constructor
  · intro h
    have hps := lists_pathsText ps
    rw [h] at hps
    exact List.map_inj_right (fun p q he => pathJson_inj he) |>.1 (hps.map_eq (lists_pathsText qs))
  · intro h
    rw [pathsText, h, pathsText]

/-! ## Both listings -/

/-- Artifacts are listed as objects of their two paths, in the order of the compiled paths, and
paths as texts, each before the next. Lists with different members never have the same text. -/
theorem lists_exactly (artifacts otherArtifacts : List Artifact) (paths otherPaths : List Path) :
    (∃ listed, Lists (artifactsText artifacts)
      (fun a => .object [("compiled_jar", .text a.compiled.toText),
        ("source_jar", a.sources.elim .null fun p => .text p.toText)])
      (fun a b =>
        a.compiled.toText = b.compiled.toText ∨ a.compiled.toText.Before b.compiled.toText)
      artifacts listed) ∧
    (artifactsText artifacts = artifactsText otherArtifacts →
      ∀ a, a ∈ artifacts ↔ a ∈ otherArtifacts) ∧
    (∃ listed, Lists (pathsText paths) (fun p => .text p.toText)
      (fun p q => p.toText.Before q.toText) paths listed) ∧
    (pathsText paths = pathsText otherPaths ↔ ∀ p, p ∈ paths ↔ p ∈ otherPaths) :=
  ⟨⟨_, lists_artifactsText artifacts⟩, mem_iff_of_artifactsText_eq, ⟨_, lists_pathsText paths⟩,
    pathsText_eq_iff⟩

end ClasspathProbe.Display
