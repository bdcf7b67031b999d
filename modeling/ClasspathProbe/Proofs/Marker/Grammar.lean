import ClasspathProbe.Proofs.Artifact
import ClasspathProbe.Proofs.Marker.Line

/-!
# The grammar of marker lines

What an output reports, said of its lines and without any search (`Reports`), and the proof that
parsing gives exactly that whenever it gives anything (`mem_parse_iff`). It fails to give anything
exactly when some line reports a blank name as a compiled path (`parse_isOk_iff`).
-/

namespace ClasspathProbe.Marker

open Text (Pattern Piece)

/-! ## The grammar -/

/-- A text is cut at its last bar with something on both sides. -/
structure LastBar (rest c s : Text) : Prop where
  eq : rest = c ++ '|' :: s
  left : c ≠ []
  right : s ≠ []
  last : ∀ c' s', rest = c' ++ '|' :: s' → c' ≠ [] → s' ≠ [] → c'.length ≤ c.length

/-- The artifacts that the visible text of a line reports. -/
inductive Reports (text : Text) : Artifact → Prop where
  /-- What stands behind the first plain marker is a compiled path. -/
  | plain {before rest : Text} (found : Text.cut? plainMarker text = some (before, rest))
      (visible : rest.isBlank = false) : Reports text ⟨.ofText rest, none⟩
  /-- What stands behind the first marker for pairs is a compiled path, a bar and sources. -/
  | paired {before rest c s : Text} (found : Text.cut? pairedMarker text = some (before, rest))
      (bar : LastBar rest c s) (visible : c.isBlank = false) :
      Reports text ⟨.ofText c, some (.ofText s)⟩

/-! ## Bodies of the two patterns -/

/-- A pattern behind a marker, up to the end of the line. -/
abbrev plainBody : Pattern := [.run inLine]

/-- A pattern behind a marker for pairs, up to the end of the line. -/
abbrev pairedBody : Pattern := [.run inLine, .word ['|'], .run inLine]

theorem whole?_plainBody {s : Text} (h : ∀ c ∈ s, inLine c = true) :
    plainBody.whole? s = if s = [] then none else some [s] := by
  rw [Pattern.whole?]
  cases hr : Text.longestRun inLine (Pattern.whole? []) s with
  | none =>
    have hs := Text.eq_nil_of_longestRun_eq_none hr (List.append_nil s).symm h rfl
    simp [hs]
  | some m =>
    obtain ⟨run, runs⟩ := m
    obtain ⟨hne, t, rfl, ht, -⟩ := Text.longestRun_eq_some hr
    obtain ⟨rfl, rfl⟩ : t = [] ∧ runs = [] := by
      rw [Pattern.whole?] at ht
      split at ht
      · next h => exact ⟨h, (Option.some.inj ht).symm⟩
      · simp at ht
    simp [hne]

/-- Behind the first run of a pair stand a bar and the second run. -/
theorem whole?_bar {s : Text} {runs : List Text} (h : ∀ c ∈ s, inLine c = true) :
    Pattern.whole? [.word ['|'], .run inLine] s = some runs ↔
      ∃ t, t ≠ [] ∧ s = '|' :: t ∧ runs = [t] := by
  rw [Pattern.whole?, Option.bind_eq_some_iff]
  constructor
  · rintro ⟨t, ht, hruns⟩
    rw [Text.after?_eq_some_iff] at ht
    subst ht
    rw [whole?_plainBody fun c hc => h c (List.mem_append_right _ hc)] at hruns
    split at hruns
    · simp at hruns
    · next hne => exact ⟨t, hne, rfl, (Option.some.inj hruns).symm⟩
  · rintro ⟨t, hne, rfl, rfl⟩
    refine ⟨t, Text.after?_eq_some_iff.2 rfl, ?_⟩
    rw [whole?_plainBody fun c hc => h c (List.mem_cons_of_mem _ hc), if_neg hne]

/-- Greedy runs around a bar meet at the last bar that leaves something on both sides. -/
theorem whole?_pairedBody {rest : Text} (h : ∀ c ∈ rest, inLine c = true) {runs : List Text} :
    pairedBody.whole? rest = some runs ↔ ∃ c s, LastBar rest c s ∧ runs = [c, s] := by
  have hbar : ∀ {c s : Text}, rest = c ++ '|' :: s → s ≠ [] →
      (∀ d ∈ c, inLine d = true) ∧
        Pattern.whole? [.word ['|'], .run inLine] ('|' :: s) = some [s] := by
    rintro c s rfl hs
    refine ⟨fun d hd => h d (List.mem_append_left _ hd), ?_⟩
    refine (whole?_bar fun d hd => ?_).2 ⟨s, hs, rfl, rfl⟩
    exact h d (List.mem_append_right _ hd)
  rw [Pattern.whole?, Option.map_eq_some_iff]
  constructor
  · rintro ⟨⟨c, runs'⟩, hrun, rfl⟩
    obtain ⟨hc, t, rfl, ht, hlast⟩ := Text.longestRun_eq_some hrun
    obtain ⟨s, hs, rfl, rfl⟩ := (whole?_bar fun d hd => h d (List.mem_append_right _ hd)).1 ht
    refine ⟨c, s, ⟨rfl, hc, hs, fun c' s' he _ hs' => ?_⟩, rfl⟩
    obtain ⟨hc', hw⟩ := hbar he hs'
    exact hlast c' _ he hc' (by rw [hw]; rfl)
  · rintro ⟨c, s, hbars, rfl⟩
    obtain ⟨hc, hw⟩ := hbar hbars.eq hbars.right
    cases hr : Text.longestRun inLine (Pattern.whole? [.word ['|'], .run inLine]) rest with
    | none =>
      exact absurd (Text.eq_nil_of_longestRun_eq_none hr hbars.eq hc (by rw [hw]; rfl)) hbars.left
    | some m =>
      obtain ⟨c', runs'⟩ := m
      obtain ⟨hc₀, t, he, ht, hlast⟩ := Text.longestRun_eq_some hr
      obtain ⟨s', hs', rfl, rfl⟩ :=
        (whole?_bar fun d hd => h d (by rw [he]; exact List.mem_append_right _ hd)).1 ht
      -- each of the two cuts is the last one, so they are one
      have hle := hbars.last c' s' he hc₀ hs'
      have hge := hlast c _ hbars.eq hc (by rw [hw]; rfl)
      obtain ⟨rfl, hs⟩ := List.append_inj (he.symm.trans hbars.eq) (Nat.le_antisymm hle hge)
      rw [(List.cons.inj hs).2]
      exact ⟨_, rfl, rfl⟩

/-! ## The paths of an output -/

theorem inLine_of_mem_behind {output line marker before rest : Text}
    (hline : line ∈ endedLines output)
    (hcut : Text.cut? marker (visible line) = some (before, rest)) :
    ∀ c ∈ rest, inLine c = true := by
  intro c hc
  refine inLine_of_mem_visible (not_mem_of_mem_endedLines hline) c ?_
  rw [Text.cut?_eq_some hcut]
  exact List.mem_append_right _ (List.mem_append_right _ hc)

/-- What a pattern captures in an output, said with the first occurrence of its marker. -/
theorem mem_findAll (marker : Text) (body : Pattern) (hmarker : ∀ c ∈ marker, inLine c = true)
    (hbody : ∀ piece ∈ body, Piece.Within inLine piece)
    (hmono : ∀ r t, (∀ c ∈ r, inLine c = true) → t <:+ r → body.whole? r = none →
      body.whole? t = none) {output : Text} {runs : List Text} :
    runs ∈ Pattern.findAll (.word marker :: (body ++ lineEnd)) 0 output ↔
      ∃ line ∈ endedLines output, ∃ before rest,
        Text.cut? marker (visible line) = some (before, rest) ∧
        (∀ c ∈ rest, inLine c = true) ∧ body.whole? rest = some runs := by
  rw [findAll_eq_filterMap marker body hmarker hbody hmono, List.mem_filterMap]
  constructor
  · rintro ⟨line, hline, h⟩
    obtain ⟨⟨before, rest⟩, hcut, hruns⟩ := Option.bind_eq_some_iff.1 h
    exact ⟨line, hline, before, rest, hcut, inLine_of_mem_behind hline hcut, hruns⟩
  · rintro ⟨line, hline, before, rest, hcut, -, hruns⟩
    exact ⟨line, hline, Option.bind_eq_some_iff.2 ⟨_, hcut, hruns⟩⟩

theorem mem_plainPaths {output c : Text} :
    c ∈ plainPaths output ↔ ∃ line ∈ endedLines output,
      ∃ before, Text.cut? plainMarker (visible line) = some (before, c) ∧ c.isBlank = false := by
  have hmono : ∀ r t : Text, (∀ c ∈ r, inLine c = true) → t <:+ r → plainBody.whole? r = none →
      plainBody.whole? t = none := by
    intro r t hr ht h
    rw [whole?_plainBody hr] at h
    split at h
    · next hnil =>
      subst hnil
      rw [List.suffix_nil.1 ht]
      rfl
    · simp at h
  have hfind {runs : List Text} := @mem_findAll plainMarker plainBody (List.all_eq_true.1 rfl)
    (by simp [Piece.Within]) hmono output runs
  rw [plainPaths, List.mem_filter, List.mem_filterMap]
  constructor
  · rintro ⟨⟨runs, hruns, hc⟩, hblank⟩
    obtain ⟨line, hline, before, rest, hcut, hclean, hwhole⟩ := hfind.1 hruns
    rw [whole?_plainBody hclean] at hwhole
    split at hwhole
    · simp at hwhole
    · obtain rfl := Option.some.inj hwhole
      obtain rfl := Option.some.inj hc
      exact ⟨line, hline, before, hcut, by simpa using hblank⟩
  · rintro ⟨line, hline, before, hcut, hblank⟩
    have hne : c ≠ [] := fun hc => by simp [hc, Text.isBlank] at hblank
    have hclean := inLine_of_mem_behind hline hcut
    have hwhole : plainBody.whole? c = some [c] := by rw [whole?_plainBody hclean, if_neg hne]
    have hruns := hfind.2 ⟨line, hline, before, c, hcut, hclean, hwhole⟩
    exact ⟨⟨[c], hruns, rfl⟩, by simpa using hblank⟩

theorem mem_pairedPaths {output c s : Text} :
    (c, s) ∈ pairedPaths output ↔ ∃ line ∈ endedLines output, ∃ before rest,
      Text.cut? pairedMarker (visible line) = some (before, rest) ∧ LastBar rest c s ∧
        c.isBlank = false := by
  have hmono : ∀ r t : Text, (∀ c ∈ r, inLine c = true) → t <:+ r → pairedBody.whole? r = none →
      pairedBody.whole? t = none := by
    rintro r t hr ⟨front, rfl⟩ h
    have ht : ∀ c ∈ t, inLine c = true := fun c hc => hr c (List.mem_append_right _ hc)
    cases hw : pairedBody.whole? t with
    | none => rfl
    | some runs =>
      -- a bar that can be used behind the later marker can be used behind the earlier one
      obtain ⟨c, s, hbar, -⟩ := (whole?_pairedBody ht).1 hw
      rw [Pattern.whole?, Option.map_eq_none_iff] at h
      have he : front ++ t = (front ++ c) ++ '|' :: s := by rw [hbar.eq, List.append_assoc]
      have hs : Pattern.whole? [.word ['|'], .run inLine] ('|' :: s) = some [s] := by
        refine (whole?_bar fun d hd => ht d ?_).2 ⟨s, hbar.right, rfl, rfl⟩
        rw [hbar.eq]
        exact List.mem_append_right _ hd
      have hnil := Text.eq_nil_of_longestRun_eq_none h he (fun d hd => hr d (by
        rw [he]
        exact List.mem_append_left _ hd)) (by rw [hs]; rfl)
      exact absurd (List.append_eq_nil_iff.1 hnil).2 hbar.left
  have hfind {runs : List Text} := @mem_findAll pairedMarker pairedBody (List.all_eq_true.1 rfl)
    (by simp [Piece.Within, inLine]) hmono output runs
  rw [pairedPaths, List.mem_filter, List.mem_filterMap]
  constructor
  · rintro ⟨⟨runs, hruns, hc⟩, hblank⟩
    obtain ⟨line, hline, before, rest, hcut, hclean, hwhole⟩ := hfind.1 hruns
    obtain ⟨c', s', hbar, rfl⟩ := (whole?_pairedBody hclean).1 hwhole
    obtain ⟨rfl, rfl⟩ := Prod.mk.inj (Option.some.inj hc)
    exact ⟨line, hline, before, rest, hcut, hbar, by simpa using hblank⟩
  · rintro ⟨line, hline, before, rest, hcut, hbar, hblank⟩
    have hclean := inLine_of_mem_behind hline hcut
    have hwhole := (whole?_pairedBody hclean).2 ⟨c, s, hbar, rfl⟩
    have hruns := hfind.2 ⟨line, hline, before, rest, hcut, hclean, hwhole⟩
    exact ⟨⟨[c, s], hruns, rfl⟩, by simpa using hblank⟩

/-! ## Parsing -/

/-- What an output reports, with repetitions. -/
def reported (output : Text) : List Artifact :=
  ((plainPaths output).map fun c => ⟨.ofText c, none⟩) ++
    (pairedPaths output).map fun p => ⟨.ofText p.1, some (.ofText p.2)⟩

theorem mem_reported {output : Text} {a : Artifact} :
    a ∈ reported output ↔ ∃ line ∈ endedLines output, Reports (visible line) a := by
  rw [reported, List.mem_append, List.mem_map, List.mem_map]
  constructor
  · rintro (⟨c, hc, rfl⟩ | ⟨⟨c, s⟩, hp, rfl⟩)
    · obtain ⟨line, hline, before, hcut, hblank⟩ := mem_plainPaths.1 hc
      exact ⟨line, hline, .plain hcut hblank⟩
    · obtain ⟨line, hline, before, rest, hcut, hbar, hblank⟩ := mem_pairedPaths.1 hp
      exact ⟨line, hline, .paired hcut hbar hblank⟩
  · rintro ⟨line, hline, h⟩
    cases h with
    | plain hcut hblank => exact .inl ⟨_, mem_plainPaths.2 ⟨line, hline, _, hcut, hblank⟩, rfl⟩
    | paired hcut hbar hblank =>
      exact .inr ⟨(_, _), mem_pairedPaths.2 ⟨line, hline, _, _, hcut, hbar, hblank⟩, rfl⟩

theorem parse_eq (output : Text) :
    parse output =
      if (reported output).any fun a => a.compiled.toText.isBlank then .error Artifact.blankFailure
      else .ok (reported output).eraseDups := by
  rw [parse, Artifact.mapM_of Path.ofText fun _ => none,
    Artifact.mapM_of (fun p : Text × Text => Path.ofText p.1) fun p => some (Path.ofText p.2),
    reported, List.any_append, List.any_map, List.any_map]
  simp only [Function.comp_def, Bool.or_eq_true]
  by_cases hplain : ((plainPaths output).any fun c => (Path.ofText c).toText.isBlank) = true
  · rw [if_pos hplain, if_pos (Or.inl hplain)]
    rfl
  · by_cases hpaired :
        ((pairedPaths output).any fun p => (Path.ofText p.1).toText.isBlank) = true
    · rw [if_neg hplain, if_pos hpaired, if_pos (Or.inr hpaired)]
      rfl
    · rw [if_neg hplain, if_neg hpaired, if_neg (not_or.2 ⟨hplain, hpaired⟩)]
      rfl

/-- **Parsing accepts exactly the grammar.** What comes out holds every artifact that the visible
text of an ended line reports, nothing else, and no two that are shown alike. -/
theorem mem_parse_iff {output : Text} {artifacts : List Artifact}
    (h : parse output = .ok artifacts) :
    (artifacts.map Artifact.shown).Nodup ∧
      ∀ a, a ∈ artifacts ↔ ∃ line ∈ endedLines output, Reports (visible line) a := by
  rw [parse_eq] at h
  split at h
  · simp at h
  · obtain rfl := Except.ok.inj h
    exact ⟨Artifact.nodup_shown (Artifact.nodup_eraseDups _), fun a => by
      rw [List.mem_eraseDups, mem_reported]⟩

/-- An output with a path spelled twice, a hidden beginning, a bar inside a compiled path and one
at its end, a blank path and a line that has not been ended. -/
def mixedOutput : Text :=
  "x kotlin-lsp-gradle /a//b.jar\r\nkotlin-lsp-gradle /a/b.jar\n".toList ++
    "hidden\rkotlin-lsp-gradle-src /c|d.jar|/s.jar|\nkotlin-lsp-gradle  \t\n".toList ++
    "kotlin-lsp-gradle /lost".toList

set_option maxRecDepth 4000 in
theorem parse_mixedOutput :
    parse mixedOutput =
      .ok [⟨.ofText "/a/b.jar".toList, none⟩,
        ⟨.ofText "/c|d.jar".toList, some (.ofText "/s.jar|".toList)⟩] := by
  rfl

theorem mem_parse_mixedOutput :
    ([⟨.ofText "/a/b.jar".toList, none⟩,
        ⟨.ofText "/c|d.jar".toList, some (.ofText "/s.jar|".toList)⟩].map
      Artifact.shown).Nodup ∧
      ∀ a, a ∈ [⟨.ofText "/a/b.jar".toList, none⟩,
          ⟨.ofText "/c|d.jar".toList, some (.ofText "/s.jar|".toList)⟩] ↔
        ∃ line ∈ endedLines mixedOutput, Reports (visible line) a :=
  mem_parse_iff parse_mixedOutput

/-- **When parsing fails.** An output is parsed unless a line reports a blank name as a compiled
path; the failure is always the one of an artifact with a blank path. -/
theorem parse_isOk_iff (output : Text) :
    ((∃ artifacts, parse output = .ok artifacts) ↔
      ∀ line ∈ endedLines output, ∀ a, Reports (visible line) a → ¬a.compiled.IsBlankName) ∧
    ∀ e, parse output = .error e → e = Artifact.blankFailure := by
  rw [parse_eq]
  by_cases hblank : ((reported output).any fun a => a.compiled.toText.isBlank) = true
  · rw [if_pos hblank]
    obtain ⟨a, ha, hname⟩ := List.any_eq_true.1 hblank
    obtain ⟨line, hline, hreports⟩ := mem_reported.1 ha
    refine ⟨⟨fun ⟨_, h⟩ => by simp at h, fun h => ?_⟩, fun e he => (Except.error.inj he).symm⟩
    exact absurd (Path.isBlank_toText.1 hname) (h line hline a hreports)
  · rw [if_neg hblank]
    refine ⟨⟨fun _ line hline a hreports hname => hblank ?_, fun _ => ⟨_, rfl⟩⟩, fun e he => by
      simp at he⟩
    exact List.any_eq_true.2
      ⟨a, mem_reported.2 ⟨line, hline, hreports⟩, Path.isBlank_toText.2 hname⟩

/-- A blank followed by a slash is not a blank text, and it is read as a path with a blank name: one
such line costs the output all its artifacts. -/
theorem not_parse_blankName :
    let output : Text := "kotlin-lsp-gradle  /\nkotlin-lsp-gradle /a.jar\n".toList
    plainPaths output = [" /".toList, "/a.jar".toList] ∧
      ¬∃ artifacts, parse output = .ok artifacts := by
  refine ⟨rfl, fun ⟨artifacts, h⟩ => ?_⟩
  have herr : parse "kotlin-lsp-gradle  /\nkotlin-lsp-gradle /a.jar\n".toList =
      .error Artifact.blankFailure := rfl
  rw [herr] at h
  exact absurd h (by simp)

end ClasspathProbe.Marker
