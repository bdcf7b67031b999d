import ClasspathProbe.Proofs.Marker.Grammar
import ClasspathProbe.Proofs.Probe.Print

/-!
# Outputs with marker lines

A build writes the marker lines of its artifacts among lines of its own. When no path holds a marker
or a bar where it would be taken for the line's own, parsing gives back exactly the artifacts that
were printed (`parse_printed`). One line after the other is read for itself, so this is a fact about
the visible text of each kind of line (`OutputLine.reports_visible_iff`).
-/

namespace ClasspathProbe.Marker

/-! ## Lines of an output -/

/-- A line of the output of a build: one that reports an artifact, or any other. -/
inductive OutputLine where
  | report (compiled : Text) (sources : Option Text)
  | chatter (text : Text)

/-- How a line ends. -/
inductive LineEnd where
  | feed
  | returnFeed

namespace OutputLine

def text : OutputLine → Text
  | report compiled sources => line compiled sources
  | chatter text => text

/-- The artifact that a line is about. -/
def artifact? : OutputLine → Option Artifact
  | report compiled sources => some ⟨.ofText compiled, sources.map .ofText⟩
  | chatter _ => none

end OutputLine

/-- What a line holds before its line feed. -/
def LineEnd.lead : LineEnd → Text
  | feed => []
  | returnFeed => ['\r']

/-- Lines with their ends, and what follows the last of them. -/
def printed (lines : List (OutputLine × LineEnd)) (tail : Text) : Text :=
  (lines.flatMap fun l => l.1.text ++ l.2.lead ++ ['\n']) ++ tail

/-- An absolute path that stands in one line. -/
structure IsPrintable (path : Text) : Prop where
  absolute : path.head? = some '/'
  inLine : ∀ c ∈ path, inLine c = true

/-- Lines that cannot be taken for others. -/
inductive OutputLine.IsClear : OutputLine → Prop where
  | plain {c : Text} (compiled : IsPrintable c) (marker : ¬pairedMarker <:+: c) :
      IsClear (.report c none)
  | paired {c s : Text} (compiled : IsPrintable c) (sources : IsPrintable s) (bar : '|' ∉ s)
      (compiledMarker : ¬plainMarker <:+: c) (sourcesMarker : ¬plainMarker <:+: s) :
      IsClear (.report c (some s))
  | chatter {t : Text} (oneLine : '\n' ∉ t) (plain : ¬plainMarker <:+: t)
      (paired : ¬pairedMarker <:+: t) : IsClear (.chatter t)

namespace IsPrintable

variable {path : Text}

theorem ne_nil (h : IsPrintable path) : path ≠ [] := by
  intro hnil
  have habs := h.absolute
  simp [hnil] at habs

theorem isBlank_eq (h : IsPrintable path) : path.isBlank = false := by
  obtain ⟨rest, rfl⟩ := List.head?_eq_some_iff.1 h.absolute
  rfl

theorem not_isBlankName (h : IsPrintable path) : ¬(Path.ofText path).IsBlankName := fun hblank =>
  Path.ofText_ne_here h.absolute hblank.1

end IsPrintable

/-! ## The visible text of a line -/

theorem infix_visible (line : Text) : visible line <:+: line := by
  obtain ⟨hidden, ending, h⟩ := exists_layout line
  exact ⟨hidden, ending, by rw [List.append_assoc, ← h.eq]⟩

theorem visible_of_inLine {line : Text} (h : ∀ c ∈ line, inLine c = true) (e : LineEnd) :
    visible (line ++ e.lead) = line := by
  have hclean : '\r' ∉ line := fun hr => absurd (h _ hr) (by decide)
  have hcut : Text.cutLast? '\r' line = none := Text.cutLast?_eq_none hclean
  cases e with
  | feed =>
    have hend : ¬Text.endsWith ['\r'] line = true := fun hr =>
      hclean ((List.isSuffixOf_iff_suffix.1 hr).subset List.mem_cons_self)
    simp [visible, LineEnd.lead, hend, hcut]
  | returnFeed =>
    have hend : Text.endsWith ['\r'] (line ++ ['\r']) = true :=
      List.isSuffixOf_iff_suffix.2 (List.suffix_append line _)
    simp [visible, LineEnd.lead, hend, hcut]

theorem endedLines_printed {lines : List (OutputLine × LineEnd)} {tail : Text}
    (hlines : ∀ l ∈ lines, '\n' ∉ l.1.text) (htail : '\n' ∉ tail) :
    endedLines (printed lines tail) = lines.map fun l => l.1.text ++ l.2.lead := by
  induction lines with
  | nil => exact endedLines_of_not_mem htail
  | cons l lines ih =>
    obtain ⟨hl, hlines⟩ := List.forall_mem_cons.1 hlines
    have hlead : '\n' ∉ l.1.text ++ l.2.lead := by
      rw [List.mem_append, not_or]
      refine ⟨hl, ?_⟩
      cases l.2 <;> simp [LineEnd.lead]
    have hfirst : printed (l :: lines) tail =
        (l.1.text ++ l.2.lead) ++ '\n' :: printed lines tail := by
      simp [printed]
    rw [hfirst, endedLines_append_cons hlead, ih hlines, List.map_cons]

/-! ## What each kind of line reports -/

/-- A marker in what is visible of a line stands in the line itself. -/
theorem infix_of_infix_visible {marker text : Text} (hmarker : '\r' ∉ marker) (e : LineEnd)
    (h : marker <:+: visible (text ++ e.lead)) : marker <:+: text := by
  have hline : marker <:+: text ++ e.lead := h.trans (infix_visible _)
  cases e with
  | feed => simpa [LineEnd.lead] using hline
  | returnFeed =>
    obtain h | h := Text.infix_append_cons hmarker hline
    · exact h
    · rw [List.infix_nil.1 h]
      exact List.nil_infix

theorem not_reports {text : Text} {a : Artifact} (hplain : ¬plainMarker <:+: text)
    (hpaired : ¬pairedMarker <:+: text) : ¬Reports text a := by
  intro h
  cases h with
  | plain found => simp [Text.cut?_eq_none hplain] at found
  | paired found => simp [Text.cut?_eq_none hpaired] at found

/-- The blank that ends the two markers stands nowhere else in them. -/
theorem not_mem_dropLast : ' ' ∉ plainMarker.dropLast ∧ ' ' ∉ pairedMarker.dropLast := by
  have hplain : plainMarker.dropLast.contains ' ' = false := rfl
  have hpaired : pairedMarker.dropLast.contains ' ' = false := rfl
  exact ⟨by simpa using hplain, by simpa using hpaired⟩

theorem inLine_markers :
    (∀ c ∈ plainMarker, inLine c = true) ∧ ∀ c ∈ pairedMarker, inLine c = true :=
  ⟨List.all_eq_true.1 rfl, List.all_eq_true.1 rfl⟩

/-- Neither marker holds the other. -/
theorem markers_apart : ¬plainMarker <:+: pairedMarker ∧ ¬pairedMarker <:+: plainMarker :=
  ⟨Text.not_infix_of_occurs rfl, Text.not_infix_of_occurs rfl⟩

theorem reports_plain_iff {c : Text} {a : Artifact} (hc : IsPrintable c)
    (hmarker : ¬pairedMarker <:+: c) :
    Reports (line c none) a ↔ a = ⟨.ofText c, none⟩ := by
  have hcut : Text.cut? plainMarker (line c none) = some ([], c) := Text.cut?_append plainMarker c
  have hother : ¬pairedMarker <:+: line c none := fun h =>
    (Text.infix_append_of_getLast? not_mem_dropLast.2 rfl h).elim markers_apart.2 hmarker
  constructor
  · intro h
    cases h with
    | plain found =>
      rw [hcut] at found
      obtain ⟨-, rfl⟩ := Prod.mk.inj (Option.some.inj found)
      rfl
    | paired found => simp [Text.cut?_eq_none hother] at found
  · rintro rfl
    exact .plain hcut hc.isBlank_eq

/-- A bar with no other behind it is the last that leaves something on both sides. -/
theorem LastBar.of_not_mem {c s : Text} (hc : c ≠ []) (hs : s ≠ []) (hbar : '|' ∉ s) :
    LastBar (c ++ '|' :: s) c s := by
  refine ⟨rfl, hc, hs, fun c' s' he _ _ => ?_⟩
  obtain ⟨d, hc', hd⟩ | ⟨d, hc', -⟩ := List.append_eq_append_iff.1 he
  · cases d with
    | nil => simp [hc']
    | cons x d =>
      rw [List.cons_append, List.cons.injEq] at hd
      exact absurd (hd.2 ▸ List.mem_append_right d List.mem_cons_self) hbar
  · rw [hc', List.length_append]
    exact Nat.le_add_right _ _

/-- A text is cut at its last bar in one way. -/
theorem LastBar.unique {rest c s c' s' : Text} (h : LastBar rest c s) (h' : LastBar rest c' s') :
    c = c' ∧ s = s' := by
  have hle := h.last c' s' h'.eq h'.left h'.right
  have hge := h'.last c s h.eq h.left h.right
  obtain ⟨hc, hs⟩ := List.append_inj (h.eq.symm.trans h'.eq) (Nat.le_antisymm hge hle)
  exact ⟨hc, (List.cons.inj hs).2⟩

theorem reports_paired_iff {c s : Text} {a : Artifact} (hc : IsPrintable c) (hs : IsPrintable s)
    (hbar : '|' ∉ s) (hcmarker : ¬plainMarker <:+: c) (hsmarker : ¬plainMarker <:+: s) :
    Reports (line c (some s)) a ↔ a = ⟨.ofText c, some (.ofText s)⟩ := by
  have hline : line c (some s) = pairedMarker ++ (c ++ '|' :: s) := List.append_assoc _ _ _
  have hcut : Text.cut? pairedMarker (line c (some s)) = some ([], c ++ '|' :: s) := by
    rw [hline, Text.cut?_append]
  have hlast : LastBar (c ++ '|' :: s) c s := .of_not_mem hc.ne_nil hs.ne_nil hbar
  have hother : ¬plainMarker <:+: line c (some s) := by
    rw [hline]
    intro h
    obtain h | h := Text.infix_append_of_getLast? not_mem_dropLast.1 rfl h
    · exact markers_apart.1 h
    · have hnobar : plainMarker.contains '|' = false := rfl
      exact (Text.infix_append_cons (by simpa using hnobar) h).elim hcmarker hsmarker
  constructor
  · intro h
    cases h with
    | plain found => simp [Text.cut?_eq_none hother] at found
    | paired found bar =>
      rw [hcut] at found
      obtain ⟨-, rfl⟩ := Prod.mk.inj (Option.some.inj found)
      obtain ⟨rfl, rfl⟩ := bar.unique hlast
      rfl
  · rintro rfl
    exact .paired hcut hlast hc.isBlank_eq

/-! ## Parsing a printed output -/

namespace OutputLine

variable {l : OutputLine}

theorem IsClear.not_mem_text (h : l.IsClear) : '\n' ∉ l.text := by
  have hpath : ∀ {path : Text}, IsPrintable path → '\n' ∉ path := fun hp hn =>
    absurd (hp.inLine _ hn) (by decide)
  cases h with
  | plain hc =>
    have hmarker : plainMarker.contains '\n' = false := rfl
    simpa [text, line, hpath hc] using hmarker
  | paired hc hs =>
    have hmarker : pairedMarker.contains '\n' = false := rfl
    simpa [text, line, hpath hc, hpath hs] using hmarker
  | chatter oneLine => exact oneLine

/-- A clear line reports its artifact, if it is about one, and nothing else. -/
theorem IsClear.reports_iff (h : l.IsClear) (e : LineEnd) {a : Artifact} :
    Reports (visible (l.text ++ e.lead)) a ↔ l.artifact? = some a := by
  cases h with
  | @plain c hc hmarker =>
    have hline : ∀ d ∈ line c none, inLine d = true :=
      List.forall_mem_append.2 ⟨inLine_markers.1, hc.inLine⟩
    rw [text, visible_of_inLine hline, reports_plain_iff hc hmarker, artifact?, Option.some_inj]
    exact eq_comm
  | @paired c s hc hs hbar hcmarker hsmarker =>
    have hline : ∀ d ∈ line c (some s), inLine d = true := by
      refine List.forall_mem_append.2 ⟨List.forall_mem_append.2 ⟨inLine_markers.2, hc.inLine⟩, ?_⟩
      exact List.forall_mem_cons.2 ⟨by decide, hs.inLine⟩
    rw [text, visible_of_inLine hline, reports_paired_iff hc hs hbar hcmarker hsmarker, artifact?,
      Option.some_inj]
    exact eq_comm
  | @chatter t oneLine hplain hpaired =>
    have hreturn : ∀ {marker : Text}, (∀ c ∈ marker, inLine c = true) → '\r' ∉ marker :=
      fun hmarker hr => absurd (hmarker _ hr) (by decide)
    have hnone : ¬Reports (visible (t ++ e.lead)) a := not_reports
      (fun h => hplain (infix_of_infix_visible (hreturn inLine_markers.1) e h))
      (fun h => hpaired (infix_of_infix_visible (hreturn inLine_markers.2) e h))
    simp [text, artifact?, hnone]

/-- The paths of a clear line do not make a blank name. -/
theorem IsClear.not_isBlankName (h : l.IsClear) {a : Artifact} (ha : l.artifact? = some a) :
    ¬a.compiled.IsBlankName := by
  cases h with
  | plain hc =>
    obtain rfl := Option.some.inj ha
    exact hc.not_isBlankName
  | paired hc =>
    obtain rfl := Option.some.inj ha
    exact hc.not_isBlankName
  | chatter => simp [artifact?] at ha

end OutputLine

theorem mem_reported_printed {lines : List (OutputLine × LineEnd)} {tail : Text}
    (hlines : ∀ l ∈ lines, l.1.IsClear) (htail : '\n' ∉ tail) {a : Artifact} :
    a ∈ reported (printed lines tail) ↔ ∃ l ∈ lines, l.1.artifact? = some a := by
  rw [mem_reported, endedLines_printed (fun l hl => (hlines l hl).not_mem_text) htail]
  constructor
  · rintro ⟨line, hline, hreports⟩
    obtain ⟨l, hl, rfl⟩ := List.mem_map.1 hline
    exact ⟨l, hl, ((hlines l hl).reports_iff l.2).1 hreports⟩
  · rintro ⟨l, hl, ha⟩
    exact ⟨_, List.mem_map_of_mem hl, ((hlines l hl).reports_iff l.2).2 ha⟩

/-- **What is printed is read back.** The lines with a marker are those that the scripts print for
artifacts, and parsing an output of clear lines gives the artifacts that it reports, each once. What
follows the last line end does not count. -/
theorem parse_printed (lines : List (OutputLine × LineEnd)) (tail : Text)
    (hlines : ∀ l ∈ lines, l.1.IsClear) (htail : '\n' ∉ tail) :
    (∀ compiled sources text,
      (∃ p parts, parts ∈ Probe.reports p ∧
        Probe.filled? parts (compiled :: sources.toList) = some text) ↔
      text = (OutputLine.report compiled sources).text) ∧
    ∃ artifacts, parse (printed lines tail) = .ok artifacts ∧
      (artifacts.map Artifact.shown).Nodup ∧
      ∀ a, a ∈ artifacts ↔ ∃ l ∈ lines, l.1.artifact? = some a := by
  refine ⟨fun compiled sources text => Probe.exists_reports_iff, ?_⟩
  have hmem : ∀ {a : Artifact}, _ ↔ _ := @mem_reported_printed lines tail hlines htail
  have hblank : ¬((reported (printed lines tail)).any fun a => a.compiled.toText.isBlank) = true := by
    intro h
    obtain ⟨a, ha, hname⟩ := List.any_eq_true.1 h
    obtain ⟨l, hl, hla⟩ := hmem.1 ha
    exact (hlines l hl).not_isBlankName hla (Path.isBlank_toText.1 hname)
  refine ⟨(reported (printed lines tail)).eraseDups, by rw [parse_eq, if_neg hblank], ?_, ?_⟩
  · exact Artifact.nodup_shown (Artifact.nodup_eraseDups _)
  · intro a
    rw [List.mem_eraseDups, hmem]

/-- A path spelled twice, a bar in a compiled path, both ends of lines, lines of other kinds. -/
def sampleLines : List (OutputLine × LineEnd) :=
  [(.chatter "> Task :deps\rdone".toList, .feed),
    (.report "/a//b.jar".toList none, .returnFeed),
    (.report "/c|d.jar".toList (some "/s.jar".toList), .feed),
    (.chatter [], .returnFeed),
    (.report "/a/b.jar".toList none, .feed)]

theorem isClear_sampleLines : ∀ l ∈ sampleLines, l.1.IsClear := by
  have hpath : IsPrintable "/a//b.jar".toList ∧ IsPrintable "/a/b.jar".toList ∧
      IsPrintable "/c|d.jar".toList ∧ IsPrintable "/s.jar".toList :=
    ⟨⟨rfl, List.all_eq_true.1 rfl⟩, ⟨rfl, List.all_eq_true.1 rfl⟩, ⟨rfl, List.all_eq_true.1 rfl⟩,
      ⟨rfl, List.all_eq_true.1 rfl⟩⟩
  obtain ⟨ha, hb, hc, hs⟩ := hpath
  have hfree : ∀ {marker s : Text}, Text.occurs marker s = false → ¬marker <:+: s :=
    Text.not_infix_of_occurs
  refine List.forall_mem_cons.2 ⟨.chatter (by decide) (hfree rfl) (hfree rfl), ?_⟩
  refine List.forall_mem_cons.2 ⟨.plain ha (hfree rfl), ?_⟩
  refine List.forall_mem_cons.2 ⟨.paired hc hs (by decide) (hfree rfl) (hfree rfl), ?_⟩
  refine List.forall_mem_cons.2 ⟨.chatter (by decide) (hfree rfl) (hfree rfl), ?_⟩
  exact List.forall_mem_singleton.2 (.plain hb (hfree rfl))

theorem parse_printed_sampleLines :
    (∀ l ∈ sampleLines, l.1.IsClear) ∧ '\n' ∉ "kotlin-lsp-gradle /lost".toList ∧
      ∃ artifacts, parse (printed sampleLines "kotlin-lsp-gradle /lost".toList) = .ok artifacts ∧
        (artifacts.map Artifact.shown).Nodup ∧
        ∀ a, a ∈ artifacts ↔ ∃ l ∈ sampleLines, l.1.artifact? = some a := by
  have htail : '\n' ∉ "kotlin-lsp-gradle /lost".toList := by decide
  exact ⟨isClear_sampleLines, htail, (parse_printed _ _ isClear_sampleLines htail).2⟩

end ClasspathProbe.Marker
