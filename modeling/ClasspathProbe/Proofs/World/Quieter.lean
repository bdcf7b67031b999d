import Mathlib.Data.List.Forall2
import ClasspathProbe.Proofs.FileTree.Longer
import ClasspathProbe.Proofs.World.Log

/-!
# Worlds with a quieter log

Of two worlds the first is the quieter one (`World.Quieter`) when its log lets less through and they
differ in what that makes: records, lines on the console, and bytes in the files that records are
added to. As long as those files are there (`World.LogsOpen`), taking a record keeps it so
(`Quieter.take`): what the quieter log lets through the other one does.
-/

namespace ClasspathProbe

variable {P : Location → Prop}

/-- A sink that gets what another one gets, and may get more. -/
inductive Log.Sink.Quieter : Log.Sink → Log.Sink → Prop where
  | rich : Quieter .rich .rich
  | plain (layout : Text) : Quieter (.plain layout) (.plain layout)
  | file (path : Text) {least least' : Log.Level} (le : least' ≤ least) :
      Quieter (.file path least) (.file path least')

theorem Log.Sink.Quieter.refl (sink : Log.Sink) : Log.Sink.Quieter sink sink := by
  cases sink with
  | rich => exact .rich
  | plain layout => exact .plain layout
  | file path least => exact .file path (Int.le_refl _)

/-- The same deed, over files that may be longer. -/
inductive Deed.Quieter (P : Location → Prop) : Deed → Deed → Prop where
  | asked (command : Text) : Quieter P (.asked command) (.asked command)
  | ran (command : List Text) (directory : Path) {t t' : FileTree} (tree : t.Longer P t') :
      Quieter P (.ran command directory t) (.ran command directory t')

namespace World

variable {w w' w₁ : World} {r : Log.Record}

/-- The first world differs from the second in less logging only: fewer of the same records in the
same order, and files at some places that may be shorter. -/
structure Quieter (P : Location → Prop) (w w' : World) : Prop where
  tree : w.tree.Longer P w'.tree
  here : w'.here = w.here
  tempDirectory : w'.tempDirectory = w.tempDirectory
  environment : w'.environment = w.environment
  namesTried : w'.namesTried = w.namesTried
  disk : w'.disk = w.disk
  commonConfig : w'.commonConfig = w.commonConfig
  cached : w'.cached = w.cached
  now : w'.now = w.now
  scene : w'.scene = w.scene
  threshold : w'.log.threshold ≤ w.log.threshold
  sinks : List.Forall₂ Log.Sink.Quieter w.log.sinks w'.log.sinks
  known : w'.log.known = w.log.known
  records : w.log.records.Sublist w'.log.records
  console : w.log.console.Sublist w'.log.console
  deeds : List.Forall₂ (Deed.Quieter P) w.deeds w'.deeds

/-- Whether the file of a sink is there, at one of some places. -/
def IsOpen (P : Location → Prop) (w : World) : Log.Sink → Prop
  | .file path _ =>
    ∃ place f, P place ∧ w.tree.locate w.here .output path = .ok (.found place (.file f))
  | _ => True

def LogsOpen (P : Location → Prop) (w : World) : Prop := ∀ sink ∈ w.log.sinks, w.IsOpen P sink

theorem IsOpen.extends {Q : Location → Prop} {sink : Log.Sink} (h : w.IsOpen P sink)
    (hext : w.Extends Q w₁) : w₁.IsOpen P sink := by
  cases sink with
  | file path least =>
    obtain ⟨place, f, hP, hloc⟩ := h
    have hway := (hext.tree.locate w.here .output path).eq_or_file_or_blocked
    rw [IsOpen, hext.here]
    obtain he | ⟨spot, g, -, ha, hb, -⟩ | ⟨ha, -⟩ := hway
    · exact ⟨place, f, hP, he.trans hloc⟩
    · obtain rfl := Except.ok.inj (hloc.symm.trans ha)
      exact ⟨place, g, hP, hb⟩
    · cases hloc.symm.trans ha
  | _ => trivial

theorem LogsOpen.extends {Q : Location → Prop} (h : w.LogsOpen P) (hext : w.Extends Q w₁) :
    w₁.LogsOpen P := by
  intro sink hsink
  rw [hext.sinks] at hsink
  exact (h sink hsink).extends hext

theorem LogsOpen.mono {Q : Location → Prop} (h : w.LogsOpen P)
    (hPQ : ∀ p, P p → Q p) : w.LogsOpen Q := by
  intro sink hsink
  have hopen := h sink hsink
  cases sink with
  | file path least =>
    obtain ⟨place, f, hP, hloc⟩ := hopen
    exact ⟨place, f, hPQ place hP, hloc⟩
  | _ => trivial

/-! ## Records -/

/-- The line of a record in a file. -/
def recordBytes (now : Text) (r : Log.Record) : List UInt8 :=
  Utf8.encode (now ++ " - ".toList ++ r.logger ++ " - ".toList ++ Log.levelName r.level ++
    " - ".toList ++ r.text ++ ['\n'])

theorem write_file_eq (w : World) {path : Text} {least : Log.Level} (h : least ≤ r.level) :
    w.write r (.file path least) =
      match w.tree.append w.here path (recordBytes w.now r) with
      | .ok tree => { w with tree }
      | .error _ => w :=
  if_neg (Int.not_lt.2 h)

/-- A world whose log has got a record, before the record goes to the sinks. -/
def noted (w : World) (r : Log.Record) : World :=
  { w with
    log.records := w.log.records ++ [r]
    log.console :=
      if w.log.sinks.isEmpty ∧ Log.warning ≤ r.level then w.log.console ++ r.text ++ ['\n']
      else w.log.console }

theorem take_of_lets_eq (h : w.Lets r) : w.take r = w.log.sinks.foldl (write r) (w.noted r) := by
  have hpass : ¬(decide (r.level ≤ 0) || decide (r.level < w.log.threshold)) = true := by
    rw [Bool.or_eq_true, decide_eq_true_eq, decide_eq_true_eq, not_or, Int.not_le, Int.not_lt]
    exact h
  rw [World.take, if_neg hpass, noted]
  cases hsinks : w.log.sinks with
  | cons sink sinks => simp [hsinks]
  | nil =>
    by_cases hlevel : r.level < Log.warning
    · simp [hsinks, hlevel, Int.not_le.2 hlevel]
    · simp [hsinks, hlevel, Int.not_lt.1 hlevel]

namespace Quieter

theorem refl (w : World) : Quieter P w w where
  tree := .refl _
  here := rfl
  tempDirectory := rfl
  environment := rfl
  namesTried := rfl
  disk := rfl
  commonConfig := rfl
  cached := rfl
  now := rfl
  scene := rfl
  threshold := Int.le_refl _
  sinks := List.forall₂_same.2 fun sink _ => .refl sink
  known := rfl
  records := .refl _
  console := .refl _
  deeds := List.forall₂_same.2 fun deed _ => by
    cases deed with
    | asked command => exact .asked command
    | ran command directory files => exact .ran command directory (.refl _)

/-- Longer trees in place of the old ones. -/
theorem withTree (h : Quieter P w w') {t t' : FileTree} (ht : t.Longer P t') :
    Quieter P { w with tree := t } { w' with tree := t' } := { h with tree := ht }

theorem withNames (h : Quieter P w w') (n : Nat) :
    Quieter P { w with namesTried := n } { w' with namesTried := n } := { h with namesTried := rfl }

theorem withDeed (h : Quieter P w w') {d d' : Deed} (hd : d.Quieter P d') :
    Quieter P { w with deeds := w.deeds ++ [d] } { w' with deeds := w'.deeds ++ [d'] } :=
  { h with deeds := List.rel_append h.deeds (.cons hd .nil) }

/-! ## Taking records -/

theorem lets (h : Quieter P w w') (hlets : w.Lets r) : w'.Lets r :=
  ⟨hlets.1, Int.le_trans h.threshold hlets.2⟩

/-- What is added to the file of a sink lands at the place where it is, in both worlds. -/
theorem append (h : Quieter P w w') {path : Text} {least : Log.Level}
    (hopen : w.IsOpen P (.file path least)) (bytes : List UInt8) :
    ∃ place f f', P place ∧ place ≠ [] ∧ w.tree.node? place = some (.file f) ∧ f.Longer f' ∧
      w.tree.append w.here path bytes =
        .ok (w.tree.insert place (.file { f with bytes := f.bytes ++ bytes })) ∧
      w'.tree.append w'.here path bytes =
        .ok (w'.tree.insert place (.file { f' with bytes := f'.bytes ++ bytes })) := by
  obtain ⟨place, f, hP, hloc⟩ := hopen
  have hnode := FileTree.node?_of_locate_file hloc
  have hne : place ≠ [] := by
    rintro rfl
    cases hnode
  have hspot := h.tree.locate w.here .output path
  rw [hloc] at hspot
  generalize hloc' : w'.tree.locate w.here .output path = b at hspot
  have happend : ∀ {t : FileTree} {g : File},
      t.locate w.here .output path = .ok (.found place (.file g)) →
      t.append w.here path bytes =
        .ok (t.insert place (.file { g with bytes := g.bytes ++ bytes })) := by
    intro t g hg
    rw [FileTree.append, hg]
    rfl
  rw [h.here]
  cases hspot with
  | same => exact ⟨place, f, f, hP, hne, hnode, ⟨rfl, rfl, .refl _⟩, happend hloc, happend hloc'⟩
  | longer _ hlonger => exact ⟨place, f, _, hP, hne, hnode, hlonger, happend hloc, happend hloc'⟩

theorem write_second (h : Quieter P w w') {sink sink' : Log.Sink} (hsink : sink.Quieter sink')
    (hopen : w.IsOpen P sink) (r : Log.Record) : Quieter P w (w'.write r sink') := by
  cases hsink with
  | rich => exact h
  | plain layout =>
    rw [write]
    split
    · exact { h with
        console := (h.console.trans (List.sublist_append_left _ _)).trans
          (List.sublist_append_left _ _) }
    · exact h
  | @file path least least' le =>
    by_cases hle : least' ≤ r.level
    · obtain ⟨place, f, f', hP, hne, hnode, hlonger, -, happend⟩ :=
        h.append hopen (recordBytes w'.now r)
      rw [write_file_eq w' hle, happend]
      refine { h with tree := h.tree.write_second hP hne hnode ?_ }
      exact ⟨hlonger.executable, hlonger.modified,
        hlonger.bytes.trans (List.sublist_append_left _ _)⟩
    · rw [write_file_of_lt w' (Int.not_le.1 hle)]
      exact h

theorem write_both (h : Quieter P w w') {sink sink' : Log.Sink} (hsink : sink.Quieter sink')
    (hopen : w.IsOpen P sink) (r : Log.Record) :
    Quieter P (w.write r sink) (w'.write r sink') := by
  cases hsink with
  | rich => exact h
  | plain layout =>
    have hparts : w'.partsOf r = w.partsOf r := by rw [partsOf, partsOf, h.now, h.scene]
    rw [write, write, hparts]
    split
    · exact { h with console := (h.console.append_right _).append_right _ }
    · exact h
  | @file path least least' le =>
    by_cases hle : least ≤ r.level
    · obtain ⟨place, f, f', hP, hne, hnode, hlonger, happend, happend'⟩ :=
        h.append hopen (recordBytes w.now r)
      have hline : recordBytes w'.now r = recordBytes w.now r := by rw [h.now]
      rw [write_file_eq w hle, write_file_eq w' (Int.le_trans le hle), hline, happend, happend']
      refine { h with tree := h.tree.write_both hP hne ?_ }
      exact ⟨hlonger.executable, hlonger.modified, hlonger.bytes.append_right _⟩
    · rw [write_file_of_lt w (Int.not_le.1 hle)]
      exact h.write_second (.file path le) hopen r

theorem foldl_write_second {sinks sinks' : List Log.Sink}
    (hsinks : List.Forall₂ Log.Sink.Quieter sinks sinks') (hopen : ∀ sink ∈ sinks, w.IsOpen P sink)
    (r : Log.Record) (h : Quieter P w w') : Quieter P w (sinks'.foldl (write r) w') := by
  induction hsinks generalizing w' with
  | nil => exact h
  | cons hsink _ ih =>
    obtain ⟨hfirst, hrest⟩ := List.forall_mem_cons.1 hopen
    exact ih hrest (h.write_second hsink hfirst r)

theorem foldl_write_both {sinks sinks' : List Log.Sink}
    (hsinks : List.Forall₂ Log.Sink.Quieter sinks sinks') (hopen : ∀ sink ∈ sinks, w.IsOpen P sink)
    (hmem : ∀ sink ∈ sinks, sink ∈ w.log.sinks) (hlets : w.Lets r) (h : Quieter P w w') :
    Quieter P (sinks.foldl (write r) w) (sinks'.foldl (write r) w') := by
  induction hsinks generalizing w w' with
  | nil => exact h
  | cons hsink _ ih =>
    obtain ⟨hfirst, hrest⟩ := List.forall_mem_cons.1 hopen
    obtain ⟨hin, hmems⟩ := List.forall_mem_cons.1 hmem
    have hext := write_extends hlets hin
    exact ih (fun sink hs => (hrest sink hs).extends hext) (hext.mem_sinks hmems)
      (hext.lets hlets) (h.write_both hsink hfirst r)

theorem isEmpty_sinks (h : Quieter P w w') : w'.log.sinks.isEmpty = w.log.sinks.isEmpty := by
  have hsinks := h.sinks
  generalize w.log.sinks = sinks at hsinks
  generalize w'.log.sinks = sinks' at hsinks
  cases hsinks <;> rfl

theorem noted_second (h : Quieter P w w') (r : Log.Record) : Quieter P w (w'.noted r) := by
  refine { h with records := h.records.trans (List.sublist_append_left _ _), console := ?_ }
  rw [noted]
  dsimp only
  split
  · exact (h.console.trans (List.sublist_append_left _ _)).trans (List.sublist_append_left _ _)
  · exact h.console

theorem noted_both (h : Quieter P w w') (r : Log.Record) :
    Quieter P (w.noted r) (w'.noted r) := by
  refine { h with records := h.records.append_right _, console := ?_ }
  rw [noted, noted, h.isEmpty_sinks]
  dsimp only
  split
  · exact (h.console.append_right _).append_right _
  · exact h.console

/-- Taking a record in both worlds. -/
theorem take (h : Quieter P w w') (hopen : w.LogsOpen P) (r : Log.Record) :
    Quieter P (w.take r) (w'.take r) := by
  by_cases hlets' : w'.Lets r
  · rw [take_of_lets_eq hlets']
    by_cases hlets : w.Lets r
    · rw [take_of_lets_eq hlets]
      exact foldl_write_both h.sinks hopen (fun _ hs => hs) hlets (h.noted_both r)
    · rw [take_of_not_lets hlets]
      exact foldl_write_second h.sinks hopen r (h.noted_second r)
  · rw [take_of_not_lets hlets', take_of_not_lets fun hlets => hlets' (h.lets hlets)]
    exact h

end Quieter

end World

end ClasspathProbe
