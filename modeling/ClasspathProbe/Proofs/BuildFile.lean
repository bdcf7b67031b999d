import ClasspathProbe.Resolver
import ClasspathProbe.Proofs.World.Action

/-!
# The build file of a path

Looking for the build file changes nothing, and what it gives is told by where three paths lead
(`BuildFile.IsFor`).
-/

namespace ClasspathProbe

open ClasspathProbe.Action (exec exec_bind exec_bind_ok exec_bind_error)

variable {w : World}

/-! ## Where names lead -/

namespace World

/-- Whether a name leads to a node. A name that the operating system would cut leads nowhere. -/
def LeadsTo (w : World) (name : Text) (node : Node) : Prop :=
  name.contains '\x00' = false ∧ ∃ place, w.tree.look w.here name = .ok (place, node)

theorem LeadsTo.unique {name : Text} {node node' : Node} (h : w.LeadsTo name node)
    (h' : w.LeadsTo name node') : node = node' := by
  obtain ⟨-, place, hlook⟩ := h
  obtain ⟨-, place', hlook'⟩ := h'
  have heq := Except.ok.inj (hlook.symm.trans hlook')
  exact (Prod.mk.inj heq).2

end World

namespace Action

/-- A test of the node that a name leads to tells whether there is one and how it tests. -/
theorem exec_test_look (f : Location × Node → Bool) (name : Text) (w : World) :
    ∃ outcome, exec (test (fun t here s => (t.look here s).map f) name) w = (outcome, w) ∧
      ∀ b, outcome = .ok b → (b = true ↔ ∃ place node, name.contains '\x00' = false ∧
        w.tree.look w.here name = .ok (place, node) ∧ f (place, node) = true) := by
  rw [exec_test]
  split
  next hnul =>
    refine ⟨_, rfl, fun b hb => ?_⟩
    obtain rfl := Except.ok.inj hb
    constructor
    · exact fun h => absurd h Bool.false_ne_true
    · rintro ⟨_, _, hclean, -⟩
      rw [hclean] at hnul
      exact absurd hnul Bool.false_ne_true
  next hnul =>
  cases hlook : w.tree.look w.here name with
  | ok found =>
    refine ⟨_, rfl, fun b hb => ?_⟩
    obtain rfl := Except.ok.inj hb
    obtain ⟨place, node⟩ := found
    simp only [Except.ok.injEq, Prod.mk.injEq]
    constructor
    · exact fun h => ⟨place, node, by simpa using hnul, ⟨rfl, rfl⟩, h⟩
    · rintro ⟨_, _, -, ⟨rfl, rfl⟩, h⟩
      exact h
  | error why =>
    dsimp only [Except.map]
    split
    · exact ⟨_, rfl, fun b hb => by cases hb; simp⟩
    · exact ⟨_, rfl, fun b hb => by cases hb⟩

theorem exec_isThere (p : Path) (w : World) :
    ∃ outcome, exec (isThere p) w = (outcome, w) ∧
      ∀ b, outcome = .ok b → (b = true ↔ ∃ node, w.LeadsTo p.toText node) := by
  obtain ⟨outcome, hexec, htells⟩ := exec_test_look (fun _ => true) p.toText w
  refine ⟨outcome, hexec, fun b hb => ?_⟩
  rw [htells b hb]
  constructor
  · rintro ⟨place, node, hnul, hlook, -⟩
    exact ⟨node, hnul, place, hlook⟩
  · rintro ⟨node, hnul, place, hlook⟩
    exact ⟨place, node, hnul, hlook, rfl⟩

/-- A file is read exactly when a name leads to one. -/
theorem exec_ask_read {name : Text} {f : File} (h : w.LeadsTo name (.file f)) :
    exec (ask FileTree.read name) w = (.ok f.bytes, w) := by
  obtain ⟨hnul, place, hlook⟩ := h
  have hread : w.tree.read w.here name = .ok f.bytes := by
    rw [FileTree.read, hlook]
    rfl
  rw [exec_ask, hnul, hread]
  rfl

theorem of_exec_ask_read {name : Text} {bytes : List UInt8} {w' : World}
    (h : exec (ask FileTree.read name) w = (.ok bytes, w')) :
    ∃ f, w.LeadsTo name (.file f) ∧ f.bytes = bytes := by
  rw [exec_ask] at h
  split at h
  · cases h
  · next hnul =>
    cases hlook : w.tree.look w.here name with
    | error why =>
      rw [FileTree.read, hlook] at h
      cases h
    | ok found =>
      obtain ⟨place, node⟩ := found
      rw [FileTree.read, hlook] at h
      cases node with
      | file f =>
        obtain ⟨hbytes, -⟩ := Prod.mk.inj h
        exact ⟨f, ⟨by simpa using hnul, place, hlook⟩, Except.ok.inj hbytes⟩
      | directory time => cases h
      | link target => cases h

theorem exec_isDirectory_leads (p : Path) (w : World) :
    ∃ outcome, exec (isDirectory p) w = (outcome, w) ∧
      ∀ b, outcome = .ok b → (b = true ↔ ∃ time, w.LeadsTo p.toText (.directory time)) := by
  obtain ⟨outcome, hexec, htells⟩ : ∃ outcome, exec (isDirectory p) w = (outcome, w) ∧ _ :=
    exec_test_look _ p.toText w
  refine ⟨outcome, hexec, fun b hb => ?_⟩
  rw [htells b hb]
  constructor
  · rintro ⟨place, node, hnul, hlook, hdirectory⟩
    cases node with
    | directory time => exact ⟨time, hnul, place, hlook⟩
    | _ => cases hdirectory
  · rintro ⟨time, hnul, place, hlook⟩
    exact ⟨place, .directory time, hnul, hlook, rfl⟩

end Action

/-! ## The search -/

namespace BuildFile

/-- Which build file a path stands for: in a directory the one of the typed dialect, or else the
common one; the path itself when it leads to no directory or to one without build files. -/
inductive IsFor (w : World) (p : Path) : Path → Prop where
  | noDirectory (elsewhere : ∀ time, ¬w.LeadsTo p.toText (.directory time)) : IsFor w p p
  | typed {time : Int} {node : Node} (directory : w.LeadsTo p.toText (.directory time))
      (there : w.LeadsTo (p.join (.ofText "build.gradle.kts")).toText node) :
      IsFor w p (p.join (.ofText "build.gradle.kts"))
  | common {time : Int} {node : Node} (directory : w.LeadsTo p.toText (.directory time))
      (noTyped : ∀ node, ¬w.LeadsTo (p.join (.ofText "build.gradle.kts")).toText node)
      (there : w.LeadsTo (p.join (.ofText "build.gradle")).toText node) :
      IsFor w p (p.join (.ofText "build.gradle"))
  | noBuildFile {time : Int} (directory : w.LeadsTo p.toText (.directory time))
      (noTyped : ∀ node, ¬w.LeadsTo (p.join (.ofText "build.gradle.kts")).toText node)
      (noCommon : ∀ node, ¬w.LeadsTo (p.join (.ofText "build.gradle")).toText node) : IsFor w p p

/-- What a search for the first of some names in a directory gives. -/
inductive FirstIn (w : World) (directory : Path) : List Text → Option Path → Prop where
  | nothing : FirstIn w directory [] none
  | here {name : Text} {names : List Text} {node : Node}
      (there : w.LeadsTo (directory.join (.ofText name)).toText node) :
      FirstIn w directory (name :: names) (some (directory.join (.ofText name)))
  | later {name : Text} {names : List Text} {found : Option Path}
      (absent : ∀ node, ¬w.LeadsTo (directory.join (.ofText name)).toText node)
      (rest : FirstIn w directory names found) : FirstIn w directory (name :: names) found

theorem exec_firstIn? (directory : Path) (names : List Text) (w : World) :
    ∃ outcome, exec (firstIn? directory names) w = (outcome, w) ∧
      ∀ found, outcome = .ok found → FirstIn w directory names found := by
  induction names with
  | nil =>
    refine ⟨_, rfl, fun found hfound => ?_⟩
    obtain rfl := Except.ok.inj hfound
    exact .nothing
  | cons name names ih =>
    obtain ⟨there, hthere, htells⟩ := Action.exec_isThere (directory.join (.ofText name)) w
    cases there with
    | error e => exact ⟨_, exec_bind_error hthere _, fun found hfound => by cases hfound⟩
    | ok b =>
      have htells := htells b rfl
      cases b with
      | true =>
        refine ⟨_, exec_bind_ok hthere _, fun found hfound => ?_⟩
        obtain rfl := Except.ok.inj hfound
        obtain ⟨node, hnode⟩ := htells.1 rfl
        exact .here hnode
      | false =>
        obtain ⟨outcome, hrest, hfirst⟩ := ih
        refine ⟨outcome, (exec_bind_ok hthere _).trans hrest, fun found hfound => ?_⟩
        exact .later (fun node hnode => Bool.false_ne_true (htells.2 ⟨node, hnode⟩))
          (hfirst found hfound)

theorem exec_find (p : Path) (w : World) :
    ∃ outcome, exec (find p) w = (outcome, w) ∧ ∀ file, outcome = .ok file → IsFor w p file := by
  obtain ⟨isDirectory, hdirectory, htells⟩ := Action.exec_isDirectory_leads p w
  cases isDirectory with
  | error e => exact ⟨_, exec_bind_error hdirectory _, fun file hfile => by cases hfile⟩
  | ok b =>
    have htells := htells b rfl
    cases b with
    | false =>
      refine ⟨_, exec_bind_ok hdirectory _, fun file hfile => ?_⟩
      obtain rfl := Except.ok.inj hfile
      exact .noDirectory fun time htime => Bool.false_ne_true (htells.2 ⟨time, htime⟩)
    | true =>
      obtain ⟨time, htime⟩ := htells.1 rfl
      obtain ⟨first, hfirst, hnames⟩ :=
        exec_firstIn? p [Resolver.kotlinBuildFile, Resolver.groovyBuildFile] w
      cases first with
      | error e =>
        exact ⟨_, (exec_bind_ok hdirectory _).trans (exec_bind_error hfirst _),
          fun file hfile => by cases hfile⟩
      | ok found =>
        have hfind : exec (find p) w = _ :=
          (exec_bind_ok hdirectory _).trans (exec_bind_ok hfirst _)
        cases hnames found rfl with
        | here there =>
          refine ⟨_, hfind, fun file hfile => ?_⟩
          obtain rfl := Except.ok.inj hfile
          exact .typed htime there
        | later noTyped rest =>
          cases rest with
          | here there =>
            refine ⟨_, hfind, fun file hfile => ?_⟩
            obtain rfl := Except.ok.inj hfile
            exact .common htime noTyped there
          | later noCommon rest =>
            cases rest
            refine ⟨_, hfind, fun file hfile => ?_⟩
            obtain rfl := Except.ok.inj hfile
            exact .noBuildFile htime noTyped noCommon

end BuildFile

end ClasspathProbe
