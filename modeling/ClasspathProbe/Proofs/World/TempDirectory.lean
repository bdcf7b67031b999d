import Mathlib.Data.List.Basic
import Mathlib.Data.List.Find
import ClasspathProbe.Proofs.FileTree.Absolute
import ClasspathProbe.Proofs.FileTree.Sight
import ClasspathProbe.World.TempDirectory

/-!
# The directory for temporary files

Which directory for temporary files is fixed goes by the working directory, by what the disk takes,
by three variables, and by what tests tell of absolute paths; worlds that have these in common have
the directory in common (`tempDirectory?_congr`). Once it is fixed the variables do not count.
-/

namespace ClasspathProbe

namespace FileTree

variable {t t' : FileTree} {here : Location} {path : Text}

/-- The directory that an absolute path is read in does not matter. -/
theorem sight_of_head? (h : path.head? = some '/') : t.sight here path = t.sight [] path := by
  rw [sight, sight, locate, locate, startOf, startOf, if_pos h, if_pos h]

theorem Alike.sight_absolute (htree : Alike t t') (h : path.head? = some '/') :
    t'.sight here path = t.sight here path := by
  rw [sight_of_head? h, htree.sight_eq (Grounded.nil t), ← sight_of_head? h]

end FileTree

namespace World

variable {w w' : World} {directory : Text}

/-! ## Which directory it is -/

/-- Whether a directory takes files is told by tests of its name. -/
theorem takesFiles_eq_sight (w : World) (directory : Text) :
    w.takesFiles directory =
      (decide (w.tree.sight w.here directory = .ok .directory) &&
        decide ((Utf8.encode (Path.inDirectory directory (List.replicate 8 'a'))).length ≤
          FileTree.longestPath) &&
        (w.disk (Path.inDirectory directory (List.replicate 8 'a')) trialBytes).isNone) := by
  rw [takesFiles, FileTree.leadsToDirectory, FileTree.sight]
  congr 2
  cases hloc : w.tree.locate w.here .target directory with
  | error why =>
    rw [FileTree.look_of_error hloc]
    cases why <;> rfl
  | ok spot =>
    cases spot with
    | free d n =>
      rw [FileTree.look_of_free hloc]
      rfl
    | found place node =>
      rw [FileTree.look_of_found hloc]
      cases node with
      | file f => cases hx : f.executable <;> simp [Spot.sight, hx, Except.map]
      | _ => rfl

theorem tempCandidates_congr (hhere : w'.here = w.here)
    (hvariables : ∀ name ∈ tempVariables, w'.variableText? name = w.variableText? name) :
    w'.tempCandidates = w.tempCandidates := by
  have hnames : tempVariables.filterMap w'.variableText? =
      tempVariables.filterMap w.variableText? := List.filterMap_congr hvariables
  rw [tempCandidates, tempCandidates, hnames, World.directory, World.directory, hhere]

/-- Worlds have the directory for temporary files in common when they have in common what it is
chosen by. Variables count until it is fixed. -/
theorem tempDirectory?_congr (hhere : w'.here = w.here) (hdisk : w'.disk = w.disk)
    (hfixed : w'.tempDirectory = w.tempDirectory)
    (hvariables : w.tempDirectory = none →
      ∀ name ∈ tempVariables, w'.variableText? name = w.variableText? name)
    (hsight : ∀ path : Text, path.head? = some '/' →
      w'.tree.sight w.here path = w.tree.sight w.here path) :
    w'.tempDirectory? = w.tempDirectory? := by
  rw [tempDirectory?, tempDirectory?, hfixed]
  cases htemp : w.tempDirectory with
  | some directory => rfl
  | none =>
    have hcandidates : w'.tempCandidates.map w'.fullName = w.tempCandidates.map w.fullName := by
      rw [tempCandidates_congr hhere (hvariables htemp)]
      exact List.map_congr_left fun name _ => fullName_of_here hhere name
    dsimp only
    rw [hcandidates]
    refine List.find?_congr fun directory hmem => ?_
    obtain ⟨name, -, rfl⟩ := List.mem_map.1 hmem
    rw [takesFiles_eq_sight, takesFiles_eq_sight, hhere, hdisk, hsight _ (head?_fullName w name)]

/-! ## Fixing it -/

/-- A world whose directory for temporary files is fixed, if there is one. -/
def settled (w : World) : World := { w with tempDirectory := w.tempDirectory? }

theorem tempDirectory?_of_eq (h : w'.tempDirectory = some directory) :
    w'.tempDirectory? = some directory := by
  rw [tempDirectory?, h]

theorem tempDirectory_of_none (h : w.tempDirectory? = none) : w.tempDirectory = none := by
  cases hfixed : w.tempDirectory with
  | none => rfl
  | some directory => cases (tempDirectory?_of_eq hfixed).symm.trans h

/-- Without a directory for temporary files none is fixed. -/
theorem settled_of_none (h : w.tempDirectory? = none) : w.settled = w := by
  rw [settled, h, ← tempDirectory_of_none h]

end World

namespace Action

variable {w : World}

theorem exec_fixTempDirectory {directory : Text} (h : w.tempDirectory? = some directory) :
    exec fixTempDirectory w = (.ok (w.fullName directory), w.settled) := by
  rw [fixTempDirectory, exec_bind_ok (exec_get w), h, World.settled, h]
  rfl

theorem exec_fixTempDirectory_none (h : w.tempDirectory? = none) :
    exec fixTempDirectory w = (.error (.system (.noUsableDirectory w.tempCandidates)), w) := by
  rw [fixTempDirectory, exec_bind_ok (exec_get w), h]
  rfl

end Action

end ClasspathProbe
