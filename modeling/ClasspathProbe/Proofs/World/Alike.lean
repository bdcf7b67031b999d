import ClasspathProbe.Machine
import ClasspathProbe.Proofs.World.TempDirectory

/-!
# Worlds that are alike

Worlds are alike (`World.Alike`) when the working directory, the directory for temporary files, the
search path, the disk and the outline of the tree are the same. The rest of the environment, the
settings read for everybody, the count of names, the log and the bytes of files may differ, and one
of them may have the directory for temporary files still to be fixed. Tests and the search
for a command tell the same in both (`Alike.sight_eq`, `Alike.find?_eq`).
-/

namespace ClasspathProbe

namespace Program

/-- Whether a name can be run is told by where it leads. -/
theorem isRunnable_eq_reaches (w : World) (name : Text) :
    isRunnable w name =
      (!name.contains '\x00' &&
        match FileTree.reaches (w.tree.locate w.here .target name) with
        | .ok .executable | .ok (.link _) => true
        | _ => false) := by
  rw [isRunnable, FileTree.permitsExecution, FileTree.leadsToDirectory, Bool.and_assoc]
  congr 1
  cases hloc : w.tree.locate w.here .target name with
  | error why =>
    rw [FileTree.look_of_error hloc]
    cases why <;> rfl
  | ok spot =>
    cases spot with
    | free d n =>
      rw [FileTree.look_of_free hloc]
      rfl
    | found place node =>
      rw [FileTree.look_of_found hloc]
      cases node with
      | file f =>
        cases hx : f.executable <;>
          simp [FileTree.reaches, Spot.outline, outlineOf, hx, Except.map]
      | _ => rfl

end Program

namespace World

variable {w w' w'' : World}

structure Alike (w w' : World) : Prop where
  here : w'.here = w.here
  tempDirectory : w'.tempDirectory? = w.tempDirectory?
  searchPath : w'.variableText? "PATH" = w.variableText? "PATH"
  disk : w'.disk = w.disk
  tree : w.tree.Alike w'.tree

/-- Worlds with alike trees are alike when the directory for temporary files is fixed in both or in
neither, or was fixed in between, and the search path and what it is fixed by are the same. -/
theorem alike_of_tree (hhere : w'.here = w.here) (hdisk : w'.disk = w.disk)
    (hfixed : w'.tempDirectory = w.tempDirectory ∨ w'.tempDirectory = w.tempDirectory?)
    (hpath : w'.variableText? "PATH" = w.variableText? "PATH")
    (hvariables : w.tempDirectory = none →
      ∀ name ∈ tempVariables, w'.variableText? name = w.variableText? name)
    (htree : w.tree.Alike w'.tree) : w.Alike w' := by
  refine ⟨hhere, ?_, hpath, hdisk, htree⟩
  have hsame (h : w'.tempDirectory = w.tempDirectory) : w'.tempDirectory? = w.tempDirectory? :=
    tempDirectory?_congr hhere hdisk h hvariables fun _ => htree.sight_absolute
  rcases hfixed with hkept | hsettled
  · exact hsame hkept
  · cases htemp : w.tempDirectory? with
    | some directory => exact tempDirectory?_of_eq (hsettled.trans htemp)
    | none =>
      have hkept : w'.tempDirectory = w.tempDirectory := by
        rw [hsettled, htemp, tempDirectory_of_none htemp]
      exact (hsame hkept).trans htemp

theorem Extends.alike {P : Location → Prop} (h : Extends P w w')
    (hfixed : w'.tempDirectory = w.tempDirectory ∨ w'.tempDirectory = w.tempDirectory?)
    (henv : w'.environment = w.environment) (hdisk : w'.disk = w.disk) : w.Alike w' := by
  have hvariable (name : Text) : w'.variableText? name = w.variableText? name := by
    rw [variableText?, variableText?, henv]
  exact alike_of_tree h.here hdisk hfixed (hvariable _) (fun _ name _ => hvariable name)
    h.tree.alike

namespace Alike

theorem refl (w : World) : Alike w w := ⟨rfl, rfl, rfl, rfl, .refl _⟩

theorem symm (h : Alike w w') : Alike w' w :=
  ⟨h.here.symm, h.tempDirectory.symm, h.searchPath.symm, h.disk.symm, h.tree.symm⟩

theorem trans (h : Alike w w') (h' : Alike w' w'') : Alike w w'' :=
  ⟨h'.here.trans h.here, h'.tempDirectory.trans h.tempDirectory, h'.searchPath.trans h.searchPath,
    h'.disk.trans h.disk, h.tree.trans h'.tree⟩

theorem take (w : World) (r : Log.Record) : Alike w (w.take r) := by
  have hext := take_extends w r
  obtain ⟨tree, log, htake⟩ := take_eq w r
  rw [htake] at hext ⊢
  exact hext.alike (.inl rfl) rfl rfl

theorem frame : Action.LogFrame Alike := ⟨refl, trans, take⟩

theorem grounded (h : Alike w w') (hhere : w.tree.Grounded w.here) : w'.tree.Grounded w'.here := by
  rw [h.here]
  exact h.tree.grounded hhere

theorem sight_eq (h : Alike w w') (hhere : w.tree.Grounded w.here) (p : Path) :
    w'.sight p = w.sight p := by
  rw [sight, sight, h.here, h.tree.sight_eq hhere]

theorem isRunnable_eq (h : Alike w w') (hhere : w.tree.Grounded w.here) :
    Program.isRunnable w' = Program.isRunnable w := by
  funext name
  rw [Program.isRunnable_eq_reaches, Program.isRunnable_eq_reaches, h.here, h.tree.reaches_eq hhere]

/-- A command is found at the same path. -/
theorem find?_eq (h : Alike w w') (hhere : w.tree.Grounded w.here) (command : Text) :
    Program.find? w' command = Program.find? w command := by
  have hsearch : Program.search? w' command = Program.search? w command := by
    rw [Program.search?, Program.search?, h.isRunnable_eq hhere, h.searchPath]
  rw [Program.find?, Program.find?, hsearch]
  congr 1
  funext name
  exact absolute_of_here h.here (.ofText name)

end Alike

end World

end ClasspathProbe
