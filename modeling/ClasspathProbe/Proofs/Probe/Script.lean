import ClasspathProbe.Probe
import ClasspathProbe.Proofs.Text.Cut

/-!
# The tasks of the probe scripts

The script of a probe registers the task of that probe and no other (`tasksIn_script`). Tasks are
looked for line by line, since neither the word `task` nor a name goes over the end of a line.
-/

namespace ClasspathProbe.Probe

theorem tasksIn_append (s r : Text) : tasksIn (s ++ '\n' :: r) = tasksIn s ++ tasksIn r := by
  have hlead : ∀ c ∈ "task ".toList, decide (c ≠ '\n') = true :=
    List.all_eq_true.1 rfl
  induction s with
  | nil => rfl
  | cons c s ih =>
    have hafter : Text.after? "task ".toList (c :: (s ++ '\n' :: r)) =
        (Text.after? "task ".toList (c :: s)).map (· ++ '\n' :: r) := by
      rw [← List.cons_append]
      exact Text.after?_append hlead (by simp)
    rw [List.cons_append, tasksIn, tasksIn, hafter]
    cases Text.after? "task ".toList (c :: s) with
    | none => exact ih
    | some rest =>
      have hname : (rest ++ '\n' :: r).takeWhile (fun d => d.isAlphanum || d = '_') =
          rest.takeWhile fun d => d.isAlphanum || d = '_' := by
        rw [List.takeWhile_append]
        split
        · next hlen =>
          rw [(List.takeWhile_prefix _).eq_of_length hlen]
          exact List.append_nil rest
        · rfl
      simp only [Option.map_some, hname, ih]
      split <;> rfl

theorem tasksIn_lines (lines : List String) :
    tasksIn (lines.flatMap fun line => line.toList ++ ['\n']) =
      lines.flatMap fun line => tasksIn line.toList := by
  induction lines with
  | nil => rfl
  | cons line lines ih =>
    rw [List.flatMap_cons, List.flatMap_cons, List.append_assoc, List.singleton_append,
      tasksIn_append, ih]

/-- The tasks of a line, told by its characters. -/
theorem tasksIn_of_eq {line : String} {s : Text} {names : List Text} (h : line = String.ofList s)
    (hs : tasksIn s = names) : tasksIn line.toList = names := by
  rw [h, String.toList_ofList, hs]

/-- The script of a probe registers its task. -/
theorem tasksIn_script (p : Probe) : tasksIn p.script = [p.task] := by
  rw [script, tasksIn_lines]
  cases p with
  | project =>
    simp only [scriptLines, projectLines, String.reduceAppend, List.flatMap_cons,
      List.flatMap_nil]
    repeat rw [tasksIn_of_eq rfl rfl]
    rfl
  | buildScripts =>
    simp only [scriptLines, buildScriptLines, String.reduceAppend, List.flatMap_cons,
      List.flatMap_nil]
    repeat rw [tasksIn_of_eq rfl rfl]
    rfl

end ClasspathProbe.Probe
