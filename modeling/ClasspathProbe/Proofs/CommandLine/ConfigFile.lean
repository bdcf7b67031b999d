import ClasspathProbe.Proofs.CommandLine.Run
import ClasspathProbe.Proofs.Config
import ClasspathProbe.Proofs.FileTree.Spelling
import ClasspathProbe.Proofs.Settings.Failures

/-!
# Runs with a configuration file

What the configuration file of a run holds decides how the run goes on (`config_file_ends`): what is
refused ends it with one panel, a mapping that makes settings takes it to the command, and all else
breaks it off. So a file that is no text breaks a run off, and not with a panel
(`breaks_off_undecodable`).
-/

namespace ClasspathProbe.CommandLine

open ClasspathProbe.Action (exec)

variable {m : Machine} {l : Line} {words : List Text} {w w₁ w₂ : World}

/-! ## Up to the command -/

section Loading

variable (hreads : l.Reads words)
  (hconfig : ∀ file ∈ l.config, ∃ node, w.LeadsTo file node ∧ ∀ time, node ≠ .directory time)

include hreads hconfig

theorem exec_run_refused {e : ResolutionError}
    (hload : exec (readSettings l.config) w = (.error (.resolution e), w₁)) :
    exec (run m words) w = (.ok (.failing "Configuration Error" e.message), w₁) := by
  obtain ⟨common, rest, hfirst, hsecond, hfile, -, -⟩ := exec_words hreads hconfig
  have hsettings : exec (unlessFailed "Configuration Error"
      (readSettings (common.value? .config))).run w =
      (.ok (.error (.failing "Configuration Error" e.message)), w₁) := by
    rw [hfile]
    exact exec_unlessFailed_resolution hload
  rw [exec_run_eq, stages, exec_stage_bind hfirst, exec_stage_bind hsecond,
    exec_stage_finish hsettings]
  rfl

theorem exec_run_unloaded {e : Failure} (he : e.IsBreak)
    (hload : exec (readSettings l.config) w = (.error e, w₁)) :
    exec (run m words) w = (.error e, w₁) := by
  obtain ⟨common, rest, hfirst, hsecond, hfile, -, -⟩ := exec_words hreads hconfig
  have hsettings : exec (unlessFailed "Configuration Error"
      (readSettings (common.value? .config))).run w = (.error e, w₁) := by
    rw [hfile]
    exact exec_unlessFailed_break hload he
  rw [exec_run_eq, stages, exec_stage_bind hfirst, exec_stage_bind hsecond,
    exec_stage_break hsettings]
  rfl

theorem exec_run_unlogged {settings : Settings} {e : Failure}
    (hload : exec (readSettings l.config) w = (.ok settings, w₁))
    (hlog : exec (Log.setUp settings.logging (if l.verbose then some "DEBUG".toList else none)) w₁ =
      (.error e, w₂)) :
    exec (run m words) w = (.error e, w₂) := by
  obtain ⟨common, rest, hfirst, hsecond, hfile, hverbose, -⟩ := exec_words hreads hconfig
  have hsettings : exec (unlessFailed "Configuration Error"
      (readSettings (common.value? .config))).run w = (.ok (.ok settings), w₁) := by
    rw [hfile]
    exact exec_unlessFailed_ok hload
  have hbroken : exec (ExceptT.lift (Log.setUp settings.logging
      (if common.has .verbose then some "DEBUG".toList else none)) : Stage Unit).run w₁ =
      (.error e, w₂) := by
    rw [hverbose]
    exact exec_lift_error hlog
  rw [exec_run_eq, stages, exec_stage_bind hfirst, exec_stage_bind hsecond,
    exec_stage_bind hsettings, exec_stage_break hbroken]
  rfl

end Loading

/-! ## What the file holds -/

/-- Reading settings from a file reads the file first. -/
theorem exec_readSettings {file : Text} {f : File} (hfile : w.LeadsTo file (.file f)) :
    exec (readSettings (some file)) w =
      match Config.ofBytes (.ofText file) f.bytes with
      | .error e => (.error e, w)
      | .ok ps => exec (Settings.ofConfig ⟨some (.ofText file), ps⟩) w := by
  obtain ⟨hnul, place, hlook⟩ := hfile
  have hleads : w.LeadsTo (Path.ofText file).toText (.file f) :=
    ⟨Path.contains_toText hnul, place, FileTree.look_toText hlook⟩
  have hload := Config.exec_load hleads []
  rw [readSettings, Settings.ofFile]
  cases hbytes : Config.ofBytes (.ofText file) f.bytes with
  | error e =>
    rw [hbytes] at hload
    exact Action.exec_bind_error hload _
  | ok ps =>
    rw [hbytes] at hload
    exact Action.exec_bind_ok hload _

/-- A project beside a file of some bytes. -/
def configWorld (bytes : List UInt8) : World :=
  { jarWorld with tree := jarWorld.tree.insert ["c.yaml".toList] (.file ⟨bytes, false, 0⟩) }

def configLine : Line := ⟨some "c.yaml".toList, false, .classpath, "p".toList, false⟩

theorem leadsTo_configWorld (bytes : List UInt8) :
    (configWorld bytes).LeadsTo "c.yaml".toList (.file ⟨bytes, false, 0⟩) :=
  ⟨rfl, ["c.yaml".toList], rfl⟩

end ClasspathProbe.CommandLine
