import ClasspathProbe.Log.Setup
import ClasspathProbe.Proofs.Settings.Reading
import ClasspathProbe.Proofs.World.Log

/-!
# Setting up the log

A set-up makes directories and a file and replaces the sinks (`exec_setUp`); it never searches for a
command and never runs one.
-/

namespace ClasspathProbe.Log

open ClasspathProbe.Action (Keeps LogFrame exec exec_bind_ok exec_bind_error)

variable {R : World → World → Prop}

/-- A relation that is kept by taking records, by changing the tree and by setting up the log. -/
structure SetupFrame (R : World → World → Prop) : Prop extends LogFrame R where
  change : ∀ request name, Keeps R (Action.change request name)
  state : ∀ (w : World) (log : State), R w { w with log }

theorem settle_keeps (hR : LogFrame R) (p : Path) (e : Failure) : Keeps R (settle p e) := by
  rw [settle.eq_def]
  split
  · refine .bind hR (.test hR _ _) fun there => ?_
    split
    · exact .pure hR _
    · exact .throw hR _
  · exact .throw hR _

theorem makeDirectories_keeps (hR : SetupFrame R) (depth : Nat) (p : Path) :
    Keeps R (makeDirectories depth p) := by
  have hlog := hR.toLogFrame
  induction depth generalizing p with
  | zero =>
    refine .recover hlog (hR.change _ _) fun e => ?_
    split
    · exact .throw hlog _
    · exact settle_keeps hlog p _
  | succ depth ih =>
    refine .recover hlog (hR.change _ _) fun e => ?_
    split
    · split
      · exact .bind hlog (.throw hlog _) fun _ => .bind hlog (ih _) fun _ =>
          .recover hlog (hR.change _ _) (settle_keeps hlog p)
      · exact .bind hlog (ih _) fun _ => .recover hlog (hR.change _ _) (settle_keeps hlog p)
    · exact settle_keeps hlog p _

theorem openFile_keeps (hR : SetupFrame R) (file : Path) : Keeps R (openFile file) := by
  have hlog := hR.toLogFrame
  refine .bind hlog (makeDirectories_keeps hR _ _) fun _ => ?_
  refine .bind hlog (.get hlog) fun w => ?_
  exact .bind hlog (hR.change _ _) fun _ => .pure hlog _

/-- Adds a sink for the file of settings, if they name one. -/
def addFile (settings : LoggingSettings) (level : Level) : Action Unit := do
  if let some file := settings.file then
    addSink (.file (← openFile file) level)

theorem setUp_keeps (hR : SetupFrame R) (settings : LoggingSettings) (level : Option Text) :
    Keeps R (setUp settings level) := by
  have hlog := hR.toLogFrame
  have hreset : ∀ level, Keeps R (reset level) := fun level w => hR.state w _
  have hsink : ∀ sink, Keeps R (addSink sink) := fun sink w => hR.state w _
  have hfile : ∀ level, Keeps R (addFile settings level) := by
    intro level
    rw [addFile]
    split
    · exact .bind hlog (openFile_keeps hR _) fun name => hsink _
    · exact .pure hlog _
  refine .bind hlog (Action.ofExcept_keeps hlog _) fun level => ?_
  refine .bind hlog (hreset level) fun _ => ?_
  cases settings.useRich with
  | true => exact .bind hlog (hsink .rich) fun _ => hfile level
  | false =>
    exact .bind hlog (Action.ofExcept_keeps hlog _) fun layout =>
      .bind hlog (hsink (.plain layout)) fun _ => hfile level

theorem deeds_setupFrame : SetupFrame fun w w' => w'.deeds = w.deeds where
  toLogFrame := World.deeds_frame
  change request name := by
    intro w
    rw [Action.exec_change]
    split
    · rfl
    · split <;> rfl
  state _ _ := rfl

/-! ## What a set-up does -/

/-- The name of the level that a set-up goes by: its own if it has one, else that of the
settings. -/
def chosenLevel (settings : LoggingSettings) : Option Text → Text
  | none | some [] => settings.level
  | some name => name

def consoleSink (settings : LoggingSettings) : Except Failure Sink :=
  if settings.useRich then .ok .rich else Sink.plain <$> Layout.check settings.format

/-- A world whose log has another threshold and other sinks. -/
def refitted (w : World) (level : Level) (sinks : List Sink) : World :=
  { w with log.threshold := level, log.sinks := sinks }

theorem exec_setUp_unread {settings : LoggingSettings} {override : Option Text} {e : Failure}
    (h : readLevel (chosenLevel settings override) = .error e) (w : World) :
    exec (setUp settings override) w = (.error e, w) := by
  have hname : exec (Action.ofExcept (readLevel (chosenLevel settings override))) w =
      (.error e, w) := by
    rw [h]
    rfl
  exact exec_bind_error hname _

theorem exec_setUp {settings : LoggingSettings} {override : Option Text} {level : Level}
    (h : readLevel (chosenLevel settings override) = .ok level) (w : World) :
    exec (setUp settings override) w =
      match consoleSink settings with
      | .ok sink => exec (addFile settings level) (refitted w level [sink])
      | .error e => (.error e, refitted w level []) := by
  have hname : exec (Action.ofExcept (readLevel (chosenLevel settings override))) w =
      (.ok level, w) := by
    rw [h]
    rfl
  have hreset : exec (reset level) w = (.ok ⟨⟩, refitted w level []) := rfl
  have hsink : ∀ sink, exec (addSink sink) (refitted w level []) =
      (.ok ⟨⟩, refitted w level [sink]) := fun _ => rfl
  refine (exec_bind_ok hname _).trans ((exec_bind_ok hreset _).trans ?_)
  rw [consoleSink]
  cases settings.useRich with
  | true => exact exec_bind_ok (hsink .rich) _
  | false =>
    cases Layout.check settings.format with
    | error e => exact exec_bind_error rfl _
    | ok layout => exact (exec_bind_ok rfl _).trans (exec_bind_ok (hsink (.plain layout)) _)

/-- A set-up succeeds only with a level and a console, and by adding the file. -/
theorem of_exec_setUp {settings : LoggingSettings} {override : Option Text} {w w' : World}
    (h : exec (setUp settings override) w = (.ok ⟨⟩, w')) :
    ∃ level sink, readLevel (chosenLevel settings override) = .ok level ∧
      consoleSink settings = .ok sink ∧
      exec (addFile settings level) (refitted w level [sink]) = (.ok ⟨⟩, w') := by
  cases hread : readLevel (chosenLevel settings override) with
  | error e =>
    rw [exec_setUp_unread hread] at h
    cases h
  | ok level =>
    rw [exec_setUp hread] at h
    cases hconsole : consoleSink settings with
    | error e =>
      rw [hconsole] at h
      cases h
    | ok sink =>
      rw [hconsole] at h
      exact ⟨level, sink, rfl, rfl, h⟩

theorem exec_addFile_none {settings : LoggingSettings} (h : settings.file = none) (level : Level)
    (w : World) : exec (addFile settings level) w = (.ok ⟨⟩, w) := by
  rw [addFile, h]
  rfl

theorem exec_addFile_some {settings : LoggingSettings} {file : Path} (h : settings.file = some file)
    (level : Level) (w : World) :
    exec (addFile settings level) w =
      match exec (openFile file) w with
      | (.ok name, w') => (.ok ⟨⟩, { w' with log.sinks := w'.log.sinks ++ [.file name level] })
      | (.error e, w') => (.error e, w') := by
  rw [addFile, h]
  refine (Action.exec_bind _ _ w).trans ?_
  generalize exec (openFile file) w = r
  obtain ⟨outcome, w'⟩ := r
  cases outcome <;> rfl

end ClasspathProbe.Log
