import ClasspathProbe.Proofs.World.Action
import ClasspathProbe.Settings.Sources

/-!
# Reading settings

Wherever settings come from, making them reads files and the environment and may warn about a line
of an environment file; nothing else changes (`Settings.load_keeps`). Only what is read for
everybody is kept for the next time (`Settings.common_keeps`).
-/

namespace ClasspathProbe

open ClasspathProbe.Action (Keeps LogFrame)

variable {R : World → World → Prop}

theorem Action.ofExcept_keeps {α : Type} (hR : LogFrame R) (x : Except Failure α) :
    Keeps R (Action.ofExcept x) := by
  cases x with
  | ok a => exact .pure hR a
  | error e => exact .throw hR e

theorem Action.exec_ofExcept {α : Type} (x : Except Failure α) (w : World) :
    exec (Action.ofExcept x) w = (x, w) := by
  cases x <;> rfl

theorem Action.of_exec_ofExcept {α : Type} {x : Except Failure α} {a : α} {w w' : World}
    (h : exec (Action.ofExcept x) w = (.ok a, w')) : x = .ok a ∧ w' = w := by
  rw [exec_ofExcept] at h
  obtain ⟨hx, hw⟩ := Prod.mk.inj h
  exact ⟨hx, hw.symm⟩

namespace Surroundings

theorem readEnvFile_keeps (hR : LogFrame R) (encoding : Except Failure Encoding) (file : Path) :
    Keeps R (readEnvFile encoding file) := by
  refine .bind hR (.test hR _ _) fun present => ?_
  split
  · refine .bind hR (Action.ofExcept_keeps hR _) fun encoding => ?_
    refine .bind hR (.ask hR _ _) fun bytes => ?_
    refine .bind hR (Action.ofExcept_keeps hR _) fun text => ?_
    refine .bind hR (.forIn hR (fun number _ => ?_) _ _) fun _ => ?_
    · exact .bind hR (.log hR _ _ _) fun _ => .pure hR _
    · exact .bind hR (.get hR) fun w => .pure hR _
  · exact .pure hR []

theorem now_keeps (hR : LogFrame R) (lookup : Lookup) : Keeps R (now lookup) := by
  refine .bind hR (.mapM hR (readEnvFile_keeps hR _) _) fun files => ?_
  exact .bind hR (.get hR) fun w => .pure hR _

end Surroundings

theorem LoggingSettings.make_keeps (hR : LogFrame R) (fields : Fields) :
    Keeps R (LoggingSettings.make fields) :=
  .bind hR (Action.ofExcept_keeps hR _) fun lookup =>
    .bind hR (Surroundings.now_keeps hR lookup) fun _ => Action.ofExcept_keeps hR _

theorem GradleSettings.make_keeps (hR : LogFrame R) (fields : Fields) :
    Keeps R (GradleSettings.make fields) :=
  .bind hR (Action.ofExcept_keeps hR _) fun lookup =>
    .bind hR (Surroundings.now_keeps hR lookup) fun _ => Action.ofExcept_keeps hR _

theorem Config.load_keeps (hR : LogFrame R) (c : Config) (path : Option Path) :
    Keeps R (c.load path) := by
  rw [Config.load]
  cases path.or c.path with
  | none => exact .pure hR _
  | some p =>
    refine .bind hR ?_ fun ps => .pure hR _
    refine .bind hR ?_ fun text => ?_
    · refine .bind hR (.recover hR (.ask hR _ _) fun e => .throw hR _) fun bytes => ?_
      cases Utf8.decodeStrict bytes with
      | ok s => exact .pure hR _
      | error fault => exact .throw hR _
    · cases Config.parse p text with
      | ok ps => exact .pure hR ps
      | error e => exact .throw hR e

namespace Settings

theorem sectionFrom_keeps {α : Type} (hR : LogFrame R) (name shownName : Text)
    {make : Fields → Action α} (hmake : ∀ fields, Keeps R (make fields)) (v : Option Value) :
    Keeps R (sectionFrom name shownName make v) := by
  rw [sectionFrom.eq_def]
  split
  · exact .bind hR (hmake []) fun a => .pure hR _
  · refine .bind hR (Action.ofExcept_keeps hR _) fun fields => ?_
    refine .recover hR (.map _ (hmake fields)) fun e => ?_
    split
    · exact .pure hR _
    · exact .throw hR _
  · exact .pure hR _

theorem make_keeps (hR : LogFrame R) : Keeps R make := by
  refine .bind hR (Surroundings.now_keeps hR _) fun s => ?_
  refine .bind hR (Action.ofExcept_keeps hR _) fun values => ?_
  refine .bind hR (sectionFrom_keeps hR _ _ (LoggingSettings.make_keeps hR) _) fun logging => ?_
  refine .bind hR (sectionFrom_keeps hR _ _ (GradleSettings.make_keeps hR) _) fun gradle => ?_
  split
  · exact .pure hR _
  · exact .throw hR _
  · exact .throw hR _
  · exact .throw hR _

theorem ofConfig_keeps (hR : LogFrame R) (c : Config) : Keeps R (ofConfig c) := by
  refine .bind hR (Action.ofExcept_keeps hR _) fun logging => ?_
  refine .bind hR (LoggingSettings.make_keeps hR logging) fun logging => ?_
  refine .bind hR (Action.ofExcept_keeps hR _) fun gradle => ?_
  refine .bind hR (GradleSettings.make_keeps hR gradle) fun gradle => ?_
  refine .bind hR (Surroundings.now_keeps hR _) fun s => ?_
  exact .bind hR (Action.ofExcept_keeps hR _) fun _ => .pure hR _

theorem ofFile_keeps (hR : LogFrame R) (path : Path) : Keeps R (ofFile path) :=
  .bind hR (Config.load_keeps hR _ none) fun read => ofConfig_keeps hR read.1

theorem load_keeps (hR : LogFrame R) : Keeps R load := by
  refine .bind hR (.get hR) fun w => ?_
  split
  · exact ofConfig_keeps hR {}
  · refine .bind hR (.test hR _ _) fun present => ?_
    split
    · exact ofFile_keeps hR _
    · exact make_keeps hR

/-- What is read for everybody is read once. -/
theorem common_keeps (hR : LogFrame R)
    (hcached : ∀ (w : World) (s : Settings), R w { w with cached := some s }) :
    Keeps R common := by
  refine .bind hR (.get hR) fun w => ?_
  split
  · exact .pure hR _
  · exact .bind hR (load_keeps hR) fun s =>
      .bind hR (fun w => hcached w s) fun _ => .pure hR s

theorem gradleOr_keeps (hR : LogFrame R)
    (hcached : ∀ (w : World) (s : Settings), R w { w with cached := some s })
    (given : Option GradleSettings) : Keeps R (gradleOr given) := by
  cases given with
  | some s => exact .pure hR s
  | none => exact .bind hR (common_keeps hR hcached) fun s => .pure hR s.gradle

end Settings

end ClasspathProbe
