import ClasspathProbe.Proofs.Settings.Validation

/-!
# Settings made of their own values

Making settings brings the values of fields into a form: a level is in capitals, the name of an
executable is trimmed, a file is a path or none. Settings in this form are spelled by the values of
their fields (`LoggingSettings.spell_values`, `GradleSettings.spell_values`): each is read as it is.
So these values make the same settings again, whatever variables there are and whatever the
environment file says (`Settings.remade_same`). The file is looked for even then, and where it
cannot be had nothing is made (`Settings.not_remade`).
-/

namespace ClasspathProbe

open ClasspathProbe.Action (exec exec_bind_ok exec_bind_error Gives)

variable {σ : Type} {s : σ} {fields : List (Setting σ)} {keys : Fields}

/-! ## Values of fields -/

/-- Whether each field of settings has a value under its own name, which is read as what they
hold. -/
def Fields.Spell (keys : Fields) (fields : List (Setting σ)) (s : σ) : Prop :=
  ∀ f ∈ fields, ∃ v, keys.lookup f.name = some v ∧ f.Holds s (some v)

/-- The value that gives a file: a path is given by its text. -/
def Value.ofFile : Option Path → Value
  | none => .null
  | some p => .text p.toText

/-- The values of all fields. -/
def LoggingSettings.values (s : LoggingSettings) : Fields :=
  [("level", .text s.level), ("format", .text s.format), ("file", .ofFile s.file),
    ("use_rich", .bool s.useRich)]

/-- The values of all fields. -/
def GradleSettings.values (s : GradleSettings) : Fields :=
  [("command", .text s.command), ("wrapper", .text s.wrapper),
    ("windows_wrapper", .text s.windowsWrapper), ("console_flag", .text s.consoleFlag),
    ("temp_prefix", .text s.tempPrefix), ("temp_suffix", .text s.tempSuffix)]

theorem LoggingSettings.plain_values (s : LoggingSettings) : s.values.Plain := by
  simp [Fields.Plain, values]

theorem GradleSettings.plain_values (s : GradleSettings) : s.values.Plain := by
  simp [Fields.Plain, values]

namespace Reading

theorem level_of_mem {a : Text} (h : a ∈ levels) : level (.text a) = .ok (.ok a) := by
  simp only [levels, List.mem_cons, List.not_mem_nil, or_false] at h
  obtain rfl | rfl | rfl | rfl | rfl := h <;> rfl

theorem executable_of_isTrimmed {a : Text} (h : a.IsTrimmed) :
    executable (.text a) = .ok (.ok a) := by
  have hsays : (Value.text a).saysSomething = true := by
    simpa [Value.saysSomething] using h.ne_nil
  have hblank : (Value.text a).toText.isBlank = false := h.not_isBlank
  have hstrip : (Value.text a).toText.strip = a := h.strip_eq
  rw [executable, hsays, hblank, hstrip]
  rfl

theorem file_text {a : Text} (h : a ≠ []) : file (.text a) = .ok (.ok (some (.ofText a))) := by
  cases a with
  | nil => exact absurd rfl h
  | cons c a => rfl

theorem file_ofFile (p? : Option Path) : file (.ofFile p?) = .ok (.ok p?) := by
  cases p? with
  | none => rfl
  | some p => rw [Value.ofFile, file_text p.toText_ne_nil, Path.ofText_toText]

end Reading

theorem LoggingSettings.spell_values {s : LoggingSettings} (h : s.HasLevel) :
    s.values.Spell settings s := by
  simp only [Fields.Spell, settings, List.forall_mem_cons]
  refine ⟨⟨_, rfl, ?_⟩, ⟨_, rfl, rfl⟩, ⟨_, rfl, ?_⟩, ⟨_, rfl, rfl⟩, by simp⟩
  · exact Reading.level_of_mem h
  · exact Reading.file_ofFile s.file

theorem GradleSettings.spell_values {s : GradleSettings} (h : s.HasNames) :
    s.values.Spell settings s := by
  simp only [Fields.Spell, settings, List.forall_mem_cons]
  refine ⟨⟨_, rfl, ?_⟩, ⟨_, rfl, ?_⟩, ⟨_, rfl, ?_⟩, ⟨_, rfl, rfl⟩, ⟨_, rfl, rfl⟩, ⟨_, rfl, rfl⟩,
    by simp⟩
  · exact Reading.executable_of_isTrimmed h.command
  · exact Reading.executable_of_isTrimmed h.wrapper
  · exact Reading.executable_of_isTrimmed h.windowsWrapper

/-! ## Making settings again -/

/-- A key that is spelled as its field decides, whatever there is outside. -/
theorem Fields.Spell.holds_value? (h : keys.Spell fields s) (x : Surroundings) :
    ∀ f ∈ fields, f.Holds s (x.value? keys f.name) := by
  intro f hf
  obtain ⟨v, hkey, hholds⟩ := h f hf
  rw [Surroundings.value?, Lookup.given?, hkey]
  exact hholds

/-- How it ends in a world when settings are made of their own values: with the same settings, or
with the failure to have the environment file. -/
structure Remade (s : σ) (w : World) (outcome : Except Failure σ) : Prop where
  same : outcome = .ok s ↔ ∀ e, ¬w.EnvFileFails e
  failed : ∀ e, outcome = .error e ↔ w.EnvFileFails e

theorem Fields.Spell.remade {ofValues : (Text → Option Value) → Except Failure σ} {start : Text}
    (h : keys.Spell fields s) (hplain : keys.Plain)
    (hvalues : ∀ given, ofValues given = .ok s ↔ ∀ f ∈ fields, f.Holds s (given f.name))
    (firstField : Text) (w : World) :
    Remade s w (exec (do
      let x ← Surroundings.now (← Action.ofExcept (Lookup.ofFields start firstField keys))
      Action.ofExcept (ofValues (x.value? keys))) w).1 := by
  have hfails (e : Failure) : (exec (Surroundings.now { start }) w).1 = .error e ↔
      w.EnvFileFails e := Surroundings.exec_now_error_iff
  rw [exec_make_plain hplain]
  cases hnow : exec (Surroundings.now { start }) w with
  | mk outcome w₁ =>
    rw [hnow] at hfails
    cases outcome with
    | error e =>
      -- nothing of the file would count, but it is read before the values are
      have he : w.EnvFileFails e := (hfails e).1 rfl
      rw [exec_bind_error hnow]
      refine ⟨⟨nofun, fun hnone => absurd he (hnone e)⟩, fun e' => ?_⟩
      rw [← hfails]
      simp only [Except.error.injEq]
    | ok x =>
      have hnone : ∀ e, ¬w.EnvFileFails e := fun e he => by cases (hfails e).2 he
      have hmade : ofValues (x.value? keys) = .ok s := (hvalues _).2 (h.holds_value? x)
      rw [exec_bind_ok hnow, Action.exec_ofExcept, hmade]
      exact ⟨⟨fun _ => hnone, fun _ => rfl⟩, fun e => ⟨nofun, fun he => absurd he (hnone e)⟩⟩

theorem LoggingSettings.remade {s : LoggingSettings} (h : s.HasLevel) (w : World) :
    Remade s w (exec (make s.values) w).1 :=
  (spell_values h).remade s.plain_values (fun _ => ofValues_eq_ok) _ w

theorem GradleSettings.remade {s : GradleSettings} (h : s.HasNames) (w : World) :
    Remade s w (exec (make s.values) w).1 :=
  (spell_values h).remade s.plain_values (fun _ => ofValues_eq_ok) _ w

theorem GradleSettings.make_hasNames (keys : Fields) : Gives HasNames (make keys) :=
  .bind_any fun _ => .bind_any fun _ => .ofExcept fun _ h => hasNames (ofValues_eq_ok.1 h)

namespace Settings

/-- **Settings are made again of their own values** in exactly the worlds where the environment file
can be had: what was made has a level that can be set, or executables with trimmed names. -/
theorem remade_same (keys : Fields) (w : World) :
    (∀ s, (exec (LoggingSettings.make keys) w).1 = .ok s →
      s.HasLevel ∧ ∀ w', Remade s w' (exec (LoggingSettings.make s.values) w').1) ∧
    ∀ s, (exec (GradleSettings.make keys) w).1 = .ok s →
      s.HasNames ∧ ∀ w', Remade s w' (exec (GradleSettings.make s.values) w').1 := by
  constructor
  · intro s hmade
    have hlevel : s.HasLevel := LoggingSettings.make_level keys w s _ (Prod.ext hmade rfl)
    exact ⟨hlevel, LoggingSettings.remade hlevel⟩
  · intro s hmade
    have hnames : s.HasNames := GradleSettings.make_hasNames keys w s _ (Prod.ext hmade rfl)
    exact ⟨hnames, GradleSettings.remade hnames⟩

/-- A level whose small letters include one without a dot, and a number for a command. -/
def mixedKeys : Fields := [("level", .text "ınfo"), ("command", .int (-5))]

/-- A working directory where the environment and the environment file have values too. -/
def mixedWorld : World :=
  layeredWorld "" "CLASSPATH_LOGGING_FILE=//a/./b/\nclasspath_gradle_wrapper='\u00a0mvnw '\n"
    [("CLASSPATH_LOGGING_USE_RICH", "Off"), ("CLASSPATH_GRADLE_COMMAND", "mvn")]

def mixedLogging : LoggingSettings := { file := some (.ofText "//a/b"), useRich := false }

def mixedGradle : GradleSettings := { command := "-5", wrapper := "mvnw" }

theorem eq_ok_of_toOption {s : σ} {x : Except Failure σ} (h : x.toOption = some s) : x = .ok s := by
  cases x with
  | error e => cases h
  | ok t => exact congrArg Except.ok (Option.some.inj h)

theorem remade_same_mixed :
    (exec (LoggingSettings.make mixedKeys) mixedWorld).1 = .ok mixedLogging ∧
      (exec (GradleSettings.make mixedKeys) mixedWorld).1 = .ok mixedGradle ∧
      mixedLogging.HasLevel ∧ mixedGradle.HasNames ∧ ∀ w,
        Remade mixedLogging w (exec (LoggingSettings.make mixedLogging.values) w).1 ∧
        Remade mixedGradle w (exec (GradleSettings.make mixedGradle.values) w).1 := by
  have hlogging : (exec (LoggingSettings.make mixedKeys) mixedWorld).1 = .ok mixedLogging :=
    eq_ok_of_toOption (by decide +kernel)
  have hgradle : (exec (GradleSettings.make mixedKeys) mixedWorld).1 = .ok mixedGradle :=
    eq_ok_of_toOption (by decide +kernel)
  obtain ⟨hlevel, hloggingAgain⟩ := (remade_same mixedKeys mixedWorld).1 _ hlogging
  obtain ⟨hnames, hgradleAgain⟩ := (remade_same mixedKeys mixedWorld).2 _ hgradle
  exact ⟨hlogging, hgradle, hlevel, hnames, fun w => ⟨hloggingAgain w, hgradleAgain w⟩⟩

/-- A working directory whose environment file is no text. -/
def textlessWorld : World where
  tree := ⟨[([".env".toList], .file ⟨[0xff], false, 0⟩)]⟩
  here := []
  tempDirectory := "/t".toList
  environment := []

/-- Settings are not made again where the environment file is no text, though none of it is
needed. -/
theorem not_remade :
    (exec (LoggingSettings.make []) (layeredWorld "" "" [])).1 = .ok {} ∧
      (exec (LoggingSettings.make (LoggingSettings.values {})) textlessWorld).1 =
        .error (.undecodable (.utf8 ⟨0, 1, 0xff, .start⟩)) ∧
      (exec (LoggingSettings.make (LoggingSettings.values {})) textlessWorld).1 ≠ .ok {} := by
  have hfails : (exec (LoggingSettings.make (LoggingSettings.values {})) textlessWorld).1 =
      .error (.undecodable (.utf8 ⟨0, 1, 0xff, .start⟩)) := rfl
  refine ⟨rfl, hfails, fun h => ?_⟩
  rw [hfails] at h
  cases h

end Settings

end ClasspathProbe
