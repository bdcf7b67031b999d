import ClasspathProbe.Proofs.Settings.Failures
import ClasspathProbe.Proofs.Settings.Level
import ClasspathProbe.Proofs.Settings.Loading
import ClasspathProbe.Proofs.Text.Blank

/-!
# What settings are refused for

Values make settings, or the settings are refused with one complaint for each field whose value does
not fit, in the order of the fields (`Judged`). Fields are read one after the other, so what reading
all of them comes to is told field by field (`Issues.Comes`). Two readings break off instead of
complaining, that of a level and that of a file, and they do so exactly for values of the kinds that
they do not know (`Settings.values_judged`): a number as a level is not refused
(`LoggingSettings.numberLevel_breaks`).
-/

namespace ClasspathProbe

open ClasspathProbe.Action (exec exec_bind_ok exec_bind_error)

variable {α β σ : Type}

/-! ## What reading fields comes to -/

namespace Issues

/-- What reading comes to, whatever was wrong before: more issues at the end, or a failure. -/
def Comes (x : Issues α) : Except Failure (List Issue) → Prop
  | .ok noted => ∀ issues, ∃ a, x.run issues = .ok (a, issues ++ noted)
  | .error e => ∀ issues, x.run issues = .error e

theorem comes_pure (a : α) : Comes (pure a) (.ok []) := by
  intro issues
  refine ⟨a, ?_⟩
  rw [List.append_nil]
  rfl

theorem Comes.bind {x : Issues α} {f : α → Issues β} {r r' : Except Failure (List Issue)}
    (hx : x.Comes r) (hf : ∀ a, (f a).Comes r') :
    Comes (x >>= f) (do return (← r) ++ (← r')) := by
  cases r with
  | error e =>
    intro issues
    rw [StateT.run_bind, hx issues]
    rfl
  | ok noted =>
    cases r' with
    | error e =>
      intro issues
      obtain ⟨a, ha⟩ := hx issues
      rw [StateT.run_bind, ha]
      exact hf a (issues ++ noted)
    | ok more =>
      intro issues
      obtain ⟨a, ha⟩ := hx issues
      obtain ⟨b, hb⟩ := hf a (issues ++ noted)
      refine ⟨b, ?_⟩
      rw [StateT.run_bind, ha, ← List.append_assoc]
      exact hb

theorem Comes.finish_error {x : Issues α} {e : Failure} (h : x.Comes (.error e)) :
    finish x = .error e := by
  rw [finish, h []]
  rfl

theorem Comes.finish_ok {x : Issues α} (h : x.Comes (.ok [])) : ∃ a, finish x = .ok a := by
  obtain ⟨a, ha⟩ := h []
  refine ⟨a, ?_⟩
  rw [finish, ha]
  rfl

theorem Comes.finish_invalid {x : Issues α} {issues : List Issue} (h : x.Comes (.ok issues))
    (hne : issues ≠ []) : finish x = .error (.invalid issues) := by
  obtain ⟨a, ha⟩ := h []
  rw [finish, ha]
  cases issues with
  | nil => exact absurd rfl hne
  | cons issue issues => rfl

end Issues

/-- What reading the value of a field adds to the issues. -/
def Setting.noted (f : Setting σ) : Option Value → Except Failure (List Issue)
  | none => .ok []
  | some v =>
    match f.reading v with
    | .error e => .error e
    | .ok (.ok _) => .ok []
    | .ok (.error complaint) => .ok [⟨[f.name], complaint⟩]

/-- What reading the values of some fields adds to the issues. -/
def noted (given : Text → Option Value) : List (Setting σ) → Except Failure (List Issue)
  | [] => .ok []
  | f :: fields => do return (← f.noted (given f.name)) ++ (← noted given fields)

variable {given : Text → Option Value} {f : Setting σ} {fields : List (Setting σ)}
  {issues : List Issue} {v : Value} {outcome : Except Failure σ}

theorem Issues.comes_field (f : Setting σ) (value? : Option Value) :
    Comes (field f.name f.reading f.default value?) (f.noted value?) := by
  cases value? with
  | none => exact comes_pure f.default
  | some v =>
    rw [Setting.noted]
    cases hread : f.reading v with
    | error e =>
      intro issues
      rw [run_field, hread]
    | ok read =>
      cases read with
      | ok a =>
        intro issues
        refine ⟨a, ?_⟩
        rw [run_field, hread, List.append_nil]
      | error complaint =>
        intro issues
        refine ⟨f.default, ?_⟩
        rw [run_field, hread]

theorem LoggingSettings.comes (given : Text → Option Value) :
    ∃ x, ofValues given = Issues.finish x ∧ x.Comes (noted given settings) := by
  refine ⟨_, rfl, ?_⟩
  refine .bind (Issues.comes_field ⟨Text, "level", Reading.level, _, level⟩ _) fun level => ?_
  refine .bind (Issues.comes_field ⟨Text, "format", Reading.text, _, format⟩ _) fun format => ?_
  refine .bind (Issues.comes_field ⟨Option Path, "file", Reading.file, _, file⟩ _) fun file => ?_
  refine .bind (Issues.comes_field ⟨Bool, "use_rich", Reading.truth, _, useRich⟩ _) fun rich => ?_
  exact Issues.comes_pure _

theorem GradleSettings.comes (given : Text → Option Value) :
    ∃ x, ofValues given = Issues.finish x ∧ x.Comes (noted given settings) := by
  refine ⟨_, rfl, ?_⟩
  refine .bind (Issues.comes_field ⟨Text, "command", Reading.executable, _, command⟩ _)
    fun command => ?_
  refine .bind (Issues.comes_field ⟨Text, "wrapper", Reading.executable, _, wrapper⟩ _)
    fun wrapper => ?_
  refine .bind
    (Issues.comes_field ⟨Text, "windows_wrapper", Reading.executable, _, windowsWrapper⟩ _)
    fun windowsWrapper => ?_
  refine .bind (Issues.comes_field ⟨Text, "console_flag", Reading.text, _, consoleFlag⟩ _)
    fun consoleFlag => ?_
  refine .bind (Issues.comes_field ⟨Text, "temp_prefix", Reading.text, _, tempPrefix⟩ _)
    fun tempPrefix => ?_
  refine .bind (Issues.comes_field ⟨Text, "temp_suffix", Reading.text, _, tempSuffix⟩ _)
    fun tempSuffix => ?_
  exact Issues.comes_pure _

/-! ## Verdicts -/

/-- The issues with the values of fields: one for each field whose value does not fit, in the order
of the fields. -/
inductive Complains (given : Text → Option Value) : List (Setting σ) → List Issue → Prop where
  | nil : Complains given [] []
  | fine {f : Setting σ} {fields : List (Setting σ)} {issues : List Issue}
    (h : ∀ v, given f.name = some v → ∃ a, f.reading v = .ok (.ok a))
    (rest : Complains given fields issues) : Complains given (f :: fields) issues
  | faulty {f : Setting σ} {fields : List (Setting σ)} {issues : List Issue} {v : Value}
    {complaint : Complaint} (h : given f.name = some v)
    (hv : f.reading v = .ok (.error complaint)) (rest : Complains given fields issues) :
    Complains given (f :: fields) (⟨[f.name], complaint⟩ :: issues)

/-- What is made of the values of fields: settings that hold what the values mean, or a refusal that
names the fields whose values do not fit. -/
inductive Judged (given : Text → Option Value) (fields : List (Setting σ)) :
    Except Failure σ → Prop where
  | accepted {s : σ} (h : ∀ f ∈ fields, f.Holds s (given f.name)) : Judged given fields (.ok s)
  | refused {issues : List Issue} (hne : issues ≠ []) (h : Complains given fields issues) :
    Judged given fields (.error (.invalid issues))

theorem complains_of_noted (h : noted given fields = .ok issues) :
    Complains given fields issues := by
  induction fields generalizing issues with
  | nil =>
    cases h
    exact .nil
  | cons f fields ih =>
    rw [noted] at h
    cases hfirst : f.noted (given f.name) with
    | error e =>
      rw [hfirst] at h
      cases h
    | ok first =>
      cases hrest : noted given fields with
      | error e =>
        rw [hfirst, hrest] at h
        cases h
      | ok rest =>
        rw [hfirst, hrest] at h
        obtain rfl := Except.ok.inj h
        rw [Setting.noted.eq_def] at hfirst
        split at hfirst
        next hnone =>
          obtain rfl := Except.ok.inj hfirst
          refine .fine (fun v hv => ?_) (ih hrest)
          rw [hnone] at hv
          cases hv
        next v hv =>
          split at hfirst
          next => cases hfirst
          next a hread =>
            obtain rfl := Except.ok.inj hfirst
            refine .fine (fun u hu => ⟨a, ?_⟩) (ih hrest)
            obtain rfl := Option.some.inj (hv.symm.trans hu)
            exact hread
          next complaint hread =>
            obtain rfl := Except.ok.inj hfirst
            exact .faulty hv hread (ih hrest)

/-- Whether the value of a field is read, be it only to complain about it. -/
def Setting.Reads (f : Setting σ) (value? : Option Value) : Prop :=
  ∀ v, value? = some v → ∀ e, f.reading v ≠ .error e

theorem Setting.Reads.exists_noted {value? : Option Value} (h : f.Reads value?) :
    ∃ issues, f.noted value? = .ok issues := by
  cases value? with
  | none => exact ⟨[], rfl⟩
  | some v =>
    rw [Setting.noted]
    cases hread : f.reading v with
    | error e => exact absurd hread (h v rfl e)
    | ok read => cases read <;> exact ⟨_, rfl⟩

theorem exists_noted (h : ∀ f ∈ fields, f.Reads (given f.name)) :
    ∃ issues, noted given fields = .ok issues := by
  induction fields with
  | nil => exact ⟨[], rfl⟩
  | cons f fields ih =>
    obtain ⟨hf, hfields⟩ := List.forall_mem_cons.1 h
    obtain ⟨first, hfirst⟩ := hf.exists_noted
    obtain ⟨rest, hrest⟩ := ih hfields
    exact ⟨first ++ rest, by rw [noted, hfirst, hrest]; rfl⟩

/-- The first field that is not read breaks the reading off. -/
theorem noted_eq_error (before : List (Setting σ)) {after : List (Setting σ)} {e : Failure}
    (hbefore : ∀ g ∈ before, g.Reads (given g.name)) (h : given f.name = some v)
    (hv : f.reading v = .error e) : noted given (before ++ f :: after) = .error e := by
  induction before with
  | nil =>
    rw [List.nil_append, noted, h, Setting.noted, hv]
    rfl
  | cons g before ih =>
    obtain ⟨hg, hbefore⟩ := List.forall_mem_cons.1 hbefore
    obtain ⟨first, hfirst⟩ := hg.exists_noted
    rw [List.cons_append, noted, hfirst, ih hbefore]
    rfl

theorem judged_of_noted {x : Issues σ} (hx : x.Comes (noted given fields))
    (hfinish : outcome = Issues.finish x) (h : noted given fields = .ok issues)
    (hok : ∀ s, outcome = .ok s → ∀ f ∈ fields, f.Holds s (given f.name)) :
    Judged given fields outcome := by
  rw [h] at hx
  by_cases hnone : issues = []
  · subst hnone
    obtain ⟨s, hs⟩ := hx.finish_ok
    rw [hfinish, hs]
    exact .accepted (hok s (hfinish.trans hs))
  · rw [hfinish, hx.finish_invalid hnone]
    exact .refused hnone (complains_of_noted h)

/-! ## Values that break a reading off -/

/-- The values of the kinds that have capitals. -/
inductive Value.IsSpelled : Value → Prop where
  | text (s : Text) : IsSpelled (.text s)
  | bytes (bs : List UInt8) : IsSpelled (.bytes bs)

/-- The values of the kinds that a file can be given by. -/
inductive Value.NamesFile : Value → Prop where
  | null : NamesFile .null
  | text (s : Text) : NamesFile (.text s)

namespace Reading

theorem level_ne_error (h : v.IsSpelled) (e : Failure) : level v ≠ .error e := by
  cases h with
  | text s =>
    rw [level]
    split <;> exact nofun
  | bytes bs => exact nofun

theorem level_eq_error (h : ¬v.IsSpelled) : level v = .error (.levelKind v.kindName) := by
  cases v with
  | text s => exact absurd (.text s) h
  | bytes bs => exact absurd (.bytes bs) h
  | _ => rfl

theorem file_ne_error (h : v.NamesFile) (e : Failure) : file v ≠ .error e := by
  cases h with
  | null => exact nofun
  | text s => cases s <;> exact nofun

theorem file_eq_error (h : ¬v.NamesFile) : file v = .error (.pathKind v.kindName) := by
  cases v with
  | null => exact absurd .null h
  | text s => exact absurd (.text s) h
  | _ => rfl

theorem executable_isTrimmed {a : Text} (h : executable v = .ok (.ok a)) : a.IsTrimmed := by
  rw [executable] at h
  split at h
  next => cases h
  next =>
    split at h
    next => cases h
    next hblank =>
      obtain rfl := Except.ok.inj (Except.ok.inj h)
      refine Text.isTrimmed_strip ?_
      rw [Bool.or_eq_true, not_or] at hblank
      simpa using hblank.2

end Reading

/-- Whether the names of executables are not empty and have no outer blanks. -/
structure GradleSettings.HasNames (s : GradleSettings) : Prop where
  command : s.command.IsTrimmed
  wrapper : s.wrapper.IsTrimmed
  windowsWrapper : s.windowsWrapper.IsTrimmed

theorem Setting.Holds.isTrimmed {name default : Text} {held : σ → Text} {s : σ}
    {value? : Option Value} (hdefault : default.IsTrimmed)
    (h : Setting.Holds ⟨Text, name, Reading.executable, default, held⟩ s value?) :
    (held s).IsTrimmed := by
  cases value? with
  | none => exact (show held s = default from h) ▸ hdefault
  | some v => exact Reading.executable_isTrimmed h

theorem GradleSettings.hasNames {s : GradleSettings}
    (h : ∀ f ∈ settings, f.Holds s (given f.name)) : s.HasNames := by
  simp only [settings, List.forall_mem_cons] at h
  obtain ⟨hcommand, hwrapper, hwindows, -⟩ := h
  exact ⟨hcommand.isTrimmed (by decide), hwrapper.isTrimmed (by decide),
    hwindows.isTrimmed (by decide)⟩

/-! ## What values come to -/

/-- What is made of the values of the fields of the logging settings: a verdict, unless the level or
the file has a value of a kind that breaks its reading off. -/
inductive LoggingSettings.Ends (given : Text → Option Value) :
    Except Failure LoggingSettings → Prop where
  | badLevel {v : Value} (h : given "level" = some v) (hv : ¬v.IsSpelled) :
    Ends given (.error (.levelKind v.kindName))
  | badFile {v : Value} (hlevel : ∀ u, given "level" = some u → u.IsSpelled)
    (h : given "file" = some v) (hv : ¬v.NamesFile) : Ends given (.error (.pathKind v.kindName))
  | judged {outcome : Except Failure LoggingSettings}
    (hlevel : ∀ u, given "level" = some u → u.IsSpelled)
    (hfile : ∀ u, given "file" = some u → u.NamesFile) (h : Judged given settings outcome)
    (hlevels : ∀ s, outcome = .ok s → s.HasLevel) : Ends given outcome

theorem LoggingSettings.ofValues_ends (given : Text → Option Value) :
    Ends given (ofValues given) := by
  obtain ⟨x, hfinish, hx⟩ := comes given
  by_cases hlevel : ∀ u, given "level" = some u → u.IsSpelled
  · have hfirst : ∀ g ∈ settings.take 2, g.Reads (given g.name) := by
      refine List.forall_mem_cons.2 ⟨fun v hv e => ?_, List.forall_mem_singleton.2 fun v _ e => ?_⟩
      · exact Reading.level_ne_error (hlevel v hv) e
      · exact Reading.text_ne_error v e
    by_cases hfile : ∀ u, given "file" = some u → u.NamesFile
    · have hreads : ∀ g ∈ settings, g.Reads (given g.name) := by
        refine List.forall_mem_append.2 ⟨hfirst, List.forall_mem_cons.2
          ⟨fun v hv e => ?_, List.forall_mem_singleton.2 fun v _ e => ?_⟩⟩
        · exact Reading.file_ne_error (hfile v hv) e
        · exact Reading.truth_ne_error v e
      obtain ⟨issues, hissues⟩ := exists_noted hreads
      have hjudged : Judged given settings (ofValues given) :=
        judged_of_noted hx hfinish hissues fun s => ofValues_eq_ok.1
      exact .judged hlevel hfile hjudged fun s => ofValues_level
    · simp only [not_forall] at hfile
      obtain ⟨v, hv, hbad⟩ := hfile
      rw [show noted given settings = _ from noted_eq_error (settings.take 2) hfirst hv
        (Reading.file_eq_error hbad)] at hx
      rw [hfinish, hx.finish_error]
      exact .badFile hlevel hv hbad
  · simp only [not_forall] at hlevel
    obtain ⟨v, hv, hbad⟩ := hlevel
    rw [show noted given settings = _ from noted_eq_error [] (by simp) hv
      (Reading.level_eq_error hbad)] at hx
    rw [hfinish, hx.finish_error]
    exact .badLevel hv hbad

theorem GradleSettings.ofValues_judged (given : Text → Option Value) :
    Judged given settings (ofValues given) := by
  obtain ⟨x, hfinish, hx⟩ := comes given
  have hreads : ∀ g ∈ settings, g.Reads (given g.name) := by
    simp only [settings, List.forall_mem_cons]
    refine ⟨?_, ?_, ?_, ?_, ?_, ?_, by simp⟩
    · exact fun v _ => Reading.executable_ne_error v
    · exact fun v _ => Reading.executable_ne_error v
    · exact fun v _ => Reading.executable_ne_error v
    · exact fun v _ => Reading.text_ne_error v
    · exact fun v _ => Reading.text_ne_error v
    · exact fun v _ => Reading.text_ne_error v
  obtain ⟨issues, hissues⟩ := exists_noted hreads
  exact judged_of_noted hx hfinish hissues fun s => ofValues_eq_ok.1

/-- What is made of the values of the fields of the build tool settings. -/
structure GradleSettings.Ends (given : Text → Option Value)
    (outcome : Except Failure GradleSettings) : Prop where
  judged : Judged given settings outcome
  hasNames : ∀ s, outcome = .ok s → s.HasNames

theorem GradleSettings.ofValues_ends (given : Text → Option Value) :
    Ends given (ofValues given) where
  judged := ofValues_judged given
  hasNames _ h := hasNames (ofValues_eq_ok.1 h)

/-! ## Settings of given values -/

/-- How it ends when settings are made of keys in a world: the environment file cannot be had, or
each field has the value that the layers decide on and the outcome is what comes of the values. -/
inductive EndsIn (w : World) (start : Text) (keys : Fields) (fields : List (Setting σ))
    (ends : (Text → Option Value) → Except Failure σ → Prop) : Except Failure σ → Prop where
  | noEnvFile {e : Failure} (h : w.EnvFileFails e) : EndsIn w start keys fields ends (.error e)
  | values {envFile : List (Text × Option Text)} {given : Text → Option Value}
    {outcome : Except Failure σ} (hgives : w.EnvFileGives envFile)
    (hgiven : ∀ f ∈ fields,
      (⟨start, keys, w.environment, envFile⟩ : Layers).Decides f.name (given f.name))
    (h : ends given outcome) : EndsIn w start keys fields ends outcome

theorem exec_endsIn {ends : (Text → Option Value) → Except Failure σ → Prop}
    {ofValues : (Text → Option Value) → Except Failure σ} {keys : Fields} {start : Text}
    (hlower : ∀ f ∈ fields, Text.asciiLower f.name = f.name)
    (hends : ∀ given, ends given (ofValues given)) (hplain : keys.Plain) (firstField : Text)
    (w : World) :
    EndsIn w start keys fields ends (exec (do
      let x ← Surroundings.now (← Action.ofExcept (Lookup.ofFields start firstField keys))
      Action.ofExcept (ofValues (x.value? keys))) w).1 := by
  rw [exec_make_plain hplain]
  cases hnow : exec (Surroundings.now { start }) w with
  | mk outcome w₁ =>
    cases outcome with
    | error e =>
      rw [exec_bind_error hnow]
      exact .noEnvFile (Surroundings.of_exec_now_error hnow)
    | ok x =>
      obtain ⟨envFile, hgives, rfl⟩ := Surroundings.of_exec_now hnow
      rw [exec_bind_ok hnow, Action.exec_ofExcept]
      refine .values hgives (fun f hf => ?_) (hends _)
      exact (Layers.value?_eq_iff (hlower f hf)).1 rfl

namespace Settings

/-- **Values make settings or are refused**, unless a level or a file is of a kind that has no
capitals or no path. -/
theorem values_judged {keys : Fields} (hplain : keys.Plain) (w : World) :
    EndsIn w LoggingSettings.variableStart keys LoggingSettings.settings LoggingSettings.Ends
        (exec (LoggingSettings.make keys) w).1 ∧
      EndsIn w GradleSettings.variableStart keys GradleSettings.settings GradleSettings.Ends
        (exec (GradleSettings.make keys) w).1 :=
  ⟨exec_endsIn LoggingSettings.lower_names LoggingSettings.ofValues_ends hplain _ w,
    exec_endsIn GradleSettings.lower_names GradleSettings.ofValues_ends hplain _ w⟩

/-- A level that there is none of, and a layout that is no text. -/
def unfit : Fields := [("level", .text "loud"), ("format", .int 5)]

theorem values_judged_unfit :
    unfit.Plain ∧
      (exec (LoggingSettings.make unfit) (layeredWorld "" "" [])).1 =
        .error (.invalid [⟨["level"], .unknownLevel "loud"⟩, ⟨["format"], .notText⟩]) ∧
      EndsIn (layeredWorld "" "" []) LoggingSettings.variableStart unfit LoggingSettings.settings
        LoggingSettings.Ends (exec (LoggingSettings.make unfit) (layeredWorld "" "" [])).1 := by
  have hplain : unfit.Plain := by
    simp [Fields.Plain, unfit]
  exact ⟨hplain, rfl, (values_judged hplain _).1⟩

end Settings

/-- A number as a level, in a mapping and a world that are as usual, is not refused: it breaks the
making of settings off. -/
theorem LoggingSettings.numberLevel_breaks :
    Fields.Plain [("level", .int 5)] ∧
      (exec (make [("level", .int 5)]) (Settings.layeredWorld "" "" [])).1 =
        .error (.levelKind "int") ∧
      ∀ issues, (exec (make [("level", .int 5)]) (Settings.layeredWorld "" "" [])).1 ≠
        .error (.invalid issues) := by
  have hbreaks : (exec (make [("level", .int 5)]) (Settings.layeredWorld "" "" [])).1 =
      .error (.levelKind "int") := rfl
  refine ⟨by simp [Fields.Plain], hbreaks, fun issues h => ?_⟩
  rw [hbreaks] at h
  cases h

end ClasspathProbe
