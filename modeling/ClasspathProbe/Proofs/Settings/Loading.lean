import ClasspathProbe.Proofs.Config
import ClasspathProbe.Proofs.Settings.Layers
import ClasspathProbe.Proofs.Settings.Surroundings

/-!
# Loading settings

Settings loaded from a file are made field by field of the keys of the file's sections, the
environment and the environment file (`Settings.ofFile_layers`), and so are the settings of the
common configuration (`Settings.load_layers`). A key of the file counts more than a variable of the
environment (`Settings.variable_does_not_count`), in whatever case the two are written
(`Settings.otherCase_and_reference_count`).
-/

namespace ClasspathProbe

open ClasspathProbe.Action (exec exec_bind_ok of_exec_bind of_exec_pure)

variable {w w' w₁ : World} {f : File}

/-! ## One section -/

/-- Whether no key starts with the sign of those that are meant for the search itself. -/
def Fields.Plain (fields : Fields) : Prop := ∀ p ∈ fields, p.1.head? ≠ some '_'

theorem Fields.Plain.lookup_eq_none {fields : Fields} (h : fields.Plain) {name : Text}
    (hname : name.head? = some '_') : fields.lookup name = none := by
  refine List.lookup_eq_none_iff.2 fun p hp => ?_
  have hne : name ≠ p.1 := fun heq => h p hp (heq ▸ hname)
  simpa using hne

theorem Lookup.ofFields_plain {fields : Fields} (h : fields.Plain) (start firstField : Text) :
    ofFields start firstField fields = .ok { start } := by
  have hfiles : fields.lookup "_env_file".toList = none := h.lookup_eq_none rfl
  have hstart : fields.lookup "_env_prefix".toList = none := h.lookup_eq_none rfl
  have hnull : fields.lookup "_env_parse_none_str".toList = none := h.lookup_eq_none rfl
  have hencoding : fields.lookup "_env_file_encoding".toList = none := h.lookup_eq_none rfl
  have hcase : fields.lookup "_case_sensitive".toList = none := h.lookup_eq_none rfl
  have hempty : fields.lookup "_env_ignore_empty".toList = none := h.lookup_eq_none rfl
  rw [ofFields]
  dsimp only
  rw [hfiles, hstart, hnull, hencoding, hcase, hempty]
  rfl

/-- With plain keys a section is looked for as usual. -/
theorem exec_make_plain {σ : Type} {fields : Fields} (h : fields.Plain) (start firstField : Text)
    (ofValues : (Text → Option Value) → Except Failure σ) (w : World) :
    exec (do
      let x ← Surroundings.now (← Action.ofExcept (Lookup.ofFields start firstField fields))
      Action.ofExcept (ofValues (x.value? fields))) w =
    exec (do
      let x ← Surroundings.now { start }
      Action.ofExcept (ofValues (x.value? fields))) w := by
  have hlookup : exec (Action.ofExcept (Lookup.ofFields start firstField fields)) w =
      (.ok { start }, w) := by
    rw [Lookup.ofFields_plain h]
    rfl
  exact exec_bind_ok hlookup _

theorem LoggingSettings.lower_names : ∀ f ∈ settings, Text.asciiLower f.name = f.name := by
  decide

theorem GradleSettings.lower_names : ∀ f ∈ settings, Text.asciiLower f.name = f.name := by
  decide

/-! ## Sections of a mapping -/

/-- Whether no key of the two sections is meant for the search itself. -/
def Config.PlainKeys (ps : List (Value × Value)) : Prop :=
  ∀ name ∈ ["logging".toList, "gradle".toList], ∀ pairs, IsSection name ps pairs →
    ∀ p ∈ pairs, ∀ key, p.1 = .text key → key.head? ≠ some '_'

/-- Whether layers are those of a section of a mapping and of a world. Records can be added to files
before the environment file is read. -/
structure Layers.FoundIn (w : World) (ps : List (Value × Value)) (name start : Text) (l : Layers) :
    Prop where
  start : l.start = start
  keys : Config.IsSection name ps (l.keys.map fun p => (.text p.1, p.2))
  environment : l.environment = w.environment
  envFile : ∃ w₁, w.OnlyReads w₁ ∧ w₁.EnvFileGives l.envFile

theorem Layers.FoundIn.envFileGives {ps : List (Value × Value)} {name start : Text} {l : Layers}
    (h : l.FoundIn w ps name start) (hspares : w.SparesEnvFile) : w.EnvFileGives l.envFile := by
  obtain ⟨w₁, hreads, hgives⟩ := h.envFile
  exact hgives.of_onlyReads hreads hspares

section Made

variable {ps : List (Value × Value)} {fields : Fields}

theorem Config.PlainKeys.plain {name : Text} (h : Config.PlainKeys ps)
    (hname : name ∈ ["logging".toList, "gradle".toList])
    (hsection : Config.IsSection name ps (fields.map fun p => (.text p.1, p.2))) :
    fields.Plain := by
  intro p hp
  exact h name hname _ hsection _ (List.mem_map_of_mem hp) p.1 rfl

variable (hreads : w.OnlyReads w₁)

include hreads

/-- What is made of the keys of a section and the surroundings is made of layers. -/
theorem of_exec_found {σ : Type} {name start firstField : Text} {settings : List (Setting σ)}
    {ofValues : (Text → Option Value) → Except Failure σ} {s : σ}
    (hlower : ∀ f ∈ settings, Text.asciiLower f.name = f.name)
    (hvalues : ∀ given, ofValues given = .ok s ↔ ∀ f ∈ settings, f.Holds s (given f.name))
    (hplain : fields.Plain)
    (hsection : Config.IsSection name ps (fields.map fun p => (.text p.1, p.2)))
    (h : exec (do
      let x ← Surroundings.now (← Action.ofExcept (Lookup.ofFields start firstField fields))
      Action.ofExcept (ofValues (x.value? fields))) w₁ = (.ok s, w')) :
    w.OnlyReads w' ∧ ∃ l : Layers, l.FoundIn w ps name start ∧ l.Makes settings s := by
  rw [exec_make_plain hplain] at h
  obtain ⟨x, w₂, hnow, hmade⟩ := of_exec_bind h
  obtain ⟨hok, rfl⟩ := Action.of_exec_ofExcept hmade
  obtain ⟨pairs, hgives, rfl⟩ := Surroundings.of_exec_now hnow
  have hkept := (Surroundings.now_keeps World.onlyReads_frame { start }).after hnow
  refine ⟨World.onlyReads_frame.trans hreads hkept, ⟨start, fields, w₁.environment, pairs⟩, ?_, ?_⟩
  · exact ⟨rfl, hsection, hreads.environment, w₁, hreads, hgives⟩
  · exact (Layers.makes_iff hlower).2 ((hvalues _).1 hok)

variable (hplain : Config.PlainKeys ps)

include hplain

theorem LoggingSettings.of_exec_make {s : LoggingSettings}
    (hsection : Config.IsSection "logging" ps (fields.map fun p => (.text p.1, p.2)))
    (h : exec (make fields) w₁ = (.ok s, w')) :
    w.OnlyReads w' ∧ ∃ l : Layers, l.FoundIn w ps "logging" variableStart ∧ l.Makes settings s :=
  of_exec_found hreads lower_names (fun _ => ofValues_eq_ok) (hplain.plain (by simp) hsection)
    hsection h

theorem GradleSettings.of_exec_make {s : GradleSettings}
    (hsection : Config.IsSection "gradle" ps (fields.map fun p => (.text p.1, p.2)))
    (h : exec (make fields) w₁ = (.ok s, w')) :
    w.OnlyReads w' ∧ ∃ l : Layers, l.FoundIn w ps "gradle" variableStart ∧ l.Makes settings s :=
  of_exec_found hreads lower_names (fun _ => ofValues_eq_ok) (hplain.plain (by simp) hsection)
    hsection h

end Made

namespace Settings

variable {ps qs : List (Value × Value)} {s s' : Settings}
  {logging logging' gradle gradle' : Layers}

/-- Whether settings are made of layers, those of the two sections of a mapping in a world. -/
structure LayeredIn (w : World) (ps : List (Value × Value)) (s : Settings)
    (logging gradle : Layers) : Prop where
  loggingFound : logging.FoundIn w ps "logging" LoggingSettings.variableStart
  gradleFound : gradle.FoundIn w ps "gradle" GradleSettings.variableStart
  loggingMade : logging.Makes LoggingSettings.settings s.logging
  gradleMade : gradle.Makes GradleSettings.settings s.gradle

theorem LayeredIn.envFileGives (h : LayeredIn w ps s logging gradle) (hspares : w.SparesEnvFile) :
    w.EnvFileGives logging.envFile ∧ w.EnvFileGives gradle.envFile :=
  ⟨h.loggingFound.envFileGives hspares, h.gradleFound.envFileGives hspares⟩

/-- What one field is set to has no influence on another. -/
theorem LayeredIn.held_eq (h : LayeredIn w ps s logging gradle)
    (h' : LayeredIn w' qs s' logging' gradle') :
    (∀ f ∈ LoggingSettings.settings, Layers.Alike f.name logging logging' →
      f.held s.logging = f.held s'.logging) ∧
    ∀ f ∈ GradleSettings.settings, Layers.Alike f.name gradle gradle' →
      f.held s.gradle = f.held s'.gradle := by
  constructor
  · intro f hf halike
    exact h.loggingMade.held_eq (LoggingSettings.lower_names f hf) h'.loggingMade hf halike
  · intro f hf halike
    exact h.gradleMade.held_eq (GradleSettings.lower_names f hf) h'.gradleMade hf halike

theorem eq_of_fieldsOf {fields : Fields} (h : fieldsOf ps = .ok fields) :
    ps = fields.map fun p => (.text p.1, p.2) := by
  induction ps generalizing fields with
  | nil =>
    obtain rfl := Except.ok.inj h
    rfl
  | cons p ps ih =>
    obtain ⟨key, v⟩ := p
    cases key with
    | text k =>
      cases hrest : fieldsOf ps with
      | error e =>
        rw [fieldsOf, hrest] at h
        cases h
      | ok rest =>
        rw [fieldsOf, hrest] at h
        obtain rfl := Except.ok.inj h
        rw [ih hrest]
        rfl
    | _ => cases h

theorem of_exec_ofConfig {c : Config} (hplain : Config.PlainKeys c.mapping)
    (h : exec (ofConfig c) w = (.ok s, w')) :
    ∃ logging gradle, LayeredIn w c.mapping s logging gradle := by
  obtain ⟨loggingKeys, w₁, hloggingKeys, h₁⟩ := of_exec_bind h
  obtain ⟨hloggingFields, rfl⟩ := Action.of_exec_ofExcept hloggingKeys
  obtain ⟨logging, w₂, hlogging, h₂⟩ := of_exec_bind h₁
  obtain ⟨gradleKeys, w₃, hgradleKeys, h₃⟩ := of_exec_bind h₂
  obtain ⟨hgradleFields, rfl⟩ := Action.of_exec_ofExcept hgradleKeys
  obtain ⟨gradle, w₄, hgradle, h₄⟩ := of_exec_bind h₃
  have hs : s = { logging, gradle } := by
    obtain ⟨x, w₅, -, h₅⟩ := of_exec_bind h₄
    obtain ⟨_, w₆, -, h₆⟩ := of_exec_bind h₅
    exact (of_exec_pure h₆).1
  have hloggingSection := Config.isSection_sectionOf c "logging"
  rw [eq_of_fieldsOf hloggingFields] at hloggingSection
  have hgradleSection := Config.isSection_sectionOf c "gradle"
  rw [eq_of_fieldsOf hgradleFields] at hgradleSection
  obtain ⟨hreads, l, hl, hlmade⟩ := LoggingSettings.of_exec_make (World.onlyReads_frame.refl w₁)
    hplain hloggingSection hlogging
  obtain ⟨-, g, hg, hgmade⟩ := GradleSettings.of_exec_make hreads hplain hgradleSection hgradle
  rw [hs]
  exact ⟨l, g, hl, hg, hlmade, hgmade⟩

/-! ## Settings of a file -/

/-- **Each field is decided for itself**, by its key, its variable, the environment file, or its
default. -/
theorem ofFile_layers {path : Path} (hfile : w.LeadsTo path.toText (.file f))
    (hgives : Config.Gives f.bytes ps) (hplain : Config.PlainKeys ps)
    (hload : exec (ofFile path) w = (.ok s, w')) :
    ∃ logging gradle, LayeredIn w ps s logging gradle ∧
      (w.SparesEnvFile → w.EnvFileGives logging.envFile ∧ w.EnvFileGives gradle.envFile) ∧
      ∀ w₁ qs s₁ logging₁ gradle₁, LayeredIn w₁ qs s₁ logging₁ gradle₁ →
        (∀ f ∈ LoggingSettings.settings, Layers.Alike f.name logging logging₁ →
          f.held s.logging = f.held s₁.logging) ∧
        ∀ f ∈ GradleSettings.settings, Layers.Alike f.name gradle gradle₁ →
          f.held s.gradle = f.held s₁.gradle := by
  have hread : exec (Config.load ⟨some path, []⟩ none) w = (.ok (⟨some path, ps⟩, ps), w) := by
    rw [Config.exec_load hfile, Config.ofBytes_gives path hgives]
    rfl
  rw [ofFile, exec_bind_ok hread] at hload
  obtain ⟨logging, gradle, hlayers⟩ := of_exec_ofConfig hplain hload
  exact ⟨logging, gradle, hlayers, hlayers.envFileGives, fun _ _ _ _ _ h => hlayers.held_eq h⟩

/-- A working directory with a configuration file and an environment file. -/
def layeredWorld (config envFile : String) (environment : List (Text × Text)) : World where
  tree := ⟨[(["s.yaml".toList], .file ⟨Utf8.encode config.toList, false, 0⟩),
    ([".env".toList], .file ⟨Utf8.encode envFile.toList, false, 0⟩)]⟩
  here := []
  tempDirectory := "/t".toList
  environment
  commonConfig := some (.ofText "s.yaml".toList)

theorem leadsTo_layeredWorld (config envFile : String) (environment : List (Text × Text)) :
    (layeredWorld config envFile environment).LeadsTo (Path.ofText "s.yaml".toList).toText
      (.file ⟨Utf8.encode config.toList, false, 0⟩) :=
  ⟨rfl, ["s.yaml".toList], rfl⟩

theorem envFileGives_layeredWorld (config : String) (environment : List (Text × Text)) :
    (layeredWorld config "" environment).EnvFileGives [] := by
  have hfile : (layeredWorld config "" environment).LeadsTo usualEnvFile.toText
      (.file ⟨[], false, 0⟩) := ⟨rfl, [".env".toList], rfl⟩
  have hgives := World.EnvFileGives.read hfile rfl
  exact hgives

/-- A mapping with one key in its section for the build tool. -/
def oneKey (key value : Text) : List (Value × Value) :=
  [(.text "gradle".toList, .mapping [(.text key, .text value)])]

/-- Whether a document was read that has one key in its section for the build tool. -/
def readsOneKey {ε : Type} (key value : Text) : Except ε Value → Bool
  | .ok (.mapping [(.text name, .mapping [(.text k, .text v)])]) =>
    name = "gradle".toList && k = key && v = value
  | _ => false

theorem eq_of_readsOneKey {ε : Type} {key value : Text} {x : Except ε Value}
    (h : readsOneKey key value x = true) : x = .ok (.mapping (oneKey key value)) := by
  rw [readsOneKey.eq_def] at h
  split at h
  · simp only [Bool.and_eq_true, decide_eq_true_eq] at h
    obtain ⟨⟨rfl, rfl⟩, rfl⟩ := h
    rfl
  · cases h

theorem plainKeys_oneKey {key value : Text} (h : key.head? ≠ some '_') :
    Config.PlainKeys (oneKey key value) := by
  intro name hname pairs hsection p hp
  have hpairs := Config.IsSection.eq_sectionOf (c := ⟨none, oneKey key value⟩) hsection
  subst hpairs
  simp only [List.mem_cons, List.not_mem_nil, or_false] at hname
  obtain rfl | rfl := hname
  · have hnone : (⟨none, oneKey key value⟩ : Config).sectionOf "logging".toList = [] := rfl
    rw [hnone] at hp
    cases hp
  · have hsole : (⟨none, oneKey key value⟩ : Config).sectionOf "gradle".toList =
        [(.text key, .text value)] := rfl
    rw [hsole, List.mem_singleton] at hp
    subst hp
    rintro _ ⟨⟩
    exact h

theorem gives_oneKey {config : String} {key value : Text}
    (hbytes : Utf8.decodeStrict (Utf8.encode config.toList) = .ok config.toList)
    (hread : readsOneKey key value (Yaml.load (Text.oneLineEnd config.toList)) = true) :
    Config.Gives (Utf8.encode config.toList) (oneKey key value) :=
  ⟨_, _, hbytes, eq_of_readsOneKey hread, .inl ⟨rfl, rfl⟩⟩

/-- Whether settings were made that pass a test. -/
def madeWith (test : Settings → Bool) (r : Except Failure Settings × World) : Bool :=
  match r.1 with
  | .ok s => test s
  | .error _ => false

theorem exists_of_madeWith {test : Settings → Bool} {r : Except Failure Settings × World}
    (h : madeWith test r = true) : ∃ s w, r = (.ok s, w) ∧ test s = true := by
  obtain ⟨outcome, w⟩ := r
  cases outcome with
  | ok s => exact ⟨s, w, rfl, h⟩
  | error e => cases h

/-- A configuration file whose only key is written in capitals. -/
def capitals : String := "gradle:\n  COMMAND: big\n"

theorem gives_capitals : Config.Gives (Utf8.encode capitals.toList) (oneKey "COMMAND" "big") :=
  gives_oneKey rfl (by decide +kernel)

theorem ofFile_capitals :
    ∃ s w', exec (ofFile (.ofText "s.yaml".toList)) (layeredWorld capitals "" []) = (.ok s, w') ∧
      s.gradle.command = "big".toList := by
  have hmade : madeWith (fun s => s.gradle.command = "big".toList)
      (exec (ofFile (.ofText "s.yaml".toList)) (layeredWorld capitals "" [])) = true := by
    decide +kernel
  obtain ⟨s, w', hload, hcommand⟩ := exists_of_madeWith hmade
  exact ⟨s, w', hload, by simpa using hcommand⟩

theorem ofFile_layers_capitals :
    ∃ s w' logging gradle,
      exec (ofFile (.ofText "s.yaml".toList)) (layeredWorld capitals "" []) = (.ok s, w') ∧
      LayeredIn (layeredWorld capitals "" []) (oneKey "COMMAND" "big") s logging gradle := by
  obtain ⟨s, w', hload, -⟩ := ofFile_capitals
  have hplain : Config.PlainKeys (oneKey "COMMAND" "big") := plainKeys_oneKey (by decide)
  obtain ⟨logging, gradle, hlayers, -⟩ :=
    ofFile_layers (leadsTo_layeredWorld capitals "" []) gives_capitals hplain hload
  exact ⟨s, w', logging, gradle, hload, hlayers⟩

/-- A working directory whose environment file has a value that refers to another variable. -/
def referringWorld (command : Text) : World :=
  layeredWorld "gradle:\n" "CLASSPATH_GRADLE_WRAPPER=$\x7bCLASSPATH_GRADLE_COMMAND\x7d-w"
    [("CLASSPATH_GRADLE_COMMAND", command)]

/-- A key counts in whatever case it is written, and a value in the environment file can refer to
the variable of another field. -/
theorem otherCase_and_reference_count :
    ((layeredWorld capitals "" []).LeadsTo (Path.ofText "s.yaml".toList).toText
        (.file ⟨Utf8.encode capitals.toList, false, 0⟩) ∧
      Config.Gives (Utf8.encode capitals.toList) (oneKey "COMMAND" "big") ∧
      Config.PlainKeys (oneKey "COMMAND" "big") ∧
      Config.IsSection "gradle" (oneKey "COMMAND" "big") [(.text "COMMAND", .text "big")] ∧
      (layeredWorld capitals "" []).environment = [] ∧
      (layeredWorld capitals "" []).EnvFileGives [] ∧
      ∃ s w', exec (ofFile (.ofText "s.yaml".toList)) (layeredWorld capitals "" []) = (.ok s, w') ∧
        s.gradle.command ≠ ({} : GradleSettings).command) ∧
    ∃ s s' w w',
      exec (ofFile (.ofText "s.yaml".toList)) (referringWorld "a") = (.ok s, w) ∧
      exec (ofFile (.ofText "s.yaml".toList)) (referringWorld "b") = (.ok s', w') ∧
      s.gradle.wrapper ≠ s'.gradle.wrapper := by
  constructor
  · obtain ⟨s, w', hload, hcommand⟩ := ofFile_capitals
    refine ⟨leadsTo_layeredWorld capitals "" [], gives_capitals, plainKeys_oneKey (by decide),
      .part rfl, rfl, envFileGives_layeredWorld capitals [], s, w', hload, ?_⟩
    rw [hcommand]
    decide
  · have hfirst : madeWith (fun s => s.gradle.wrapper = "a-w".toList)
        (exec (ofFile (.ofText "s.yaml".toList)) (referringWorld "a")) = true := by
      decide +kernel
    have hsecond : madeWith (fun s => s.gradle.wrapper = "b-w".toList)
        (exec (ofFile (.ofText "s.yaml".toList)) (referringWorld "b")) = true := by
      decide +kernel
    obtain ⟨s, w, hload, hwrapper⟩ := exists_of_madeWith hfirst
    obtain ⟨s', w', hload', hwrapper'⟩ := exists_of_madeWith hsecond
    refine ⟨s, s', w, w', hload, hload', ?_⟩
    rw [decide_eq_true_eq] at hwrapper hwrapper'
    rw [hwrapper, hwrapper']
    decide

/-! ## Settings of everybody -/

/-- The mapping of values for whole sections. -/
def document (logging gradle : Option Value) : List (Value × Value) :=
  (logging.map fun v => (.text "logging", v)).toList ++
    (gradle.map fun v => (.text "gradle", v)).toList

/-- The mapping that the settings of everybody start with: that of the common configuration file, or
the empty one when there is no such file to be had, or else, when the file is missing, that of the
texts for whole sections in the surroundings. -/
inductive CommonMapping (w : World) : List (Value × Value) → Prop where
  | standard (h : w.commonConfig = none) : CommonMapping w []
  | file {path : Path} {f : File} {ps : List (Value × Value)} (h : w.commonConfig = some path)
    (hfile : w.LeadsTo path.toText (.file f)) (hgives : Config.Gives f.bytes ps) :
    CommonMapping w ps
  | missing {path : Path} {pairs : List (Text × Option Text)} {logging gradle : Option Value}
    (h : w.commonConfig = some path) (hmissing : ∀ node, ¬w.LeadsTo path.toText node)
    (hgives : w.EnvFileGives pairs)
    (hsections : Surroundings.sections ⟨lookup, w.environment, pairs⟩ = .ok (logging, gradle)) :
    CommonMapping w (document logging gradle)

theorem find?_text (name key : Text) (v : Value) (ps : List (Value × Value)) :
    Value.find? (.text name) ((.text key, v) :: ps) =
      if key = name then some v else Value.find? (.text name) ps := by
  rw [Value.find?, List.find?_cons, Value.find?]
  by_cases heq : key = name <;> simp [Value.sameKey, heq]

theorem find?_document_logging (logging gradle : Option Value) :
    Value.find? (.text "logging") (document logging gradle) = logging := by
  cases logging <;> cases gradle <;> simp [document, find?_text] <;> rfl

theorem find?_document_gradle (logging gradle : Option Value) :
    Value.find? (.text "gradle") (document logging gradle) = gradle := by
  cases logging <;> cases gradle <;> simp [document, find?_text] <;> rfl

theorem of_exec_sectionFrom {α : Type} {name shownName : Text} {make : Fields → Action α}
    {v : Option Value} {a : α} (hfind : Value.find? (.text name) ps = v)
    (h : exec (sectionFrom name shownName make v) w = (.ok (.ok a), w')) :
    ∃ fields : Fields, Config.IsSection name ps (fields.map fun p => (.text p.1, p.2)) ∧
      exec (make fields) w = (.ok a, w') := by
  cases v with
  | none =>
    obtain ⟨b, w₁, hmake, hrest⟩ := of_exec_bind h
    obtain ⟨hb, rfl⟩ := of_exec_pure hrest
    obtain rfl := Except.ok.inj hb
    exact ⟨[], .missing hfind, hmake⟩
  | some v =>
    cases v with
    | mapping qs =>
      obtain ⟨fields, w₁, hfields, hrest⟩ := of_exec_bind h
      obtain ⟨hqs, rfl⟩ := Action.of_exec_ofExcept hfields
      refine ⟨fields, .part ?_, ?_⟩
      · rw [hfind, eq_of_fieldsOf hqs]
      · rw [Action.exec_recover, Action.exec_map] at hrest
        generalize exec (make fields) w₁ = r at hrest
        obtain ⟨outcome, w₂⟩ := r
        cases outcome with
        | ok b =>
          obtain ⟨hb, hw⟩ := Prod.mk.inj hrest
          obtain rfl := Except.ok.inj (Except.ok.inj hb)
          rw [← hw]
        | error e => cases e <;> cases hrest
    | _ => cases h

theorem of_exec_make (h : exec make w = (.ok s, w'))
    (hplain : ∀ pairs sections, w.EnvFileGives pairs →
      Surroundings.sections ⟨lookup, w.environment, pairs⟩ = .ok sections →
      Config.PlainKeys (document sections.1 sections.2)) :
    ∃ pairs sections logging gradle, w.EnvFileGives pairs ∧
      Surroundings.sections ⟨lookup, w.environment, pairs⟩ = .ok sections ∧
      LayeredIn w (document sections.1 sections.2) s logging gradle := by
  obtain ⟨x, w₁, hnow, h₁⟩ := of_exec_bind h
  obtain ⟨pairs, hgives, rfl⟩ := Surroundings.of_exec_now hnow
  have hreads₁ := (Surroundings.now_keeps World.onlyReads_frame lookup).after hnow
  obtain ⟨⟨loggingValue, gradleValue⟩, w₂, hsections, h₂⟩ := of_exec_bind h₁
  obtain ⟨hvalues, rfl⟩ := Action.of_exec_ofExcept hsections
  obtain ⟨loggingRead, w₃, hlogging, h₃⟩ := of_exec_bind h₂
  obtain ⟨gradleRead, w₄, hgradle, h₄⟩ := of_exec_bind h₃
  -- what is wrong with one section is told only after both were tried
  have hdocument := hplain pairs _ hgives hvalues
  cases loggingRead with
  | error issues => cases gradleRead <;> cases h₄
  | ok logging =>
    cases gradleRead with
    | error issues => cases h₄
    | ok gradle =>
      obtain ⟨rfl, -⟩ := of_exec_pure h₄
      obtain ⟨loggingKeys, hloggingSection, hloggingMake⟩ :=
        of_exec_sectionFrom (find?_document_logging loggingValue gradleValue) hlogging
      obtain ⟨gradleKeys, hgradleSection, hgradleMake⟩ :=
        of_exec_sectionFrom (find?_document_gradle loggingValue gradleValue) hgradle
      obtain ⟨hreads₃, l, hl, hlmade⟩ :=
        LoggingSettings.of_exec_make hreads₁ hdocument hloggingSection hloggingMake
      obtain ⟨-, g, hg, hgmade⟩ :=
        GradleSettings.of_exec_make hreads₃ hdocument hgradleSection hgradleMake
      exact ⟨pairs, _, l, g, hgives, hvalues, hl, hg, hlmade, hgmade⟩

theorem of_exec_load (hplain : ∀ ps, CommonMapping w ps → Config.PlainKeys ps)
    (h : exec load w = (.ok s, w')) :
    ∃ ps logging gradle, CommonMapping w ps ∧ LayeredIn w ps s logging gradle := by
  rw [load, exec_bind_ok (Action.exec_get w)] at h
  cases hcommon : w.commonConfig with
  | none =>
    rw [hcommon] at h
    obtain ⟨logging, gradle, hlayers⟩ := of_exec_ofConfig (hplain [] (.standard hcommon)) h
    exact ⟨[], logging, gradle, .standard hcommon, hlayers⟩
  | some path =>
    rw [hcommon] at h
    obtain ⟨present, w₁, hpresent, hrest⟩ := of_exec_bind h
    obtain ⟨outcome, hexec, htells⟩ := Action.exec_isThere path w
    rw [hexec] at hpresent
    obtain ⟨houtcome, rfl⟩ := Prod.mk.inj hpresent
    have hthere := htells present houtcome
    cases present with
    | true =>
      obtain ⟨⟨c, ps⟩, w₂, hread, hmade⟩ := of_exec_bind hrest
      obtain ⟨rfl, rfl, f, hfile, hgives⟩ := Config.of_exec_load hread
      have hmapping : CommonMapping w₂ ps := .file hcommon hfile hgives
      obtain ⟨logging, gradle, hlayers⟩ := of_exec_ofConfig (hplain ps hmapping) hmade
      exact ⟨ps, logging, gradle, hmapping, hlayers⟩
    | false =>
      have hmissing : ∀ node, ¬w.LeadsTo path.toText node := fun node hnode =>
        Bool.false_ne_true (hthere.2 ⟨node, hnode⟩)
      obtain ⟨pairs, sections, logging, gradle, hgives, hsections, hlayers⟩ :=
        of_exec_make hrest fun pairs sections hgives hsections =>
          hplain _ (.missing hcommon hmissing hgives hsections)
      exact ⟨_, logging, gradle, .missing hcommon hmissing hgives hsections, hlayers⟩

/-- **The settings of everybody are decided field by field**, and where the common configuration has
a key, its value counts more than the variable in the environment. -/
theorem load_layers (hplain : ∀ ps, CommonMapping w ps → Config.PlainKeys ps)
    (hload : exec load w = (.ok s, w')) :
    ∃ ps logging gradle, CommonMapping w ps ∧ LayeredIn w ps s logging gradle ∧
      (w.SparesEnvFile → w.EnvFileGives logging.envFile ∧ w.EnvFileGives gradle.envFile) ∧
      (∀ f ∈ LoggingSettings.settings, ∀ v, Keyed f.name logging.keys v →
        f.Holds s.logging (some v)) ∧
      ∀ f ∈ GradleSettings.settings, ∀ v, Keyed f.name gradle.keys v →
        f.Holds s.gradle (some v) := by
  obtain ⟨ps, logging, gradle, hmapping, hlayers⟩ := of_exec_load hplain hload
  refine ⟨ps, logging, gradle, hmapping, hlayers, hlayers.envFileGives, fun f hf v hv => ?_,
    fun f hf v hv => ?_⟩
  · exact hlayers.loggingMade.holds_of_keyed (LoggingSettings.lower_names f hf) hf hv
  · exact hlayers.gradleMade.holds_of_keyed (GradleSettings.lower_names f hf) hf hv

/-- A common configuration with a key whose variable is set, too. -/
def twice : String := "gradle:\n  command: file\n"

def twiceWorld : World := layeredWorld twice "" [("CLASSPATH_GRADLE_COMMAND", "variable")]

theorem gives_twice : Config.Gives (Utf8.encode twice.toList) (oneKey "command" "file") :=
  gives_oneKey rfl (by decide +kernel)

theorem load_twice :
    ∃ s w', exec load twiceWorld = (.ok s, w') ∧ s.gradle.command = "file".toList := by
  have hmade : madeWith (fun s => s.gradle.command = "file".toList) (exec load twiceWorld) =
      true := by
    decide +kernel
  obtain ⟨s, w', hload, hcommand⟩ := exists_of_madeWith hmade
  exact ⟨s, w', hload, by simpa using hcommand⟩

theorem CommonMapping.eq_of_twiceWorld (h : CommonMapping twiceWorld ps) :
    ps = oneKey "command" "file" := by
  have hcommon : twiceWorld.commonConfig = some (.ofText "s.yaml".toList) := rfl
  have hthere := leadsTo_layeredWorld twice "" [("CLASSPATH_GRADLE_COMMAND", "variable")]
  cases h with
  | standard h => cases hcommon.symm.trans h
  | file h hfile hgives =>
    cases hcommon.symm.trans h
    cases World.LeadsTo.unique hthere hfile
    exact hgives.unique gives_twice
  | missing h hmissing =>
    cases hcommon.symm.trans h
    exact absurd hthere (hmissing _)

theorem load_layers_twice :
    ∃ s w' logging gradle, exec load twiceWorld = (.ok s, w') ∧
      LayeredIn twiceWorld (oneKey "command" "file") s logging gradle := by
  obtain ⟨s, w', hload, -⟩ := load_twice
  have hplain : ∀ ps, CommonMapping twiceWorld ps → Config.PlainKeys ps := by
    intro ps hps
    rw [hps.eq_of_twiceWorld]
    exact plainKeys_oneKey (by decide)
  obtain ⟨ps, logging, gradle, hps, hlayers, -⟩ := load_layers hplain hload
  rw [hps.eq_of_twiceWorld] at hlayers
  exact ⟨s, w', logging, gradle, hload, hlayers⟩

/-- The variable of a field does not count where the common configuration has its key. -/
theorem variable_does_not_count :
    LastNamed "CLASSPATH_GRADLE_COMMAND" twiceWorld.environment "variable" ∧
      Reading.executable (.text "variable") = .ok (.ok "variable") ∧
      ∃ s w', exec load twiceWorld = (.ok s, w') ∧ s.gradle.command ≠ "variable".toList := by
  refine ⟨⟨[], "CLASSPATH_GRADLE_COMMAND", [], rfl, rfl, fun _ h => absurd h List.not_mem_nil⟩, rfl,
    ?_⟩
  obtain ⟨s, w', hload, hcommand⟩ := load_twice
  refine ⟨s, w', hload, ?_⟩
  rw [hcommand]
  decide

end Settings

end ClasspathProbe
