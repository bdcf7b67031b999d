import ClasspathProbe.Settings.Sources

/-!
# Settings field by field

A section of settings is made of given values exactly when each field, taken for itself, holds its
default or what was read of its value (`LoggingSettings.ofValues_eq_ok`,
`GradleSettings.ofValues_eq_ok`). Which value a field is given is decided in layers: the keys of the
section, the environment, the environment file (`Layers.Decides`). What is decided for a field
depends on the entries under its own names alone (`Layers.Alike.decides_iff`).
-/

namespace ClasspathProbe

variable {α β σ : Type}

/-! ## Reading without a complaint -/

namespace Issues

/-- A field is read, or left with a complaint at the end, or breaks the reading off. -/
theorem run_field (name : Text) (reading : Reading α) (default : α) (v : Value)
    (issues : List Issue) :
    (field name reading default (some v)).run issues =
      match reading v with
      | .error e => .error e
      | .ok (.ok a) => .ok (a, issues)
      | .ok (.error complaint) => .ok (default, issues ++ [⟨[name], complaint⟩]) := by
  rw [field, StateT.run_bind, StateT.run_monadLift]
  cases reading v with
  | error e => rfl
  | ok read => cases read <;> rfl

/-- Whether reading gives a value and complains about nothing. -/
def Clean (x : Issues α) (a : α) : Prop := x.run [] = .ok (a, [])

/-- Whether reading takes no complaint back. -/
class Grows (x : Issues α) : Prop where
  prefix_of_run : ∀ issues p, x.run issues = .ok p → issues <+: p.2

theorem finish_eq_ok {x : Issues α} {a : α} : finish x = .ok a ↔ Clean x a := by
  rw [finish, Clean]
  cases x.run [] with
  | error e => simp [bind, Except.bind]
  | ok p =>
    obtain ⟨b, issues⟩ := p
    cases issues <;>
      simp [bind, Except.bind, pure, Except.pure, throw, throwThe, MonadExceptOf.throw]

instance grows_pure (a : α) : Grows (pure a : Issues α) where
  prefix_of_run := by
    rintro issues _ ⟨⟩
    exact List.prefix_refl issues

instance grows_bind (x : Issues α) (f : α → Issues β) [hx : Grows x] [hf : ∀ a, Grows (f a)] :
    Grows (x >>= f) where
  prefix_of_run := by
    intro issues p h
    rw [StateT.run_bind] at h
    cases hrun : x.run issues with
    | error e =>
      rw [hrun] at h
      cases h
    | ok q =>
      rw [hrun] at h
      exact (hx.prefix_of_run issues q hrun).trans ((hf q.1).prefix_of_run q.2 p h)

instance grows_field (name : Text) (reading : Reading α) (default : α) (value? : Option Value) :
    Grows (field name reading default value?) where
  prefix_of_run := by
    intro issues p h
    cases value? with
    | none =>
      obtain rfl := Except.ok.inj h
      exact List.prefix_refl issues
    | some v =>
      rw [run_field] at h
      split at h
      · cases h
      · obtain rfl := Except.ok.inj h
        exact List.prefix_refl issues
      · obtain rfl := Except.ok.inj h
        exact List.prefix_append issues _

theorem clean_pure {a b : α} : Clean (pure a) b ↔ a = b := by
  constructor
  · rintro ⟨⟩
    rfl
  · rintro rfl
    rfl

theorem clean_bind {x : Issues α} {f : α → Issues β} {b : β} [hf : ∀ a, Grows (f a)] :
    Clean (x >>= f) b ↔ ∃ a, Clean x a ∧ Clean (f a) b := by
  constructor
  · intro h
    rw [Clean, StateT.run_bind] at h
    cases hrun : x.run [] with
    | error e =>
      rw [hrun] at h
      cases h
    | ok p =>
      rw [hrun] at h
      obtain ⟨a, issues⟩ := p
      -- a complaint would still be there at the end
      have hnone : issues = [] := List.prefix_nil.1 ((hf a).prefix_of_run issues _ h)
      subst hnone
      exact ⟨a, hrun, h⟩
  · rintro ⟨a, hx, hb⟩
    rw [Clean, StateT.run_bind, show x.run [] = _ from hx]
    exact hb

theorem clean_field {name : Text} {reading : Reading α} {default a : α} {value? : Option Value} :
    Clean (field name reading default value?) a ↔
      match value? with
      | none => a = default
      | some v => reading v = .ok (.ok a) := by
  cases value? with
  | none => exact clean_pure.trans eq_comm
  | some v =>
    dsimp only
    rw [Clean, run_field]
    split
    next e hread => simp [hread]
    next b hread => simp [hread]
    next complaint hread => simp [hread]

end Issues

/-! ## Fields -/

/-- A field of a section of settings: its name, how a value is read for it, its default, and where
settings hold it. -/
structure Setting (σ : Type) where
  kind : Type
  name : Text
  reading : Reading kind
  default : kind
  held : σ → kind

/-- Whether settings hold what a value means for a field, or the default when there is none. -/
def Setting.Holds (f : Setting σ) (s : σ) : Option Value → Prop
  | none => f.held s = f.default
  | some v => f.reading v = .ok (.ok (f.held s))

theorem Setting.Holds.held_eq {f : Setting σ} {s s' : σ} {value? : Option Value}
    (h : f.Holds s value?) (h' : f.Holds s' value?) : f.held s = f.held s' := by
  cases value? with
  | none => exact Eq.trans h (Eq.symm h')
  | some v =>
    have heq := Eq.trans (Eq.symm h) h'
    exact Except.ok.inj (Except.ok.inj heq)

def LoggingSettings.settings : List (Setting LoggingSettings) :=
  [⟨Text, "level", Reading.level, ({} : LoggingSettings).level, level⟩,
    ⟨Text, "format", Reading.text, ({} : LoggingSettings).format, format⟩,
    ⟨Option Path, "file", Reading.file, ({} : LoggingSettings).file, file⟩,
    ⟨Bool, "use_rich", Reading.truth, ({} : LoggingSettings).useRich, useRich⟩]

def GradleSettings.settings : List (Setting GradleSettings) :=
  [⟨Text, "command", Reading.executable, ({} : GradleSettings).command, command⟩,
    ⟨Text, "wrapper", Reading.executable, ({} : GradleSettings).wrapper, wrapper⟩,
    ⟨Text, "windows_wrapper", Reading.executable, ({} : GradleSettings).windowsWrapper,
      windowsWrapper⟩,
    ⟨Text, "console_flag", Reading.text, ({} : GradleSettings).consoleFlag, consoleFlag⟩,
    ⟨Text, "temp_prefix", Reading.text, ({} : GradleSettings).tempPrefix, tempPrefix⟩,
    ⟨Text, "temp_suffix", Reading.text, ({} : GradleSettings).tempSuffix, tempSuffix⟩]

section OfValues

open Issues

variable {given : Text → Option Value}

theorem LoggingSettings.ofValues_eq_ok {s : LoggingSettings} :
    ofValues given = .ok s ↔ ∀ f ∈ settings, f.Holds s (given f.name) := by
  rw [ofValues, finish_eq_ok]
  simp only [clean_bind, clean_pure, clean_field, settings, List.forall_mem_cons,
    List.not_mem_nil, false_implies, implies_true, and_true]
  constructor
  · rintro ⟨level, hlevel, format, hformat, file, hfile, useRich, huseRich, rfl⟩
    exact ⟨hlevel, hformat, hfile, huseRich⟩
  · rintro ⟨hlevel, hformat, hfile, huseRich⟩
    exact ⟨_, hlevel, _, hformat, _, hfile, _, huseRich, rfl⟩

theorem GradleSettings.ofValues_eq_ok {s : GradleSettings} :
    ofValues given = .ok s ↔ ∀ f ∈ settings, f.Holds s (given f.name) := by
  rw [ofValues, finish_eq_ok]
  simp only [clean_bind, clean_pure, clean_field, settings, List.forall_mem_cons,
    List.not_mem_nil, false_implies, implies_true, and_true]
  constructor
  · rintro ⟨command, hcommand, wrapper, hwrapper, windowsWrapper, hwindows, consoleFlag, hflag,
      tempPrefix, hprefix, tempSuffix, hsuffix, rfl⟩
    exact ⟨hcommand, hwrapper, hwindows, hflag, hprefix, hsuffix⟩
  · rintro ⟨hcommand, hwrapper, hwindows, hflag, hprefix, hsuffix⟩
    exact ⟨_, hcommand, _, hwrapper, _, hwindows, _, hflag, _, hprefix, _, hsuffix, rfl⟩

end OfValues

/-! ## Names in any case -/

/-- Whether two names are the same but for the case of their letters. -/
def SameName (a b : Text) : Prop := Text.asciiLower a = Text.asciiLower b

instance (a b : Text) : Decidable (SameName a b) :=
  inferInstanceAs (Decidable (Text.asciiLower a = Text.asciiLower b))

/-- Whether no pair has a name. -/
def Unnamed (name : Text) (pairs : List (Text × α)) : Prop := ∀ p ∈ pairs, ¬SameName p.1 name

/-- Whether a value is the last under a name. -/
def LastNamed (name : Text) (pairs : List (Text × α)) (a : α) : Prop :=
  ∃ before key after, pairs = before ++ (key, a) :: after ∧ SameName key name ∧ Unnamed name after

/-- Whether a value is the one under the name of a field: the first under the name as it is spelled,
or, when it is never spelled so, the first under the name in another case. -/
inductive Keyed (name : Text) (pairs : List (Text × α)) : α → Prop where
  | spelled {before after : List (Text × α)} {a : α} (h : pairs = before ++ (name, a) :: after)
    (hfirst : ∀ p ∈ before, p.1 ≠ name) : Keyed name pairs a
  | otherCase {before after : List (Text × α)} {key : Text} {a : α}
    (h : pairs = before ++ (key, a) :: after) (hkey : SameName key name)
    (hfirst : Unnamed name before) (hnever : ∀ p ∈ pairs, p.1 ≠ name) : Keyed name pairs a

namespace Lookup

variable {x : Lookup} (hcase : x.isExact = false) {name : Text}

include hcase

theorem form_eq_iff {a b : Text} : x.form a = x.form b ↔ SameName a b := by
  simp [form, hcase, SameName]

theorem last?_eq_some_iff {pairs : List (Text × α)} {a : α} :
    x.last? name pairs = some a ↔ LastNamed name pairs a := by
  rw [last?, Option.map_eq_some_iff]
  constructor
  · rintro ⟨⟨key, _⟩, hfind, rfl⟩
    obtain ⟨hkey, after, before, hsplit, hafter⟩ := List.find?_eq_some_iff_append.1 hfind
    refine ⟨before.reverse, key, after.reverse, ?_, ?_, fun p hp hsame => ?_⟩
    · rw [← List.reverse_reverse pairs, hsplit]
      simp
    · exact (form_eq_iff hcase).1 (by simpa using hkey)
    · have hne := hafter p (List.mem_reverse.1 hp)
      rw [(form_eq_iff hcase).2 hsame] at hne
      simp at hne
  · rintro ⟨before, key, after, rfl, hkey, hafter⟩
    refine ⟨(key, a), List.find?_eq_some_iff_append.2 ?_, rfl⟩
    refine ⟨?_, after.reverse, before.reverse, ?_, ?_⟩
    · simpa using (form_eq_iff hcase).2 hkey
    · simp
    · intro p hp
      have hne : ¬x.form p.1 = x.form name := fun heq =>
        hafter p (List.mem_reverse.1 hp) ((form_eq_iff hcase).1 heq)
      simpa using hne

theorem last?_eq_none_iff {pairs : List (Text × α)} :
    x.last? name pairs = none ↔ Unnamed name pairs := by
  rw [last?, Option.map_eq_none_iff, List.find?_eq_none]
  constructor
  · intro h p hp hsame
    refine h p (List.mem_reverse.2 hp) ?_
    simpa using (form_eq_iff hcase).2 hsame
  · intro h p hp heq
    exact h p (List.mem_reverse.1 hp) ((form_eq_iff hcase).1 (by simpa using heq))

variable (hname : Text.asciiLower name = name)

include hname

theorem form_eq_name_iff {key : Text} : x.form key = name ↔ SameName key name := by
  rw [← form_eq_iff hcase]
  simp [form, hcase, hname]

theorem given?_eq_some_iff {fields : Fields} {v : Value} :
    x.given? fields name = some v ↔ Keyed name fields v := by
  rw [given?]
  constructor
  · intro h
    split at h
    next u hspelled =>
      obtain rfl := Option.some.inj h
      obtain ⟨before, after, hsplit, hbefore⟩ := List.lookup_eq_some_iff.1 hspelled
      exact .spelled hsplit fun p hp heq => by simpa [heq] using hbefore p hp
    next hnever =>
      obtain ⟨⟨key, _⟩, hfind, rfl⟩ := Option.map_eq_some_iff.1 h
      obtain ⟨hkey, before, after, hsplit, hbefore⟩ := List.find?_eq_some_iff_append.1 hfind
      refine .otherCase hsplit ?_ (fun p hp hsame => ?_) fun p hp heq => ?_
      · exact (form_eq_name_iff hcase hname).1 (by simpa using hkey)
      · have hne := hbefore p hp
        rw [(form_eq_name_iff hcase hname).2 hsame] at hne
        simp at hne
      · have hne := List.lookup_eq_none_iff.1 hnever p hp
        simp [heq] at hne
  · intro h
    cases h with
    | spelled hsplit hfirst =>
      rename_i before after
      have hspelled : fields.lookup name = some v :=
        List.lookup_eq_some_iff.2 ⟨before, after, hsplit, fun p hp => by
          simpa using Ne.symm (hfirst p hp)⟩
      rw [hspelled]
    | otherCase hsplit hkey hfirst hnever =>
      rename_i before after key
      have hnone : fields.lookup name = none :=
        List.lookup_eq_none_iff.2 fun p hp => by simpa using Ne.symm (hnever p hp)
      rw [hnone]
      refine Option.map_eq_some_iff.2 ⟨(key, v), ?_, rfl⟩
      refine List.find?_eq_some_iff_append.2 ⟨?_, before, after, hsplit, fun p hp => ?_⟩
      · simpa using (form_eq_name_iff hcase hname).2 hkey
      · have hne : ¬x.form p.1 = name := fun heq =>
          hfirst p hp ((form_eq_name_iff hcase hname).1 heq)
        simpa using hne

theorem given?_eq_none_iff {fields : Fields} :
    x.given? fields name = none ↔ Unnamed name fields := by
  rw [given?]
  constructor
  · intro h p hp hsame
    split at h
    next => cases h
    next =>
      rw [Option.map_eq_none_iff, List.find?_eq_none] at h
      exact h p hp (by simpa using (form_eq_name_iff hcase hname).2 hsame)
  · intro h
    have hnone : fields.lookup name = none :=
      List.lookup_eq_none_iff.2 fun p hp => by
        have hne : name ≠ p.1 := fun heq => h p hp (congrArg Text.asciiLower heq.symm)
        simpa using hne
    rw [hnone]
    dsimp only
    rw [Option.map_eq_none_iff, List.find?_eq_none]
    intro p hp heq
    exact h p hp ((form_eq_name_iff hcase hname).1 (by simpa using heq))

end Lookup

/-! ## Layers -/

/-- Where the values for the fields of a section are looked for. -/
structure Layers where
  /-- What the names of the section's variables start with. -/
  start : Text
  keys : Fields
  environment : List (Text × Text)
  envFile : List (Text × Option Text)

namespace Layers

variable {l l' : Layers} {name : Text} {value? : Option Value} {fields : List (Setting σ)}
  {s s' : σ}

/-- Whether a value is what the layers have for a field: that of its key, or else the text of its
variable, or else the text in the environment file, or else none. -/
inductive Decides (l : Layers) (name : Text) : Option Value → Prop where
  | key {v : Value} (h : Keyed name l.keys v) : Decides l name (some v)
  | environment {s : Text} (hkeys : Unnamed name l.keys)
    (h : LastNamed (l.start ++ name) l.environment s) : Decides l name (some (.text s))
  | envFile {s : Text} (hkeys : Unnamed name l.keys)
    (henvironment : Unnamed (l.start ++ name) l.environment)
    (h : LastNamed (l.start ++ name) l.envFile (some s)) : Decides l name (some (.text s))
  | default (hkeys : Unnamed name l.keys)
    (henvironment : Unnamed (l.start ++ name) l.environment)
    (h : ∀ s, ¬LastNamed (l.start ++ name) l.envFile (some s)) : Decides l name none

/-- The surroundings that layers are found in. -/
def surroundings (l : Layers) : Surroundings := ⟨{ start := l.start }, l.environment, l.envFile⟩

theorem text?_surroundings (l : Layers) (name : Text) :
    l.surroundings.text? name =
      match l.surroundings.lookup.last? name l.environment with
      | some v => some v
      | none => (l.surroundings.lookup.last? name l.envFile).join := rfl

theorem value?_surroundings (l : Layers) (name : Text) :
    l.surroundings.value? l.keys name =
      match l.surroundings.lookup.given? l.keys name with
      | some v => some v
      | none => (l.surroundings.text? (l.start ++ name)).map .text := rfl

theorem value?_eq_iff (hname : Text.asciiLower name = name) :
    l.surroundings.value? l.keys name = value? ↔ l.Decides name value? := by
  have hcase : l.surroundings.lookup.isExact = false := rfl
  rw [value?_surroundings, text?_surroundings]
  constructor
  · rintro rfl
    cases hgiven : l.surroundings.lookup.given? l.keys name with
    | some v => exact .key ((Lookup.given?_eq_some_iff hcase hname).1 hgiven)
    | none =>
      have hkeys := (Lookup.given?_eq_none_iff hcase hname).1 hgiven
      dsimp only
      cases hvariable : l.surroundings.lookup.last? (l.start ++ name) l.environment with
      | some t => exact .environment hkeys ((Lookup.last?_eq_some_iff hcase).1 hvariable)
      | none =>
        have henvironment := (Lookup.last?_eq_none_iff hcase).1 hvariable
        dsimp only
        cases hfile : (l.surroundings.lookup.last? (l.start ++ name) l.envFile).join with
        | some t =>
          have hlast := Option.join_eq_some_iff.1 hfile
          exact .envFile hkeys henvironment ((Lookup.last?_eq_some_iff hcase).1 hlast)
        | none =>
          refine .default hkeys henvironment fun t ht => ?_
          rw [(Lookup.last?_eq_some_iff hcase).2 ht] at hfile
          cases hfile
  · intro h
    cases h with
    | key h => rw [(Lookup.given?_eq_some_iff hcase hname).2 h]
    | environment hkeys h =>
      rw [(Lookup.given?_eq_none_iff hcase hname).2 hkeys, (Lookup.last?_eq_some_iff hcase).2 h]
      rfl
    | envFile hkeys henvironment h =>
      rw [(Lookup.given?_eq_none_iff hcase hname).2 hkeys,
        (Lookup.last?_eq_none_iff hcase).2 henvironment, (Lookup.last?_eq_some_iff hcase).2 h]
      rfl
    | default hkeys henvironment h =>
      rw [(Lookup.given?_eq_none_iff hcase hname).2 hkeys,
        (Lookup.last?_eq_none_iff hcase).2 henvironment]
      cases hfile : l.surroundings.lookup.last? (l.start ++ name) l.envFile with
      | none => rfl
      | some t? =>
        cases t? with
        | none => rfl
        | some t => exact absurd ((Lookup.last?_eq_some_iff hcase).1 hfile) (h t)

/-- Whether settings are what layers make of each field for itself. -/
def Makes (l : Layers) (fields : List (Setting σ)) (s : σ) : Prop :=
  ∀ f ∈ fields, ∃ value?, l.Decides f.name value? ∧ f.Holds s value?

theorem makes_iff (hlower : ∀ f ∈ fields, Text.asciiLower f.name = f.name) :
    l.Makes fields s ↔ ∀ f ∈ fields, f.Holds s (l.surroundings.value? l.keys f.name) := by
  constructor
  · intro h f hf
    obtain ⟨value?, hdecides, hholds⟩ := h f hf
    rw [(value?_eq_iff (hlower f hf)).2 hdecides]
    exact hholds
  · intro h f hf
    exact ⟨_, (value?_eq_iff (hlower f hf)).1 rfl, h f hf⟩

theorem Makes.holds_of_keyed {f : Setting σ} {v : Value} (h : l.Makes fields s)
    (hname : Text.asciiLower f.name = f.name) (hf : f ∈ fields) (hkey : Keyed f.name l.keys v) :
    f.Holds s (some v) := by
  obtain ⟨value?, hdecides, hholds⟩ := h f hf
  have hsame := (value?_eq_iff hname).2 hdecides
  rw [(value?_eq_iff hname).2 (.key hkey)] at hsame
  rw [hsame]
  exact hholds

/-! ## Independence -/

/-- The entries under a name in any case. -/
def under (name : Text) (pairs : List (Text × α)) : List (Text × α) :=
  pairs.filter fun p => SameName p.1 name

/-- Whether two layers have the same entries under the names of a field. -/
structure Alike (name : Text) (l l' : Layers) : Prop where
  start : l.start = l'.start
  keys : under name l.keys = under name l'.keys
  environment : under (l.start ++ name) l.environment = under (l.start ++ name) l'.environment
  envFile : under (l.start ++ name) l.envFile = under (l.start ++ name) l'.envFile

theorem lookup_eq_under (name : Text) (fields : Fields) :
    fields.lookup name = (under name fields).lookup name := by
  induction fields with
  | nil => rfl
  | cons p fields ih =>
    obtain ⟨key, v⟩ := p
    by_cases hsame : SameName key name
    · rw [under, List.filter_cons_of_pos (by simpa using hsame), ← under, List.lookup_cons, ih,
        List.lookup_cons]
    · have hne : (name == key) = false := by
        refine beq_eq_false_iff_ne.2 fun heq => hsame ?_
        rw [heq, SameName]
      rw [under, List.filter_cons_of_neg (by simpa using hsame), ← under, List.lookup_cons, hne, ih]

section Under

variable {x : Lookup} (hcase : x.isExact = false)

include hcase

theorem last?_eq_under (name : Text) (pairs : List (Text × α)) :
    x.last? name pairs = (under name pairs).reverse.head?.map (·.2) := by
  have hform : (fun p : Text × α => decide (x.form p.1 = x.form name)) =
      fun p => decide (SameName p.1 name) := by
    funext p
    simp only [Lookup.form_eq_iff hcase]
  rw [Lookup.last?, hform, ← List.head?_filter, List.filter_reverse, under]

theorem given?_eq_under (hname : Text.asciiLower name = name) (fields : Fields) :
    x.given? fields name =
      match (under name fields).lookup name with
      | some v => some v
      | none => (under name fields).head?.map (·.2) := by
  have hform : (fun p : Text × Value => decide (x.form p.1 = name)) =
      fun p => decide (SameName p.1 name) := by
    funext p
    simp only [Lookup.form_eq_name_iff hcase hname]
  rw [Lookup.given?, lookup_eq_under, hform, ← List.head?_filter]
  rfl

end Under

/-- Layers that are alike for a field decide it alike, whatever they have for others. -/
theorem Alike.decides_iff (hname : Text.asciiLower name = name) (h : Alike name l l') :
    l.Decides name value? ↔ l'.Decides name value? := by
  have hcase : l.surroundings.lookup.isExact = false := rfl
  have hcase' : l'.surroundings.lookup.isExact = false := rfl
  rw [← value?_eq_iff hname, ← value?_eq_iff hname, value?_surroundings, value?_surroundings,
    text?_surroundings, text?_surroundings, given?_eq_under hcase hname,
    given?_eq_under hcase' hname, last?_eq_under hcase, last?_eq_under hcase, last?_eq_under hcase',
    last?_eq_under hcase', ← h.start, h.keys, h.environment, h.envFile]

theorem Makes.held_eq {f : Setting σ} (hname : Text.asciiLower f.name = f.name)
    (h : l.Makes fields s) (h' : l'.Makes fields s') (hf : f ∈ fields)
    (halike : Alike f.name l l') : f.held s = f.held s' := by
  obtain ⟨value?, hdecides, hholds⟩ := h f hf
  obtain ⟨value?', hdecides', hholds'⟩ := h' f hf
  have hsame := (value?_eq_iff hname).2 ((halike.decides_iff hname).1 hdecides)
  rw [(value?_eq_iff hname).2 hdecides'] at hsame
  subst hsame
  exact hholds.held_eq hholds'

end Layers

end ClasspathProbe
