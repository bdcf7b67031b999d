import ClasspathProbe.Log.Setup
import ClasspathProbe.Proofs.Settings.Layers
import ClasspathProbe.Proofs.World.Action

/-!
# Levels of settings

Wherever settings come from, the level in them is one of those that can be set
(`Settings.load_level`), so setting the log up by it succeeds, and the level is at least that for
details (`Log.readLevel_of_mem`).
-/

namespace ClasspathProbe

variable {α β : Type} {Q : α → Prop} {S : β → Prop}

open ClasspathProbe.Action (Gives exec)

theorem Action.Gives.ofExcept {x : Except Failure α} (h : ∀ a, x = .ok a → Q a) :
    Gives Q (Action.ofExcept x) := by
  cases x with
  | ok a => exact .pure (h a rfl)
  | error e => exact .throw e

/-! ## Fields -/

namespace Issues

/-- Whether what is read, if anything, has a property, whatever complaints there are. -/
def Gives (Q : α → Prop) (x : Issues α) : Prop := ∀ issues p, x.run issues = .ok p → Q p.1

theorem Gives.pure {a : α} (h : Q a) : Gives Q (pure a) := by
  rintro issues _ ⟨⟩
  exact h

theorem Gives.bind {x : Issues α} {f : α → Issues β} (hx : Gives Q x)
    (hf : ∀ a, Q a → Gives S (f a)) : Gives S (x >>= f) := by
  intro issues p h
  rw [StateT.run_bind] at h
  cases hrun : x.run issues with
  | error e =>
    rw [hrun] at h
    cases h
  | ok q =>
    rw [hrun] at h
    exact hf q.1 (hx issues q hrun) q.2 p h

theorem gives_any (x : Issues α) : Gives (fun _ => True) x := fun _ _ _ => trivial

theorem field_gives (name : Text) {reading : Reading α} {default : α} (hdefault : Q default)
    (hreading : ∀ v a, reading v = .ok (.ok a) → Q a) (value? : Option Value) :
    Gives Q (field name reading default value?) := by
  intro issues p h
  cases value? with
  | none =>
    obtain rfl := Except.ok.inj h
    exact hdefault
  | some v =>
    rw [run_field] at h
    split at h
    next => cases h
    next a hread =>
      obtain rfl := Except.ok.inj h
      exact hreading v a hread
    next =>
      obtain rfl := Except.ok.inj h
      exact hdefault

theorem of_finish {x : Issues α} {a : α} (hx : Gives Q x) (h : finish x = .ok a) : Q a := by
  rw [finish] at h
  cases hrun : x.run [] with
  | error e =>
    rw [hrun] at h
    cases h
  | ok p =>
    rw [hrun] at h
    obtain ⟨b, issues⟩ := p
    cases issues with
    | nil =>
      obtain rfl := Except.ok.inj h
      exact hx [] _ hrun
    | cons issue issues => cases h

end Issues

/-! ## Levels -/

theorem Reading.level_mem {v : Value} {a : Text} (h : level v = .ok (.ok a)) : a ∈ levels := by
  rw [level.eq_def] at h
  split at h
  · dsimp only at h
    split at h
    next hmem =>
      obtain rfl := Except.ok.inj (Except.ok.inj h)
      simpa using hmem
    next => cases h
  · cases h
  · cases h

/-- Whether settings have a level that can be set. -/
def LoggingSettings.HasLevel (s : LoggingSettings) : Prop := s.level ∈ Reading.levels

instance (s : LoggingSettings) : Decidable s.HasLevel :=
  inferInstanceAs (Decidable (s.level ∈ Reading.levels))

theorem LoggingSettings.ofValues_level {given : Text → Option Value} {s : LoggingSettings}
    (h : ofValues given = .ok s) : s.HasLevel := by
  have hdefault : ({} : LoggingSettings).level ∈ Reading.levels := by decide
  have hreading : ∀ v a, Reading.level v = .ok (.ok a) → a ∈ Reading.levels :=
    fun _ _ => Reading.level_mem
  have hlevel := Issues.field_gives "level".toList hdefault hreading (given "level".toList)
  refine Issues.of_finish (Q := HasLevel) ?_ h
  refine .bind hlevel fun level hmem => ?_
  refine .bind (Issues.gives_any _) fun format _ => ?_
  refine .bind (Issues.gives_any _) fun file _ => ?_
  exact .bind (Issues.gives_any _) fun useRich _ => .pure hmem

theorem LoggingSettings.make_level (fields : Fields) : Gives HasLevel (make fields) :=
  .bind_any fun _ => .bind_any fun _ => .ofExcept fun _ => ofValues_level

namespace Settings

/-- A section is read as its settings are made. -/
theorem sectionFrom_gives {make : Fields → Action α} (name shownName : Text)
    (hmake : ∀ fields, Gives Q (make fields)) (v : Option Value) :
    Gives (fun r => ∀ a, r = .ok a → Q a) (sectionFrom name shownName make v) := by
  have hok : ∀ b : α, Q b → ∀ a, (.ok b : Except (List Issue) α) = .ok a → Q a := by
    rintro b hb _ ⟨⟩
    exact hb
  rw [sectionFrom.eq_def]
  split
  · exact .bind (hmake []) fun a ha => .pure (hok a ha)
  · refine .bind_any fun fields => .recover (.map (hmake fields) hok) fun e => ?_
    split
    · exact .pure nofun
    · exact .throw _
  · exact .pure nofun

theorem make_level : Gives (·.logging.HasLevel) make := by
  refine .bind_any fun s => .bind_any fun values => ?_
  refine .bind (sectionFrom_gives _ _ LoggingSettings.make_level _) fun logging hlogging => ?_
  refine .bind_any fun gradle => ?_
  split
  · exact .pure (hlogging _ rfl)
  · exact .throw _
  · exact .throw _
  · exact .throw _

theorem ofConfig_level (c : Config) : Gives (·.logging.HasLevel) (ofConfig c) := by
  refine .bind_any fun fields => ?_
  refine .bind (LoggingSettings.make_level fields) fun logging hlogging => ?_
  refine .bind_any fun fields => .bind_any fun gradle => ?_
  exact .bind_any fun s => .bind_any fun _ => .pure hlogging

theorem ofFile_level (path : Path) : Gives (·.logging.HasLevel) (ofFile path) :=
  .bind_any fun read => ofConfig_level read.1

theorem load_level : Gives (·.logging.HasLevel) load := by
  refine .bind_any fun w => ?_
  split
  · exact ofConfig_level {}
  · refine .bind_any fun present => ?_
    split
    · exact ofFile_level _
    · exact make_level

end Settings

namespace Log

theorem readLevel_of_mem {name : Text} (h : name ∈ Reading.levels) :
    ∃ level, readLevel name = .ok level ∧ debug ≤ level := by
  simp only [Reading.levels, List.mem_cons, List.not_mem_nil, or_false] at h
  obtain rfl | rfl | rfl | rfl | rfl := h
  · exact ⟨10, rfl, by decide⟩
  · exact ⟨20, rfl, by decide⟩
  · exact ⟨30, rfl, by decide⟩
  · exact ⟨40, rfl, by decide⟩
  · exact ⟨50, rfl, by decide⟩

end Log

end ClasspathProbe
