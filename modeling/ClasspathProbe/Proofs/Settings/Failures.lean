import ClasspathProbe.Proofs.Settings.Layers
import ClasspathProbe.Proofs.World.Action

/-!
# Failures of settings

Making settings from values that are there never fails as the resolution does
(`Settings.ofConfig_breaks`): a value of the wrong kind, a name that is no setting and an unreadable
environment file break whatever is done off. Only reading the file that the values are in can end
with a failure that is shown in a panel.
-/

namespace ClasspathProbe

variable {α β : Type}

/-- Whether a failure is none of the resolution itself. -/
def Failure.IsBreak (e : Failure) : Prop := ∀ e', e ≠ .resolution e'

/-! ## Values -/

/-- Whether a value is missing only for failures that are none of the resolution. -/
def OnlyBreaks (x : Except Failure α) : Prop := ∀ e, x = .error e → e.IsBreak

namespace OnlyBreaks

theorem ok (a : α) : OnlyBreaks (.ok a) := nofun

theorem of_ne_error {x : Except Failure α} (h : ∀ e, x ≠ .error e) : OnlyBreaks x := fun e he =>
  absurd he (h e)

theorem error {e : Failure} (h : e.IsBreak) : OnlyBreaks (.error e : Except Failure α) := by
  rintro _ ⟨⟩
  exact h

theorem bind {x : Except Failure α} {f : α → Except Failure β} (hx : OnlyBreaks x)
    (hf : ∀ a, OnlyBreaks (f a)) : OnlyBreaks (x >>= f) := by
  cases x with
  | ok a => exact hf a
  | error e => exact .error (hx e rfl)

theorem mapM {f : α → Except Failure β} (hf : ∀ a, OnlyBreaks (f a)) (as : List α) :
    OnlyBreaks (as.mapM f) := by
  induction as with
  | nil => exact .ok []
  | cons a as ih =>
    rw [List.mapM_cons]
    exact .bind (hf a) fun b => .bind ih fun bs => .ok (b :: bs)

theorem mapError {ε : Type} {f : ε → Failure} (hf : ∀ e, (f e).IsBreak) (x : Except ε α) :
    OnlyBreaks (x.mapError f) := by
  cases x with
  | ok a => exact .ok a
  | error e => exact .error (hf e)

end OnlyBreaks

/-! ## Actions -/

namespace Action

open ClasspathProbe (OnlyBreaks)

/-- Whether an action fails only with failures that are none of the resolution. -/
def Breaks (x : Action α) : Prop := ∀ w, OnlyBreaks (exec x w).1

namespace Breaks

theorem pure (a : α) : Breaks (pure a) := fun _ => .ok a

theorem ofExcept {x : Except Failure α} (h : OnlyBreaks x) : Breaks (Action.ofExcept x) := by
  intro w
  cases x with
  | ok a => exact .ok a
  | error e => exact .error (h e rfl)

theorem log (logger : Text) (level : Log.Level) (text : Text) :
    Breaks (Action.log logger level text) := fun _ => .ok ()

theorem get : Breaks (MonadState.get : Action World) := fun w => .ok w

theorem bind {x : Action α} {f : α → Action β} (hx : Breaks x) (hf : ∀ a, Breaks (f a)) :
    Breaks (x >>= f) := by
  intro w
  have h := hx w
  rw [exec_bind]
  generalize exec x w = r at h
  obtain ⟨outcome, w'⟩ := r
  cases outcome with
  | ok a => exact hf a w'
  | error e => exact .error (h e rfl)

theorem ask (question : FileTree → Location → Text → Except Refusal α) (name : Text) :
    Breaks (Action.ask question name) := by
  intro w
  rw [exec_ask]
  split
  · exact .error fun _ h => nomatch h
  · split
    · exact .ok _
    · exact .error fun _ h => nomatch h

theorem test (question : FileTree → Location → Text → Except Refusal Bool) (name : Text) :
    Breaks (Action.test question name) := by
  intro w
  rw [exec_test]
  split
  · exact .ok false
  · split
    · exact .ok _
    · split
      · exact .ok false
      · exact .error fun _ h => nomatch h

theorem mapM {f : α → Action β} (hf : ∀ a, Breaks (f a)) (as : List α) : Breaks (as.mapM f) := by
  induction as with
  | nil => exact .pure []
  | cons a as ih =>
    rw [List.mapM_cons]
    exact .bind (hf a) fun b => .bind ih fun bs => .pure (b :: bs)

theorem forIn {f : α → β → Action (ForInStep β)} (hf : ∀ a b, Breaks (f a b)) (as : List α)
    (b : β) : Breaks (ForIn.forIn as b f) := by
  induction as generalizing b with
  | nil => exact .pure b
  | cons a as ih =>
    rw [List.forIn_cons]
    refine .bind (hf a b) fun step => ?_
    cases step with
    | done b => exact .pure b
    | yield b => exact ih b

end Breaks

end Action

open ClasspathProbe.Action (Breaks)

/-! ## Fields -/

namespace Reading

theorem executable_ne_error (v : Value) (e : Failure) : executable v ≠ .error e := by
  rw [executable]
  split
  · exact nofun
  · split <;> exact nofun

theorem text_ne_error (v : Value) (e : Failure) : text v ≠ .error e := by
  rw [text.eq_def]
  split
  · exact nofun
  · split <;> exact nofun
  · exact nofun

theorem truth_ne_error (v : Value) (e : Failure) : truth v ≠ .error e := by
  rw [truth.eq_def]
  split
  · exact nofun
  · exact nofun
  · split <;> exact nofun
  · exact nofun
  · split <;> exact nofun
  · exact nofun

theorem level_breaks (v : Value) : OnlyBreaks (level v) := by
  rw [level.eq_def]
  split
  · dsimp only
    split <;> exact .ok _
  · exact .ok _
  · exact .error fun _ h => nomatch h

theorem file_breaks (v : Value) : OnlyBreaks (file v) := by
  rw [file.eq_def]
  split
  · exact .ok _
  · exact .ok _
  · exact .ok _
  · exact .error fun _ h => nomatch h

theorem executable_breaks (v : Value) : OnlyBreaks (executable v) := .of_ne_error (executable_ne_error v)

theorem text_breaks (v : Value) : OnlyBreaks (text v) := .of_ne_error (text_ne_error v)

theorem truth_breaks (v : Value) : OnlyBreaks (truth v) := .of_ne_error (truth_ne_error v)

end Reading

namespace Issues

/-- Whether reading fields fails only with failures that are none of the resolution. -/
def Breaks (x : Issues α) : Prop := ∀ issues, OnlyBreaks (x.run issues)

theorem Breaks.pure (a : α) : Breaks (pure a) := fun issues => .ok (a, issues)

theorem Breaks.bind {x : Issues α} {f : α → Issues β} (hx : Breaks x) (hf : ∀ a, Breaks (f a)) :
    Breaks (x >>= f) := by
  intro issues
  rw [StateT.run_bind]
  exact .bind (hx issues) fun p => hf p.1 p.2

theorem field_breaks (name : Text) {reading : Reading α} (h : ∀ v, OnlyBreaks (reading v))
    (default : α) (value? : Option Value) : Breaks (field name reading default value?) := by
  intro issues
  cases value? with
  | none => exact .ok (default, issues)
  | some v =>
    rw [run_field]
    split
    next e hread => exact .error (h v e hread)
    · exact .ok _
    · exact .ok _

theorem finish_breaks {x : Issues α} (h : Breaks x) : OnlyBreaks (finish x) := by
  rw [finish]
  refine .bind (h []) fun p => ?_
  obtain ⟨a, issues⟩ := p
  cases issues with
  | nil => exact .ok a
  | cons issue issues => exact .error (by simp [Failure.IsBreak])

end Issues

theorem LoggingSettings.ofValues_breaks (given : Text → Option Value) :
    OnlyBreaks (LoggingSettings.ofValues given) := by
  refine Issues.finish_breaks ?_
  refine .bind (Issues.field_breaks _ Reading.level_breaks _ _) fun level => ?_
  refine .bind (Issues.field_breaks _ Reading.text_breaks _ _) fun format => ?_
  refine .bind (Issues.field_breaks _ Reading.file_breaks _ _) fun file => ?_
  refine .bind (Issues.field_breaks _ Reading.truth_breaks _ _) fun useRich => ?_
  exact .pure _

theorem GradleSettings.ofValues_breaks (given : Text → Option Value) :
    OnlyBreaks (GradleSettings.ofValues given) := by
  refine Issues.finish_breaks ?_
  refine .bind (Issues.field_breaks _ Reading.executable_breaks _ _) fun command => ?_
  refine .bind (Issues.field_breaks _ Reading.executable_breaks _ _) fun wrapper => ?_
  refine .bind (Issues.field_breaks _ Reading.executable_breaks _ _) fun windowsWrapper => ?_
  refine .bind (Issues.field_breaks _ Reading.text_breaks _ _) fun consoleFlag => ?_
  refine .bind (Issues.field_breaks _ Reading.text_breaks _ _) fun tempPrefix => ?_
  refine .bind (Issues.field_breaks _ Reading.text_breaks _ _) fun tempSuffix => ?_
  exact .pure _

/-! ## Surroundings -/

namespace Lookup

theorem path_breaks (v : Value) : OnlyBreaks (path v) := by
  rw [path.eq_def]
  split
  · exact .ok _
  · exact .error fun _ h => nomatch h

theorem paths_breaks (v : Value) : OnlyBreaks (paths v) := by
  rw [paths.eq_def]
  split
  · exact .ok _
  · exact .ok _
  · exact .mapM path_breaks _
  · exact .mapM path_breaks _
  · exact .mapM path_breaks _
  · exact .mapM (fun _ => path_breaks _) _
  · exact .mapM (fun _ => path_breaks _) _
  · exact .error fun _ h => nomatch h

theorem encodingFrom_breaks (v : Value) : OnlyBreaks (encodingFrom v) := by
  rw [encodingFrom.eq_def]
  split
  · exact .ok _
  · cases v with
    | text s =>
      dsimp only
      cases Encoding.named? s with
      | none => exact .error (fun _ h => nomatch h)
      | some e => exact .ok e
    | _ => exact .error (fun _ h => nomatch h)

/-- An encoding that cannot be used is a failure of its own, for when there is a file to read. -/
theorem ofFields_ends (start firstField : Text) (fields : Fields) :
    (∃ e, ofFields start firstField fields = .error e ∧ e.IsBreak) ∨
      ∃ lookup, ofFields start firstField fields = .ok lookup ∧ OnlyBreaks lookup.encoding := by
  have hfiles : OnlyBreaks
      (((fields.lookup "_env_file".toList).map paths).getD (.ok [usualEnvFile])) := by
    cases fields.lookup "_env_file".toList with
    | none => exact .ok _
    | some v => exact paths_breaks v
  rw [ofFields]
  dsimp only
  cases hx : ((fields.lookup "_env_file".toList).map paths).getD (.ok [usualEnvFile]) with
  | error e => exact .inl ⟨e, rfl, hfiles e hx⟩
  | ok files =>
    cases (fields.lookup "_env_prefix".toList).getD .null with
    | null => exact .inr ⟨_, rfl, encodingFrom_breaks _⟩
    | text s => exact .inr ⟨_, rfl, encodingFrom_breaks _⟩
    | _ => exact .inl ⟨_, rfl, fun _ h => nomatch h⟩

end Lookup

namespace Surroundings

theorem readEnvFile_breaks {encoding : Except Failure Encoding} (h : OnlyBreaks encoding)
    (file : Path) : Breaks (readEnvFile encoding file) := by
  refine .bind (.test _ _) fun present => ?_
  split
  · refine .bind (.ofExcept h) fun encoding => ?_
    refine .bind (.ask _ _) fun bytes => ?_
    refine .bind (.ofExcept (.mapError (fun _ _ h => by cases h) _)) fun text => ?_
    refine .bind (.forIn (fun number _ => ?_) _ _) fun _ => .bind .get fun w => .pure _
    exact .bind (.log _ _ _) fun _ => .pure _
  · exact .pure []

theorem now_breaks {lookup : Lookup} (h : OnlyBreaks lookup.encoding) : Breaks (now lookup) :=
  .bind (.mapM (fun file => readEnvFile_breaks h file) _) fun _ => .bind .get fun _ => .pure _

theorem document_breaks (field : Text) (fieldNames : List Text) (source : SectionSource)
    (text : Option Text) : OnlyBreaks (document field fieldNames source text) := by
  rw [document.eq_def]
  split
  · exact .ok none
  · split
    · exact .error (fun _ h => nomatch h)
    · exact .ok none
    · exact .ok _

theorem sections_breaks (s : Surroundings) : OnlyBreaks s.sections := by
  rw [sections]
  refine .bind (document_breaks _ _ _ _) fun upperLogging => ?_
  refine .bind (document_breaks _ _ _ _) fun upperGradle => ?_
  refine .bind (document_breaks _ _ _ _) fun lowerLogging => ?_
  exact .bind (document_breaks _ _ _ _) fun lowerGradle => .ok _

end Surroundings

/-! ## Sections -/

theorem Action.Breaks.ofFields {start firstField : Text} {fields : Fields} {f : Lookup → Action α}
    (hf : ∀ lookup, OnlyBreaks lookup.encoding → Breaks (f lookup)) :
    Breaks (Action.ofExcept (Lookup.ofFields start firstField fields) >>= f) := by
  obtain ⟨e, he, hbreak⟩ | ⟨lookup, hlookup, hencoding⟩ :=
    Lookup.ofFields_ends start firstField fields
  · rw [he]
    exact fun w => .error hbreak
  · rw [hlookup]
    exact hf lookup hencoding

theorem LoggingSettings.make_breaks (fields : Fields) : Breaks (LoggingSettings.make fields) :=
  .ofFields fun _ h => .bind (Surroundings.now_breaks h) fun _ => .ofExcept (ofValues_breaks _)

theorem GradleSettings.make_breaks (fields : Fields) : Breaks (GradleSettings.make fields) :=
  .ofFields fun _ h => .bind (Surroundings.now_breaks h) fun _ => .ofExcept (ofValues_breaks _)

namespace Settings

theorem fieldsOf_breaks (ps : List (Value × Value)) : OnlyBreaks (fieldsOf ps) := by
  induction ps with
  | nil => exact .ok []
  | cons p ps ih =>
    obtain ⟨key, v⟩ := p
    cases key with
    | text k => exact .bind ih fun fields => .ok _
    | _ => exact .error (fun _ h => nomatch h)

theorem ofConfig_breaks (c : Config) : Breaks (ofConfig c) := by
  refine .bind (.ofExcept (fieldsOf_breaks _)) fun fields => ?_
  refine .bind (LoggingSettings.make_breaks fields) fun logging => ?_
  refine .bind (.ofExcept (fieldsOf_breaks _)) fun fields => ?_
  refine .bind (GradleSettings.make_breaks fields) fun gradle => ?_
  refine .bind (Surroundings.now_breaks (OnlyBreaks.ok Encoding.utf8)) fun s => ?_
  exact .bind (.ofExcept s.sections_breaks) fun _ => .pure _

end Settings

end ClasspathProbe
