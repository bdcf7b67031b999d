import ClasspathProbe.Proofs.BuildReport
import ClasspathProbe.Proofs.FileTree.Sight
import ClasspathProbe.Proofs.Settings.Reading
import ClasspathProbe.Resolver

/-!
# The steps of a resolution

What the search for the executable, the call of the build tool, and the reading of its output do to
the world, each with its outcome.
-/

namespace ClasspathProbe

open ClasspathProbe.Action (exec Keeps LogFrame exec_bind exec_bind_ok exec_bind_error
  of_exec_bind)
open World (OnlyLogs onlyLogs_frame)

variable {R : World → World → Prop} {w w' : World}

/-- A relation that putting deeds on record keeps as well. -/
structure DeedFrame (R : World → World → Prop) : Prop extends LogFrame R where
  deeds : ∀ (w : World) (deeds : List Deed), R w { w with deeds }

theorem onlyLogs_deedFrame : DeedFrame OnlyLogs :=
  { onlyLogs_frame with deeds := fun _ _ => ⟨rfl, rfl, rfl, .refl _⟩ }

/-! ## The resolver of a build file -/

namespace Resolver

theorem of?_eq_none {file : Path} (hcommon : file.name ≠ groovyBuildFile)
    (htyped : file.name ≠ kotlinBuildFile) (settings : GradleSettings) (m : Machine) :
    of? file settings m = none := by
  rw [of?, if_neg hcommon, if_neg htyped]

/-- With given settings, the resolver of a build file is made without looking at the world. -/
theorem exec_make? {file : Path}
    (hname : file.name = groovyBuildFile ∨ file.name = kotlinBuildFile)
    (settings : GradleSettings) (m : Machine) :
    ∃ r, of? file settings m = some r ∧
      ∀ w, exec (make? file (some settings) m) w = (.ok (some r), w) := by
  by_cases hcommon : file.name = groovyBuildFile
  · refine ⟨⟨file, false, settings, m⟩, if_pos hcommon, fun w => ?_⟩
    rw [make?, of?, if_pos hcommon]
    rfl
  · have htyped := hname.resolve_left hcommon
    refine ⟨⟨file, true, settings, m⟩, ?_, fun w => ?_⟩
    · rw [of?, if_neg hcommon, if_pos htyped]
    · rw [make?, of?, if_neg hcommon, if_pos htyped]
      rfl

theorem machine_of_of? {file : Path} {settings : GradleSettings} {m : Machine} {r : Resolver}
    (h : of? file settings m = some r) : r.machine = m := by
  rw [of?] at h
  split at h
  · rw [← Option.some.inj h]
  split at h
  · rw [← Option.some.inj h]
  · cases h

/-- A resolver is made with the machine and with the settings that are given, or else with those of
everybody at that moment. -/
theorem of_exec_make? {file : Path} {given : Option GradleSettings} {m : Machine} {r : Resolver}
    (h : exec (make? file given m) w = (.ok (some r), w')) :
    r.machine = m ∧ exec (Settings.gradleOr given) w = (.ok r.settings, w') := by
  rw [make?] at h
  split at h
  · cases h
  · next made hmade =>
    obtain ⟨settings, w₁, hsettings, h⟩ := of_exec_bind h
    obtain ⟨hr, rfl⟩ := Prod.mk.inj h
    obtain rfl := Option.some.inj (Except.ok.inj hr)
    have hmachine := machine_of_of? hmade
    exact ⟨hmachine, hsettings⟩

theorem make?_keeps (hR : LogFrame R)
    (hcached : ∀ (w : World) (s : Settings), R w { w with cached := some s }) (file : Path)
    (given : Option GradleSettings) (m : Machine) : Keeps R (make? file given m) := by
  rw [make?]
  split
  · exact .pure hR none
  · exact .bind hR (Settings.gradleOr_keeps hR hcached given) fun settings => .pure hR _

end Resolver

/-! ## The search for the executable -/

namespace Wrapper

variable {m : Machine} {settings : GradleSettings} {workspace : Path}

/-- The search for a wrapper changes nothing and sees only the sights of the places. -/
theorem exec_firstWrapper? {places : List Path} (h : ∀ p ∈ places, w'.sight p = w.sight p) :
    exec (firstWrapper? places) w' = ((exec (firstWrapper? places) w).1, w') := by
  induction places with
  | nil => rfl
  | cons p places ih =>
    obtain ⟨hp, hplaces⟩ := List.forall_mem_cons.1 h
    rw [firstWrapper?, exec_bind, exec_bind, Action.exec_isWrapper, Action.exec_isWrapper, hp]
    cases w.sight p with
    | error e => rfl
    | ok s =>
      by_cases hs : s = .executable
      · simp [Except.map, hs]
      · simpa [Except.map, hs] using ih hplaces

/-- The executable that a search leads to: the wrapper that was found, or the command that is asked
for when there is none. -/
inductive Finds (m : Machine) (settings : GradleSettings) (w : World) :
    Option Path → Path → List Deed → Prop where
  | wrapper (p : Path) : Finds m settings w (some p) p []
  | command {p : Path} (answer : m.which w settings.command = some p) :
      Finds m settings w none p [.asked settings.command]

/-- The failure to find an executable. -/
def notFound (settings : GradleSettings) (workspace : Path) : Failure :=
  .resolution (.gradleNotFound ("Could not find '" ++ settings.command ++ "' on PATH")
    (some workspace.toText) [])

theorem exec_find {found : Option Path}
    (h : exec (firstWrapper? (candidates w (name m.isWindows settings) workspace)) w =
      (.ok found, w)) :
    (∃ p deeds text, Finds m settings w found p deeds ∧
        exec (find m settings workspace) w =
          (.ok p, World.take { w with deeds := w.deeds ++ deeds } ⟨logger, Log.debug, text⟩)) ∨
      found = none ∧ m.which w settings.command = none ∧
        exec (find m settings workspace) w =
          (.error (notFound settings workspace),
            { w with deeds := w.deeds ++ [.asked settings.command] }) := by
  rw [find, exec_bind_ok (Action.exec_view _ _), exec_bind_ok h]
  cases found with
  | some wrapper =>
    refine .inl ⟨wrapper, [], "Using Gradle wrapper ".toList ++ wrapper.toText,
      .wrapper wrapper, ?_⟩
    rw [List.append_nil]
    exact exec_bind_ok (Action.exec_log _ _ _ _) _
  | none =>
    have hask : exec (askWhich m settings.command) w =
        (.ok (m.which w settings.command),
          { w with deeds := w.deeds ++ [.asked settings.command] }) := rfl
    dsimp only
    rw [exec_bind_ok hask]
    cases hanswer : m.which w settings.command with
    | some command =>
      refine .inl ⟨command, _, "Using ".toList ++ settings.command ++ " from PATH: ".toList ++
        command.toText, .command hanswer, ?_⟩
      exact exec_bind_ok (Action.exec_log _ _ _ _) _
    | none => exact .inr ⟨rfl, rfl, rfl⟩

/-- What a search gives: the wrapper that was found, or the path that the command is known under. -/
def given (settings : GradleSettings) (workspace : Path) (known : Option Path) :
    Except Failure (Option Path) → Except Failure Path
  | .error e => .error e
  | .ok (some wrapper) => .ok wrapper
  | .ok none => match known with
    | some command => .ok command
    | none => .error (notFound settings workspace)

/-- What a search asks for: the command, when there is no wrapper. -/
def asks (settings : GradleSettings) : Except Failure (Option Path) → List Deed
  | .ok none => [.asked settings.command]
  | _ => []

theorem exec_find_given {outcome : Except Failure (Option Path)}
    (h : exec (firstWrapper? (candidates w (name m.isWindows settings) workspace)) w =
      (outcome, w)) :
    (exec (find m settings workspace) w).1 =
        given settings workspace (m.which w settings.command) outcome ∧
      (exec (find m settings workspace) w).2.deeds = w.deeds ++ asks settings outcome := by
  cases outcome with
  | error e =>
    rw [find, exec_bind_ok (Action.exec_view _ _), exec_bind_error h, asks, List.append_nil]
    · exact ⟨rfl, rfl⟩
    · nofun
  | ok found =>
    obtain ⟨gradle, asked, text, hfinds, hfind⟩ | ⟨rfl, hunknown, hfind⟩ := exec_find h
    · rw [hfind, World.take_deeds]
      cases hfinds with
      | wrapper => exact ⟨rfl, rfl⟩
      | command answer =>
        rw [answer]
        exact ⟨rfl, rfl⟩
    · rw [hfind, hunknown]
      exact ⟨rfl, rfl⟩

theorem exec_firstWrapper?_self (w : World) (places : List Path) :
    exec (firstWrapper? places) w = ((exec (firstWrapper? places) w).1, w) :=
  exec_firstWrapper? fun _ _ => rfl

/-- The outcomes of a search with given settings, each with what it asks for: a wrapper; the
command, known or unknown; or a test for a wrapper that failed. -/
inductive Answers (m : Machine) (settings : GradleSettings) (workspace : Path) (w : World) :
    Except Failure Path → List Deed → Prop where
  | wrapper {p : Path}
      (search : (exec (firstWrapper? (candidates w (name m.isWindows settings) workspace)) w).1 =
        .ok (some p)) :
      Answers m settings workspace w (.ok p) []
  | command {p : Path}
      (search : (exec (firstWrapper? (candidates w (name m.isWindows settings) workspace)) w).1 =
        .ok none) (known : m.which w settings.command = some p) :
      Answers m settings workspace w (.ok p) [.asked settings.command]
  | unknown
      (search : (exec (firstWrapper? (candidates w (name m.isWindows settings) workspace)) w).1 =
        .ok none) (unknown : m.which w settings.command = none) :
      Answers m settings workspace w (.error (notFound settings workspace))
        [.asked settings.command]
  | untold {e : Failure}
      (search : (exec (firstWrapper? (candidates w (name m.isWindows settings) workspace)) w).1 =
        .error e) :
      Answers m settings workspace w (.error e) []

theorem exec_find_answers (m : Machine) (settings : GradleSettings) (workspace : Path)
    (w : World) :
    ∃ asked, Answers m settings workspace w (exec (find m settings workspace) w).1 asked ∧
      (exec (find m settings workspace) w).2.deeds = w.deeds ++ asked := by
  have hself := exec_firstWrapper?_self w (candidates w (name m.isWindows settings) workspace)
  obtain ⟨hgiven, hdeeds⟩ := exec_find_given hself
  refine ⟨_, ?_, hdeeds⟩
  rw [hgiven]
  cases hsearch : (exec (firstWrapper? (candidates w (name m.isWindows settings) workspace)) w).1
  with
  | error e => exact .untold hsearch
  | ok found =>
    cases found with
    | some wrapper => exact .wrapper hsearch
    | none =>
      cases hknown : m.which w settings.command with
      | some command => exact .command hsearch hknown
      | none => exact .unknown hsearch hknown

theorem find_keeps (hR : DeedFrame R) (m : Machine) (settings : GradleSettings)
    (workspace : Path) : Keeps R (find m settings workspace) := by
  have hlog := hR.toLogFrame
  have hsearch : ∀ places, Keeps R (firstWrapper? places) := fun places =>
    .of_exec hlog fun w => by rw [exec_firstWrapper? fun _ _ => rfl]
  have hask : Keeps R (askWhich m settings.command) := fun w => hR.deeds w _
  rw [find]
  refine .bind hlog (.of_exec hlog fun _ => rfl) fun places => ?_
  refine .bind hlog (hsearch places) fun found => ?_
  cases found with
  | some wrapper => exact .bind hlog (.log hlog _ _ _) fun _ => .pure hlog wrapper
  | none =>
    refine .bind hlog hask fun answer => ?_
    cases answer with
    | some command => exact .bind hlog (.log hlog _ _ _) fun _ => .pure hlog command
    | none => exact .throw hlog _

end Wrapper

/-! ## The call of the build tool -/

namespace Invocation

theorem exec_run (m : Machine) (command : List Text) (directory : Path) (w : World) :
    exec (run m command directory) w =
      ((m.run w command directory).mapError (startError command directory),
        { w with deeds := w.deeds ++ [.ran command directory w.tree] }) := by
  rw [run, exec_bind_ok (Action.exec_get _), exec_bind_ok (Action.exec_set _ _)]
  cases m.run w command directory <;> rfl

theorem run_keeps (hR : DeedFrame R) (m : Machine) (command : List Text) (directory : Path) :
    Keeps R (run m command directory) := by
  intro w
  rw [exec_run]
  exact hR.deeds w _

theorem report_keeps (hR : LogFrame R) (errors : Text) : Keeps R (report errors) := by
  rw [report]
  induction BuildReport.warnings errors with
  | nil => exact .pure hR _
  | cons text texts ih => exact .bind hR (.log hR _ _ _) fun _ => ih

theorem exec_report (errors : Text) (w : World) : (exec (report errors) w).1 = .ok ⟨⟩ := by
  rw [exec_report_eq]

end Invocation

/-! ## What a probe reports -/

namespace Resolver

theorem readOutput_keeps (hR : LogFrame R) (output : Text) : Keeps R (readOutput output) := by
  rw [readOutput]
  refine .bind hR (.log hR _ _ _) fun _ => ?_
  cases Marker.parse output with
  | ok artifacts => exact .pure hR artifacts
  | error e => exact .throw hR e

/-- Whether an artifact is usable as far as the tests can tell. -/
def isUsableIn (w : World) (a : Artifact) : Bool :=
  Artifact.isJarName a.compiled.toText ||
    match w.sight a.compiled with
    | .ok s => s = .directory
    | .error _ => false

/-- Whether the tests tell if an artifact is usable. -/
def IsTold (w : World) (a : Artifact) : Prop :=
  Artifact.isJarName a.compiled.toText = true ∨ ∃ s, w.sight a.compiled = .ok s

theorem isTold_congr (h : ∀ p, w'.sight p = w.sight p) (a : Artifact) :
    IsTold w' a ↔ IsTold w a := by
  rw [IsTold, IsTold, h]

theorem isUsableIn_congr (h : ∀ p, w'.sight p = w.sight p) : isUsableIn w' = isUsableIn w := by
  funext a
  rw [isUsableIn, isUsableIn, h]

theorem exec_isUsable (a : Artifact) (w : World) :
    IsTold w a ∧ exec (isUsable a) w = (.ok (isUsableIn w a), w) ∨
      ∃ e, (¬IsTold w a ∧ w.sight a.compiled = .error e) ∧
        exec (isUsable a) w = (.error e, w) := by
  rw [isUsable, isUsableIn, IsTold]
  cases Artifact.isJarName a.compiled.toText with
  | true => exact .inl ⟨.inl rfl, rfl⟩
  | false =>
    rw [if_neg Bool.false_ne_true, Action.exec_isDirectory]
    cases w.sight a.compiled with
    | ok s => exact .inl ⟨.inr ⟨s, rfl⟩, rfl⟩
    | error e => exact .inr ⟨e, ⟨by simp, rfl⟩, rfl⟩

/-- Sorting out artifacts gives the usable ones, or fails as one of the tests does. -/
theorem exec_usable (artifacts : List Artifact) (w : World) :
    (∀ a ∈ artifacts, IsTold w a) ∧
        exec (usable artifacts) w = (.ok (artifacts.filter (isUsableIn w)), w) ∨
      ∃ e, (∃ a ∈ artifacts, ¬IsTold w a ∧ w.sight a.compiled = .error e) ∧
        exec (usable artifacts) w = (.error e, w) := by
  induction artifacts with
  | nil => exact .inl ⟨List.forall_mem_nil _, rfl⟩
  | cons a artifacts ih =>
    rw [usable]
    obtain ⟨htold, hkeep⟩ | ⟨e, huntold, hfail⟩ := exec_isUsable a w
    · rw [exec_bind_ok hkeep]
      obtain ⟨htolds, hrest⟩ | ⟨e, ⟨b, hb, huntold⟩, hfail⟩ := ih
      · rw [exec_bind_ok hrest]
        refine .inl ⟨List.forall_mem_cons.2 ⟨htold, htolds⟩, ?_⟩
        cases hused : isUsableIn w a with
        | true => rw [List.filter_cons_of_pos hused]; rfl
        | false => rw [List.filter_cons_of_neg (by simp [hused])]; rfl
      · exact .inr ⟨e, ⟨b, List.mem_cons_of_mem a hb, huntold⟩, exec_bind_error hfail _⟩
    · exact .inr ⟨e, ⟨a, List.mem_cons_self, huntold⟩, exec_bind_error hfail _⟩

/-- Sorting out artifacts changes nothing and sees only the sights of their paths. -/
theorem exec_usable_of_sight (h : ∀ q, w'.sight q = w.sight q) (artifacts : List Artifact) :
    exec (usable artifacts) w' = ((exec (usable artifacts) w).1, w') := by
  have hone : ∀ a, exec (isUsable a) w' = ((exec (isUsable a) w).1, w') ∧
      exec (isUsable a) w = ((exec (isUsable a) w).1, w) := by
    intro a
    rw [isUsable]
    split
    · exact ⟨rfl, rfl⟩
    · rw [Action.exec_isDirectory, Action.exec_isDirectory, h]
      exact ⟨rfl, rfl⟩
  induction artifacts with
  | nil => rfl
  | cons a artifacts ih =>
    obtain ⟨hkeep, hself⟩ := hone a
    rw [usable, exec_bind, exec_bind, hkeep, hself]
    cases (exec (isUsable a) w).1 with
    | error e => rfl
    | ok keep =>
      dsimp only
      rw [exec_bind, exec_bind, ih]
      generalize exec (usable artifacts) w = rest
      obtain ⟨outcome, w₁⟩ := rest
      cases outcome <;> rfl

theorem usable_keeps (hR : LogFrame R) (artifacts : List Artifact) :
    Keeps R (usable artifacts) := by
  refine .of_exec hR fun w => ?_
  obtain ⟨-, hok⟩ | ⟨e, -, herr⟩ := exec_usable artifacts w
  · rw [hok]
  · rw [herr]

theorem celebrate_keeps (hR : LogFrame R) (r : Resolver) (what : Text)
    (artifacts : List Artifact) : Keeps R (r.celebrate what artifacts) := by
  rw [celebrate]
  split
  · exact .pure hR _
  · exact .log hR _ _ _

end Resolver

end ClasspathProbe
