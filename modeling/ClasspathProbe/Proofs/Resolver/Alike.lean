import ClasspathProbe.Proofs.Probe.Failed
import ClasspathProbe.Proofs.Resolver.Course
import ClasspathProbe.Proofs.World.Alike

/-!
# Calls in worlds that are alike

A call takes its settings from its resolver, and from the world only what worlds that are alike have
in common. So all that it does outside, it does with these settings (`Call.uses`), and calls in
worlds that are alike end alike (`Call.endsAlike`), as long as the machine gives the same answers
there (`Resolver.IsSteady`).
-/

namespace ClasspathProbe

open ClasspathProbe.Action (exec Keeps exec_bind_ok exec_bind_error)

variable {R : World → World → Prop} {w w' : World}

/-! ## Names and searches -/

/-- The search gives the same, and asks for the same, in worlds that are alike. -/
theorem Wrapper.find_alike {m : Machine} {settings : GradleSettings} (workspace : Path)
    (h : w.Alike w') (hhere : w.tree.Grounded w.here)
    (hwhich : m.which w' settings.command = m.which w settings.command) :
    (exec (find m settings workspace) w').1 = (exec (find m settings workspace) w).1 ∧
      ∃ asked, (exec (find m settings workspace) w).2.deeds = w.deeds ++ asked ∧
        (exec (find m settings workspace) w').2.deeds = w'.deeds ++ asked := by
  have hplaces : candidates w' (name m.isWindows settings) workspace =
      candidates w (name m.isWindows settings) workspace := by
    rw [candidates, candidates, World.absolute_of_here h.here]
  obtain ⟨hgiven, hdeeds⟩ := exec_find_given (exec_firstWrapper?_self w
    (candidates w (name m.isWindows settings) workspace))
  obtain ⟨hgiven', hdeeds'⟩ := exec_find_given (m := m) (by
    rw [hplaces]
    exact exec_firstWrapper? fun p _ => h.sight_eq hhere p)
  rw [hgiven, hgiven', hwhich]
  exact ⟨rfl, _, hdeeds, hdeeds'⟩

/-! ## The call -/

/-- A relation that everything keeps that a call does to the world. -/
structure CallFrame (R : World → World → Prop) : Prop extends Probe.FileFrame R, DeedFrame R

theorem World.Alike.deedFrame : DeedFrame World.Alike :=
  { World.Alike.frame with deeds := fun _ _ => ⟨rfl, rfl, rfl, rfl, .refl _⟩ }

/-- The environment and the disk are out of a call's reach. -/
theorem surroundings_frame :
    CallFrame fun w w' => w'.environment = w.environment ∧ w'.disk = w.disk where
  refl _ := ⟨rfl, rfl⟩
  trans h h' := ⟨h'.1.trans h.1, h'.2.trans h.2⟩
  take w r := by
    obtain ⟨tree, log, htake⟩ := World.take_eq w r
    rw [htake]
    exact ⟨rfl, rfl⟩
  deeds _ _ := ⟨rfl, rfl⟩
  tree _ _ := ⟨rfl, rfl⟩
  names _ _ := ⟨rfl, rfl⟩
  directory _ _ := ⟨rfl, rfl⟩

theorem tempDirectory_frame : DeedFrame fun w w' => w'.tempDirectory = w.tempDirectory where
  refl _ := rfl
  trans h h' := h'.trans h
  take w r := by
    obtain ⟨tree, log, htake⟩ := World.take_eq w r
    rw [htake]
  deeds _ _ := rfl

namespace Resolver

variable {r : Resolver} {p : Probe}

theorem call_keeps (hR : CallFrame R) (r : Resolver) (p : Probe) : Keeps R (r.call p) := by
  rw [call_eq]
  exact Probe.withScriptsAfter_keeps hR.toFileFrame r.settings
    (callBody_keeps hR.toDeedFrame r p) _ []

/-- A call fixes the directory for temporary files. -/
theorem call_settles (r : Resolver) (p : Probe) (w : World) :
    (exec (r.call p) w).2.tempDirectory = w.tempDirectory? := by
  obtain ⟨w₁, -, hsettled, ⟨e, hfailed, -⟩ | ⟨script, place, bytes, hmade, hholds, -⟩⟩ :=
    Probe.exec_materialize r.settings (clean_scriptName p) w
  · rwa [exec_call_unmade hfailed]
  · rw [exec_call_made hmade hholds]
    exact (callBody_keeps tempDirectory_frame r p [script] w₁).trans hsettled

theorem call_alike (r : Resolver) (p : Probe) : Keeps World.Alike (r.call p) := by
  intro w
  obtain ⟨henv, hdisk⟩ := call_keeps surroundings_frame r p w
  exact (call_onlyLogs r p w).alike (.inr (call_settles r p w)) henv hdisk

/-- The script of a probe cannot be put into a file. -/
def NoScript (r : Resolver) (p : Probe) (w : World) (e : Failure) : Prop :=
  ∃ w₁, exec (Probe.materialize r.settings p.scriptName) (w.take (r.announcement p)) =
    (.error e, w₁)

theorem not_noScript {e : Failure}
    (h : Probe.MakesFile r.settings (w.take (r.announcement p)) p.bytes) : ¬r.NoScript p w e :=
  fun ⟨_, hfailed⟩ => Probe.not_failed_of_makesFile p h hfailed

/-- The command line of a probe whose script is in the file with the `n`-th name in a directory. -/
def commandAt (r : Resolver) (p : Probe) (w : World) (directory : Text) (gradle : Path) (n : Nat) :
    List Text :=
  r.probeCommand p gradle (Probe.scriptPath r.settings (w.fullName directory) n)

/-- How a call of a probe proceeds: its outcome and what it does outside. -/
inductive Proceeds (r : Resolver) (p : Probe) (w : World) :
    Except Failure (Text × Text) → List Deed → Prop where
  | noScript {e : Failure} (failed : r.NoScript p w e) : Proceeds r p w (.error e) []
  | noGradle {w₁ : World} {e : Failure} {asked : List Deed} (alike : w.Alike w₁)
      (search : (exec (Wrapper.find r.machine r.settings r.directory) w₁).1 = .error e)
      (deeds : (exec (Wrapper.find r.machine r.settings r.directory) w₁).2.deeds =
        w₁.deeds ++ asked) :
      Proceeds r p w (.error e) asked
  | called {w₁ w₂ : World} {directory : Text} {gradle : Path} {asked : List Deed} (n : Nat)
      (located : w.tempDirectory? = some directory) (alike : w.Alike w₁)
      (search : (exec (Wrapper.find r.machine r.settings r.directory) w₁).1 = .ok gradle)
      (deeds : (exec (Wrapper.find r.machine r.settings r.directory) w₁).2.deeds =
        w₁.deeds ++ asked) (alike' : w.Alike w₂) :
      Proceeds r p w
        ((r.machine.run w₂ (r.commandAt p w directory gradle n) r.directory).mapError
          (Invocation.startError (r.commandAt p w directory gradle n) r.directory))
        (asked ++ [.ran (r.commandAt p w directory gradle n) r.directory w₂.tree])

theorem exec_call_proceeds (r : Resolver) (p : Probe) (w : World) :
    ∃ deeds, r.Proceeds p w (exec (r.call p) (w.take (r.announcement p))).1 deeds ∧
      (exec (r.call p) (w.take (r.announcement p))).2.deeds = w.deeds ++ deeds := by
  have hann := World.Alike.take w (r.announcement p)
  obtain ⟨w₁, hdeeds, hsettled, ⟨e, hfailed, -⟩ | ⟨script, place, bytes, hmade, hholds, -⟩⟩ :=
    Probe.exec_materialize r.settings (clean_scriptName p) (w.take (r.announcement p))
  · refine ⟨[], ?_⟩
    rw [exec_call_unmade hfailed, hdeeds, World.take_deeds, List.append_nil]
    exact ⟨.noScript ⟨w₁, hfailed⟩, rfl⟩
  · rw [World.take_deeds] at hdeeds
    obtain ⟨directory, n, hdirectory, rfl⟩ := Probe.materialize_path hmade
    rw [hann.tempDirectory] at hdirectory
    rw [World.fullName_of_here hann.here] at hmade hholds
    have hkept := Probe.materialize_keeps surroundings_frame.toFileFrame r.settings p.scriptName
      (w.take (r.announcement p))
    rw [hmade] at hkept
    have halike : w.Alike w₁ := hann.trans (hholds.grown.alike (.inr hsettled) hkept.1 hkept.2)
    rw [exec_call_made hmade hholds]
    obtain ⟨asked, -, hasked⟩ := Wrapper.exec_find_answers r.machine r.settings r.directory w₁
    have hkeeps := Wrapper.find_keeps World.Alike.deedFrame r.machine r.settings r.directory w₁
    cases hfind : exec (Wrapper.find r.machine r.settings r.directory) w₁ with
    | mk outcome w₂ =>
    have hdone : w₂.deeds = w.deeds ++ asked := by rw [← hdeeds, ← hasked, hfind]
    rw [hfind] at hkeeps
    cases outcome with
    | error e =>
      rw [exec_callBody_error hfind]
      exact ⟨asked, .noGradle halike (by rw [hfind]) hasked, hdone⟩
    | ok gradle =>
      rw [exec_callBody_ok hfind]
      refine ⟨_, .called n hdirectory halike (by rw [hfind]) hasked (halike.trans hkeeps), ?_⟩
      rw [← List.append_assoc, ← hdone]
      rfl

/-! ## Two calls -/

/-- What a call does outside: nothing, when it has nothing to ask or its script cannot be put into
a file; a search with the settings of its resolver; and when that finds an executable, the command line
of its settings. -/
inductive Uses (r : Resolver) (p : Probe) (w : World) : List Deed → Prop where
  | unasked (probe : p = .buildScripts) (common : r.kotlinDsl = false) : Uses r p w []
  | noScript {e : Failure} (failed : r.NoScript p w e) : Uses r p w []
  | noGradle {w₁ : World} {e : Failure} {asked : List Deed} (alike : w.Alike w₁)
      (answers : Wrapper.Answers r.machine r.settings r.directory w₁ (.error e) asked) :
      Uses r p w asked
  | called {w₁ : World} {directory : Text} {gradle : Path} {asked : List Deed} (n : Nat)
      (files : FileTree) (located : w.tempDirectory? = some directory) (alike : w.Alike w₁)
      (answers : Wrapper.Answers r.machine r.settings r.directory w₁ (.ok gradle) asked) :
      Uses r p w (asked ++ [.ran (r.commandAt p w directory gradle n) r.directory files])

/-- Two calls end alike: in both the same comes of the search, and when an executable is called, the
command lines differ in the number of the script's file at most and the outcomes are the same, but
that a failure to start shows the command line. A call whose script cannot be put into a file says
so and does nothing outside, whatever becomes of the other. -/
inductive EndsAlike {α : Type} (r : Resolver) (p : Probe) (w w' : World) :
    Except Failure α × List Deed → Except Failure α × List Deed → Prop where
  | noScript {e : Failure} {ending : Except Failure α × List Deed} (failed : r.NoScript p w e) :
      EndsAlike r p w w' (.error e, []) ending
  | noScript' {e : Failure} {ending : Except Failure α × List Deed} (failed : r.NoScript p w' e) :
      EndsAlike r p w w' ending (.error e, [])
  | uncalled {outcome : Except Failure α} {asked : List Deed} :
      EndsAlike r p w w' (outcome, asked) (outcome, asked)
  | notStarted {directory : Text} (located : w.tempDirectory? = some directory) (gradle : Path)
      (n n' : Nat) (files files' : FileTree) (asked : List Deed) (e : Failure) :
      EndsAlike r p w w'
        (.error (Invocation.startError (r.commandAt p w directory gradle n) r.directory e),
          asked ++ [.ran (r.commandAt p w directory gradle n) r.directory files])
        (.error (Invocation.startError (r.commandAt p w directory gradle n') r.directory e),
          asked ++ [.ran (r.commandAt p w directory gradle n') r.directory files'])
  | called {directory : Text} (located : w.tempDirectory? = some directory) (gradle : Path)
      (n n' : Nat) (files files' : FileTree) (asked : List Deed) (outcome : Except Failure α) :
      EndsAlike r p w w'
        (outcome, asked ++ [.ran (r.commandAt p w directory gradle n) r.directory files])
        (outcome, asked ++ [.ran (r.commandAt p w directory gradle n') r.directory files'])

/-- The machine of a resolver gives the same answers in worlds that are alike, whatever number the
script's file has. -/
structure IsSteady (r : Resolver) : Prop where
  which : ∀ {w w' : World}, w.tree.Grounded w.here → w.Alike w' →
    r.machine.which w' r.settings.command = r.machine.which w r.settings.command
  run : ∀ {w w' : World} {directory : Text} (p : Probe) (gradle : Path) (n n' : Nat),
    w.tempDirectory? = some directory → w.tree.Grounded w.here → w.Alike w' →
    r.machine.run w' (r.commandAt p w directory gradle n') r.directory =
      r.machine.run w (r.commandAt p w directory gradle n) r.directory

theorem commandAt_of_alike (h : w.Alike w') (r : Resolver) (p : Probe) :
    r.commandAt p w' = r.commandAt p w := by
  funext directory gradle n
  rw [commandAt, commandAt, World.fullName_of_here h.here]

theorem EndsAlike.map {α β : Type} {f : Except Failure α → Except Failure β}
    (hf : ∀ e, f (.error e) = .error e) {outcome outcome' : Except Failure α}
    {deeds deeds' : List Deed} (h : r.EndsAlike p w w' (outcome, deeds) (outcome', deeds')) :
    r.EndsAlike p w w' (f outcome, deeds) (f outcome', deeds') := by
  cases h with
  | noScript failed =>
    rw [hf]
    exact .noScript failed
  | noScript' failed =>
    rw [hf]
    exact .noScript' failed
  | uncalled => exact .uncalled
  | notStarted located gradle n n' files files' asked e =>
    rw [hf, hf]
    exact .notStarted located gradle n n' files files' asked e
  | called located gradle n n' files files' asked outcome =>
    exact .called located gradle n n' files files' asked _

namespace Proceeds

variable {outcome outcome' : Except Failure (Text × Text)} {deeds deeds' : List Deed}

theorem uses (h : r.Proceeds p w outcome deeds) : r.Uses p w deeds := by
  cases h with
  | noScript failed => exact .noScript failed
  | @noGradle w₁ e asked alike search deeds =>
    obtain ⟨asked', hanswers, hdeeds⟩ :=
      Wrapper.exec_find_answers r.machine r.settings r.directory w₁
    rw [List.append_cancel_left (hdeeds.symm.trans deeds), search] at hanswers
    exact .noGradle alike hanswers
  | @called w₁ w₂ directory gradle asked n located alike search deeds alike' =>
    obtain ⟨asked', hanswers, hdeeds⟩ :=
      Wrapper.exec_find_answers r.machine r.settings r.directory w₁
    rw [List.append_cancel_left (hdeeds.symm.trans deeds), search] at hanswers
    exact .called n w₂.tree located alike hanswers

/-- When the script is in its file and an executable is found, that is called at the end. -/
theorem ran (h : r.Proceeds p w outcome deeds) (hscript : ∀ e, ¬r.NoScript p w e)
    (hhere : w.tree.Grounded w.here) {gradle : Path}
    (hwhich : ∀ {w₁}, w.Alike w₁ →
      r.machine.which w₁ r.settings.command = r.machine.which w r.settings.command)
    (hfind : (exec (Wrapper.find r.machine r.settings r.directory) w).1 = .ok gradle) :
    ∃ directory n asked files, w.tempDirectory? = some directory ∧
      deeds = asked ++ [.ran (r.commandAt p w directory gradle n) r.directory files] := by
  have hsame {w₁ : World} (halike : w.Alike w₁) :
      (exec (Wrapper.find r.machine r.settings r.directory) w₁).1 = .ok gradle :=
    (Wrapper.find_alike r.directory halike hhere (hwhich halike)).1.trans hfind
  cases h with
  | noScript failed => exact absurd failed (hscript _)
  | noGradle alike search =>
    rw [hsame alike] at search
    cases search
  | @called w₁ w₂ directory gradle' asked n located alike search =>
    rw [hsame alike] at search
    obtain rfl := Except.ok.inj search
    exact ⟨directory, n, asked, w₂.tree, located, rfl⟩

theorem search_eq (hsteady : r.IsSteady) (halike : w.Alike w') (hhere : w.tree.Grounded w.here)
    {w₁ w₁' : World} (h₁ : w.Alike w₁) (h₁' : w'.Alike w₁') {asked asked' : List Deed}
    (hdeeds : (exec (Wrapper.find r.machine r.settings r.directory) w₁).2.deeds =
      w₁.deeds ++ asked)
    (hdeeds' : (exec (Wrapper.find r.machine r.settings r.directory) w₁').2.deeds =
      w₁'.deeds ++ asked') :
    (exec (Wrapper.find r.machine r.settings r.directory) w₁').1 =
        (exec (Wrapper.find r.machine r.settings r.directory) w₁).1 ∧ asked' = asked := by
  have hboth : w₁.Alike w₁' := h₁.symm.trans (halike.trans h₁')
  have hhere₁ := h₁.grounded hhere
  obtain ⟨houtcome, both, hleft, hright⟩ :=
    Wrapper.find_alike r.directory hboth hhere₁ (hsteady.which hhere₁ hboth)
  refine ⟨houtcome, ?_⟩
  rw [List.append_cancel_left (hdeeds'.symm.trans hright),
    List.append_cancel_left (hdeeds.symm.trans hleft)]

theorem endsAlike (hsteady : r.IsSteady) (halike : w.Alike w') (hhere : w.tree.Grounded w.here)
    (h : r.Proceeds p w outcome deeds) (h' : r.Proceeds p w' outcome' deeds') :
    r.EndsAlike p w w' (outcome, deeds) (outcome', deeds') := by
  cases h with
  | noScript failed => exact .noScript failed
  | noGradle alike search deeds =>
    cases h' with
    | noScript failed => exact .noScript' failed
    | noGradle alike₁ search₁ deeds₁ =>
      obtain ⟨houtcome, rfl⟩ := search_eq hsteady halike hhere alike alike₁ deeds deeds₁
      rw [search, search₁] at houtcome
      rw [Except.error.inj houtcome]
      exact .uncalled
    | called n located₁ alike₁ search₁ deeds₁ alike₂ =>
      obtain ⟨houtcome, -⟩ := search_eq hsteady halike hhere alike alike₁ deeds deeds₁
      rw [search, search₁] at houtcome
      cases houtcome
  | @called w₁ w₂ directory gradle asked n located alike search deeds alike' =>
    cases h' with
    | noScript failed => exact .noScript' failed
    | noGradle alike₁ search₁ deeds₁ =>
      obtain ⟨houtcome, -⟩ := search_eq hsteady halike hhere alike alike₁ deeds deeds₁
      rw [search, search₁] at houtcome
      cases houtcome
    | @called w₁' w₂' directory' gradle' asked' n' located₁ alike₁ search₁ deeds₁ alike₂ =>
      obtain ⟨houtcome, rfl⟩ := search_eq hsteady halike hhere alike alike₁ deeds deeds₁
      rw [search, search₁] at houtcome
      obtain rfl := Except.ok.inj houtcome
      rw [halike.tempDirectory, located] at located₁
      obtain rfl := Option.some.inj located₁
      -- the same executable is called, and the answers are the same
      have hboth : w₂.Alike w₂' := alike'.symm.trans (halike.trans alike₂)
      have hanswer := hsteady.run p gradle' n n' (alike'.tempDirectory.trans located)
        (alike'.grounded hhere) hboth
      rw [commandAt_of_alike alike'] at hanswer
      rw [commandAt_of_alike halike, hanswer]
      cases r.machine.run w₂ (r.commandAt p w directory gradle' n) r.directory with
      | error e => exact .notStarted located gradle' n n' w₂.tree w₂'.tree asked' e
      | ok streams => exact .called located gradle' n n' w₂.tree w₂'.tree asked' (.ok streams)

end Proceeds

/-! ## Whole calls -/

theorem readStreams_alike (h : w.Alike w') (hhere : w.tree.Grounded w.here)
    (output errors : Text) :
    (exec (readStreams output errors) w').1 = (exec (readStreams output errors) w).1 := by
  obtain ⟨v, hv, hread⟩ := exec_readStreams World.Alike.frame output errors w
  obtain ⟨v', hv', hread'⟩ := exec_readStreams World.Alike.frame output errors w'
  rw [hread, hread']
  cases Marker.parse output with
  | error e => rfl
  | ok artifacts =>
    have hboth : v.Alike v' := hv.symm.trans (h.trans hv')
    dsimp only
    rw [exec_usable_of_sight fun q => hboth.sight_eq (hv.grounded hhere) q]

/-- What comes of what a call gives, as things are in a world. -/
def readIn (w : World) : Except Failure (Text × Text) → Except Failure (List Artifact)
  | .error e => .error e
  | .ok (output, errors) => (exec (readStreams output errors) w).1

theorem exec_probe_readIn {v : World} (h : v.Alike w) (hhere : v.tree.Grounded v.here) :
    (exec (r.probe p) w).1 = readIn v (exec (r.call p) (w.take (r.announcement p))).1 := by
  have hafter : v.Alike (exec (r.call p) (w.take (r.announcement p))).2 :=
    h.trans ((World.Alike.take w _).trans (r.call_alike p _))
  generalize hcall : exec (r.call p) (w.take (r.announcement p)) = result at hafter
  obtain ⟨outcome, w₁⟩ := result
  cases outcome with
  | error e =>
    rw [exec_probe_error hcall]
    rfl
  | ok streams =>
    rw [exec_probe_ok hcall]
    exact readStreams_alike hafter hhere streams.1 streams.2

theorem exec_probe_deeds (r : Resolver) (p : Probe) (w : World) :
    (exec (r.probe p) w).2.deeds = (exec (r.call p) (w.take (r.announcement p))).2.deeds := by
  generalize hcall : exec (r.call p) (w.take (r.announcement p)) = result
  obtain ⟨outcome, w₁⟩ := result
  cases outcome with
  | error e => rw [exec_probe_error hcall]
  | ok streams =>
    rw [exec_probe_ok hcall]
    exact readStreams_keeps World.deeds_frame streams.1 streams.2 w₁

end Resolver

namespace Call

/-- What a call gives: the artifacts of the project, or the paths of the build scripts. -/
def outcome (w : World) (c : Call) : Except Failure (List Artifact ⊕ List Path) :=
  match c.probe with
  | .project => (exec c.resolver.classpath w).1.map .inl
  | .buildScripts => (exec c.resolver.buildScriptClasspath w).1.map .inr

/-- What a call does outside. -/
def deeds (w : World) (c : Call) : List Deed := (c.after w).deeds.drop w.deeds.length

/-- A call asks nothing and gives nothing, or comes down to its probe. -/
theorem comes_down (c : Call) :
    ((c.probe = .buildScripts ∧ c.resolver.kotlinDsl = false) ∧
        ∀ w, c.outcome w = .ok (.inr []) ∧ c.after w = w) ∨
      ∃ give : List Artifact → List Artifact ⊕ List Path, ∀ w,
        c.outcome w = (exec (c.resolver.probe c.probe) w).1.map give ∧
          (c.after w).deeds = (exec (c.resolver.probe c.probe) w).2.deeds := by
  obtain ⟨r, p⟩ := c
  cases p with
  | project =>
    refine .inr ⟨.inl, fun w => ?_⟩
    obtain ⟨houtcome, hdeeds⟩ := Resolver.exec_celebrated (r := r) (p := .project)
      "dependencies".toList id w
    have hsame : exec r.classpath w =
        exec (r.celebrated .project "dependencies".toList id) w := rfl
    rw [outcome, after, hsame, houtcome, hdeeds]
    refine ⟨?_, rfl⟩
    cases (exec (r.probe .project) w).1 <;> rfl
  | buildScripts =>
    cases hdsl : r.kotlinDsl with
    | false =>
      have hnothing : r.buildScriptClasspath = pure [] := by
        rw [Resolver.buildScriptClasspath, hdsl]
        rfl
      refine .inl ⟨⟨rfl, rfl⟩, fun w => ?_⟩
      rw [outcome, after, hnothing]
      exact ⟨rfl, rfl⟩
    | true =>
      refine .inr ⟨fun artifacts => .inr (Resolver.compiledPaths artifacts), fun w => ?_⟩
      obtain ⟨houtcome, hdeeds⟩ := Resolver.exec_celebrated (r := r) (p := .buildScripts)
        "build script dependencies".toList Resolver.compiledPaths w
      rw [outcome, after, Resolver.buildScriptClasspath_eq hdsl, houtcome, hdeeds]
      refine ⟨?_, rfl⟩
      cases (exec (r.probe .buildScripts) w).1 <;> rfl

theorem after_alike (w : World) (c : Call) : w.Alike (c.after w) :=
  after_keeps World.Alike.frame w (c.resolver.call_alike c.probe)

/-- What a call does outside, it does with the settings of its resolver. -/
theorem uses (w : World) (c : Call) :
    c.resolver.Uses c.probe w (c.deeds w) ∧ (c.after w).deeds = w.deeds ++ c.deeds w := by
  obtain ⟨⟨hscripts, hcommon⟩, hnothing⟩ | ⟨give, hprobe⟩ := c.comes_down
  · rw [deeds, (hnothing w).2, List.drop_length, List.append_nil]
    exact ⟨.unasked hscripts hcommon, rfl⟩
  · obtain ⟨done, hproceeds, hdone⟩ := Resolver.exec_call_proceeds c.resolver c.probe w
    rw [deeds, (hprobe w).2, Resolver.exec_probe_deeds, hdone, List.drop_left]
    exact ⟨hproceeds.uses, rfl⟩

/-- A call for the classpath of a project whose script is in its file, and that finds an executable,
calls that at the end. -/
theorem ran {w : World} {r : Resolver} (hscript : ∀ e, ¬r.NoScript .project w e)
    (hhere : w.tree.Grounded w.here) {gradle : Path}
    (hwhich : ∀ {w₁}, w.Alike w₁ →
      r.machine.which w₁ r.settings.command = r.machine.which w r.settings.command)
    (hfind : (exec (Wrapper.find r.machine r.settings r.directory) w).1 = .ok gradle) :
    ∃ directory n asked files, w.tempDirectory? = some directory ∧
      Call.deeds w ⟨r, .project⟩ =
        asked ++ [.ran (r.commandAt .project w directory gradle n) r.directory files] := by
  obtain ⟨⟨hscripts, -⟩, -⟩ | ⟨give, hprobe⟩ := comes_down ⟨r, .project⟩
  · cases hscripts
  · obtain ⟨done, hproceeds, hdone⟩ := Resolver.exec_call_proceeds r .project w
    rw [deeds, (hprobe w).2, Resolver.exec_probe_deeds, hdone, List.drop_left]
    exact hproceeds.ran hscript hhere hwhich hfind

theorem endsAlike {w w' : World} {c : Call} (hsteady : c.resolver.IsSteady)
    (hhere : w.tree.Grounded w.here) (halike : w.Alike w') :
    c.resolver.EndsAlike c.probe w w' (c.outcome w, c.deeds w) (c.outcome w', c.deeds w') := by
  obtain ⟨-, hnothing⟩ | ⟨give, hprobe⟩ := c.comes_down
  · rw [deeds, deeds, (hnothing w).1, (hnothing w').1, (hnothing w).2, (hnothing w').2,
      List.drop_length, List.drop_length]
    exact .uncalled
  · obtain ⟨done, hproceeds, hdone⟩ := Resolver.exec_call_proceeds c.resolver c.probe w
    obtain ⟨done', hproceeds', hdone'⟩ := Resolver.exec_call_proceeds c.resolver c.probe w'
    have hends := hproceeds.endsAlike hsteady halike hhere hproceeds'
    rw [deeds, deeds, (hprobe w).1, (hprobe w').1, (hprobe w).2, (hprobe w').2,
      Resolver.exec_probe_deeds, Resolver.exec_probe_deeds, hdone, hdone', List.drop_left,
      List.drop_left, Resolver.exec_probe_readIn (.refl w) hhere,
      Resolver.exec_probe_readIn halike hhere]
    exact hends.map (f := fun given => (Resolver.readIn w given).map give) fun e => rfl

end Call

end ClasspathProbe
