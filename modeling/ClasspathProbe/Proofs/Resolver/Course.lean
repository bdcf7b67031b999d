import Mathlib.Logic.ExistsUnique
import ClasspathProbe.Proofs.Probe.Script
import ClasspathProbe.Proofs.Resolver.Session

/-!
# The course of a call

A call of a probe ends in one of three ways (`Resolver.Ends`): the script cannot be put into a file;
no executable is found; or the executable is called, once, with the script in its file, and what it
answers decides the outcome (`Resolver.Gives`).
-/

namespace ClasspathProbe.Resolver

open ClasspathProbe.Action (exec Keeps exec_bind exec_bind_ok exec_bind_error)
open World (OnlyLogs onlyLogs_frame deeds_frame)

variable {r : Resolver} {p : Probe} {w w₁ w₂ : World} {found : Option Path} {e : Failure}

/-! ## Ways to end -/

/-- The record that stands before everything that a probe does. -/
def announcement (r : Resolver) (p : Probe) : Log.Record :=
  ⟨logger, Log.info, "Resolving dependencies for '".toList ++ r.directory.name ++
    "' through Gradle's CLI using tasks ".toList ++ shownList [p.task] ++ "...".toList⟩

/-- The command line of a probe. -/
def probeCommand (r : Resolver) (p : Probe) (gradle script : Path) : List Text :=
  [gradle.toText, "-I".toList, script.toText, p.task, r.settings.consoleFlag]

/-- What the answer to a command gives: a failure to start it, a failure to read its output, a
failure to test a reported path, or the usable ones of the reported artifacts. -/
inductive Gives (r : Resolver) (w : World) (command : List Text) :
    Except Failure (Text × Text) → Except Failure (List Artifact) → Prop where
  | notStarted (e : Failure) :
      Gives r w command (.error e) (.error (Invocation.startError command r.buildFile.parent e))
  | unreadable {output errors : Text} {e : Failure} (failed : Marker.parse output = .error e) :
      Gives r w command (.ok (output, errors)) (.error e)
  | untold {output errors : Text} {artifacts : List Artifact} {a : Artifact} {e : Failure}
      (reported : Marker.parse output = .ok artifacts) (mem : a ∈ artifacts)
      (untold : ¬IsTold w a) (failed : w.sight a.compiled = .error e) :
      Gives r w command (.ok (output, errors)) (.error e)
  | artifacts {output errors : Text} {artifacts : List Artifact}
      (reported : Marker.parse output = .ok artifacts) (told : ∀ a ∈ artifacts, IsTold w a) :
      Gives r w command (.ok (output, errors)) (.ok (artifacts.filter (isUsableIn w)))

/-- The ways in which a call can end. -/
inductive Ending where
  | noScript
  | noGradle
  | called
deriving DecidableEq

/-- How a call of a probe ends: in which way, with which outcome, and what has been done outside.
What comes of the answer to the command is left to `gives`. -/
inductive Ends {α : Type} (r : Resolver) (p : Probe) (w : World) (found : Option Path)
    (gives : List Text → Except Failure (Text × Text) → Except Failure α → Prop) :
    Ending → Except Failure α → List Deed → Prop where
  /-- The script could not be put into a file; nothing was asked and nothing was called. -/
  | noScript {e : Failure} {w₁ : World}
      (failed : exec (Probe.materialize r.settings p.scriptName) (w.take (r.announcement p)) =
        (.error e, w₁)) :
      Ends r p w found gives .noScript (.error e) w.deeds
  /-- There was no wrapper, and the command was asked for once and is not known. -/
  | noGradle {script : Path} {w₁ : World}
      (made : exec (Probe.materialize r.settings p.scriptName) (w.take (r.announcement p)) =
        (.ok script, w₁))
      (noWrapper : found = none) (unknown : r.machine.which w₁ r.settings.command = none) :
      Ends r p w found gives .noGradle (.error (Wrapper.notFound r.settings r.buildFile.parent))
        (w.deeds ++ [.asked r.settings.command])
  /-- The executable was called, once, in the directory of the build file, while the file held the
  script of the task. -/
  | called {script gradle : Path} {w₁ w₂ : World} {asked : List Deed} {outcome : Except Failure α}
      (made : exec (Probe.materialize r.settings p.scriptName) (w.take (r.announcement p)) =
        (.ok script, w₁))
      (finds : Wrapper.Finds r.machine r.settings w₁ found gradle asked)
      (search : exec (Wrapper.find r.machine r.settings r.buildFile.parent) w₁ = (.ok gradle, w₂))
      (holds : w₂.tree.read w₂.here script.toText = .ok p.bytes)
      (registers : Probe.tasksIn p.script = [p.task])
      (answer : gives (r.probeCommand p gradle script)
        (r.machine.run w₂ (r.probeCommand p gradle script) r.buildFile.parent) outcome) :
      Ends r p w found gives .called outcome
        (w.deeds ++ asked ++ [.ran (r.probeCommand p gradle script) r.buildFile.parent w₂.tree])

namespace Ends

variable {α β : Type} {gives : List Text → Except Failure (Text × Text) → Except Failure α → Prop}
  {way : Ending} {outcome : Except Failure α} {deeds : List Deed}

/-- What is done with an answer later does not change the way in which a call ended. -/
theorem imp {gives' : List Text → Except Failure (Text × Text) → Except Failure β → Prop}
    {outcome' : Except Failure β} (h : r.Ends p w found gives way outcome deeds)
    (herror : ∀ e, outcome = .error e → outcome' = .error e)
    (hgives : ∀ command answer, gives command answer outcome → gives' command answer outcome') :
    r.Ends p w found gives' way outcome' deeds := by
  cases h with
  | noScript failed =>
    rw [herror _ rfl]
    exact .noScript failed
  | noGradle made noWrapper unknown =>
    rw [herror _ rfl]
    exact .noGradle made noWrapper unknown
  | called made finds search holds registers answer =>
    exact .called made finds search holds registers (hgives _ _ answer)

/-- The way in which a call ended, told by the last thing that it did outside. -/
def wayOf : Option Deed → Ending
  | none => .noScript
  | some (.asked _) => .noGradle
  | some (.ran ..) => .called

theorem way_eq (h : r.Ends p w found gives way outcome deeds) :
    way = wayOf (deeds.drop w.deeds.length).getLast? := by
  cases h with
  | noScript failed =>
    rw [List.drop_length]
    rfl
  | noGradle made noWrapper unknown =>
    rw [List.drop_left]
    rfl
  | called made finds search holds registers answer =>
    rw [List.append_assoc, List.drop_left, List.getLast?_append]
    rfl

end Ends

/-! ## The call -/

section Call

variable {script gradle : Path} {place : Location}

theorem exec_call_unmade
    (h : exec (Probe.materialize r.settings p.scriptName) w = (.error e, w₁)) :
    exec (r.call p) w = (.error e, w₁) :=
  Probe.exec_withScripts_error h

/-- What a call does while its script is in a file decides how it ends. -/
theorem exec_call_made (h : exec (Probe.materialize r.settings p.scriptName) w = (.ok script, w₁))
    (hholds : Probe.Holds w w₁ script place) :
    exec (r.call p) w =
      ((exec (r.callBody p [script]) w₁).1, { (exec (r.callBody p [script]) w₁).2 with
        tree := (exec (r.callBody p [script]) w₁).2.tree.erase place }) :=
  Probe.exec_withScripts_ok h hholds (callBody_keeps onlyLogs_deedFrame r p [script] w₁)

theorem exec_callBody_error
    (h : exec (Wrapper.find r.machine r.settings r.directory) w = (.error e, w₁)) :
    exec (r.callBody p [script]) w = (.error e, w₁) :=
  exec_bind_error h _

theorem exec_callBody_ok
    (h : exec (Wrapper.find r.machine r.settings r.directory) w = (.ok gradle, w₁)) :
    let command := r.probeCommand p gradle script
    exec (r.callBody p [script]) w =
      ((r.machine.run w₁ command r.directory).mapError (Invocation.startError command r.directory),
        { w₁ with deeds := w₁.deeds ++ [.ran command r.directory w₁.tree] }) :=
  (exec_bind_ok h _).trans (Invocation.exec_run _ _ _ _)

end Call

/-- From its creation to the call, a file that nothing else is written to keeps its bytes. -/
theorem read_script {script : Path} {place : Location} {bytes : List UInt8}
    (hhere : w.tree.Grounded w.here)
    (hholds : Probe.Holds (w.take (r.announcement p)) w₁ script place)
    (hbytes : w₁.tree.node? place = some (.file ⟨bytes, false, 0⟩)) (deeds : List Deed)
    (logger text : Text) :
    let w₂ := World.take { w₁ with deeds } ⟨logger, Log.debug, text⟩
    w₂.tree.read w₂.here script.toText = .ok bytes := by
  intro w₂
  have hann := World.take_extends w (r.announcement p)
  have hgrown : w₁.Extends (World.LogsTo { w₁ with deeds } Log.debug) w₂ := by
    have htake := World.take_extends { w₁ with deeds } ⟨logger, Log.debug, text⟩
    exact ⟨htake.here, htake.sinks, htake.threshold, htake.tree⟩
  -- the announcement has claimed every place that the log could reach
  have hreach : ¬World.LogsTo { w₁ with deeds } Log.debug place := by
    intro hlogs
    obtain ⟨name, hnew, -⟩ := hholds.named
    have hbefore : w.LogsTo Log.debug place := hann.logsTo_iff.1 (hholds.grown.logsTo_iff.1 hlogs)
    have hle : Log.debug ≤ Log.info := by decide
    exact World.node?_take_ne_none hhere (hbefore.mono hle) hnew.free.node?_eq
  have hkept : w₂.tree.node? place = some (.file ⟨bytes, false, 0⟩) :=
    (hgrown.tree.node?_eq hreach).trans hbytes
  have hheld : Probe.Holds (w.take (r.announcement p)) w₂ script place :=
    hholds.onlyLogs (hgrown.mono fun _ hp => World.LogsTo.isLogPlace hp)
  rw [FileTree.read, FileTree.look_of_found (hheld.locate rfl hkept)]
  rfl

/-- The search for a wrapper that a call makes. -/
def wrapperSearch (r : Resolver) (w : World) : Except Failure (Option Path) :=
  (exec (Wrapper.firstWrapper?
    (Wrapper.candidates w (Wrapper.name r.machine.isWindows r.settings) r.directory)) w).1

/-- Files that were written since do not change the search for a wrapper. -/
theorem exec_firstWrapper?_of_extends {P : Location → Prop} (hext : w.Extends P w₁)
    (hhere : w.tree.Grounded w.here) (hfound : r.wrapperSearch w = .ok found) :
    exec (Wrapper.firstWrapper?
      (Wrapper.candidates w₁ (Wrapper.name r.machine.isWindows r.settings) r.directory)) w₁ =
      (.ok found, w₁) := by
  have hplaces : Wrapper.candidates w₁ (Wrapper.name r.machine.isWindows r.settings) r.directory =
      Wrapper.candidates w (Wrapper.name r.machine.isWindows r.settings) r.directory := by
    rw [Wrapper.candidates, World.absolute, World.directory, hext.here]
    rfl
  rw [hplaces, Wrapper.exec_firstWrapper? fun p _ => hext.sight_eq hhere p]
  exact congrArg (·, w₁) hfound

/-- What a call makes of the answer to its command. -/
def Returns (r : Resolver) (command : List Text) (answer outcome : Except Failure (Text × Text)) :
    Prop :=
  outcome = answer.mapError (Invocation.startError command r.buildFile.parent)

theorem exec_call (p : Probe) (hhere : w.tree.Grounded w.here)
    (hfound : r.wrapperSearch w = .ok found) :
    ∃ way, r.Ends p w found r.Returns way (exec (r.call p) (w.take (r.announcement p))).1
      (exec (r.call p) (w.take (r.announcement p))).2.deeds := by
  obtain ⟨w₁, hdeeds, -, ⟨e, hfailed, -⟩ |
      ⟨script, place, bytes, hmade, hholds, hbytes, w₀, hread⟩⟩ :=
    Probe.exec_materialize r.settings (clean_scriptName p) (w.take (r.announcement p))
  · refine ⟨.noScript, ?_⟩
    rw [exec_call_unmade hfailed, hdeeds, World.take_deeds]
    exact .noScript hfailed
  · rw [Probe.exec_readScript_own] at hread
    obtain rfl := Except.ok.inj (Prod.mk.inj hread).1
    have hann := World.take_extends w (r.announcement p)
    -- what the call has written so far, logs and the script, is not executable
    have hsearch : exec (Wrapper.firstWrapper? (Wrapper.candidates w₁
        (Wrapper.name r.machine.isWindows r.settings) r.directory)) w₁ = (.ok found, w₁) := by
      have hgrown := (hann.mono fun _ _ => trivial).trans
        (hholds.grown.mono fun _ _ => trivial)
      exact exec_firstWrapper?_of_extends hgrown hhere hfound
    rw [exec_call_made hmade hholds]
    dsimp only
    obtain ⟨gradle, asked, text, hfinds, hfind⟩ | ⟨hnone, hunknown, hfind⟩ :=
      Wrapper.exec_find hsearch
    · have hread := read_script hhere hholds hbytes (w₁.deeds ++ asked) Wrapper.logger text
      rw [exec_callBody_ok hfind, World.take_deeds]
      dsimp only
      rw [hdeeds, World.take_deeds] at hfind hread ⊢
      exact ⟨.called, .called hmade hfinds hfind hread (Probe.tasksIn_script p) rfl⟩
    · rw [exec_callBody_error hfind, hdeeds, World.take_deeds]
      exact ⟨.noGradle, .noGradle hmade hnone hunknown⟩

/-! ## What comes of an answer -/

/-- What a probe does with the two streams of a build. -/
def readStreams (output errors : Text) : Action (List Artifact) := do
  Invocation.report errors
  let artifacts ← readOutput output
  usable artifacts

theorem readStreams_keeps {R : World → World → Prop} (hR : Action.LogFrame R)
    (output errors : Text) : Keeps R (readStreams output errors) :=
  .bind hR (Invocation.report_keeps hR errors) fun _ =>
    .bind hR (readOutput_keeps hR output) fun artifacts => usable_keeps hR artifacts

/-- Reading the streams comes down to sorting out what they report, in a world with more in its
logs. -/
theorem exec_readStreams {R : World → World → Prop} (hR : Action.LogFrame R)
    (output errors : Text) (w : World) :
    ∃ w', R w w' ∧ (exec (readStreams output errors) w).1 =
      match Marker.parse output with
      | .error e => .error e
      | .ok artifacts => (exec (usable artifacts) w').1 := by
  have hreport : exec (Invocation.report errors) w =
      (.ok ⟨⟩, (exec (Invocation.report errors) w).2) :=
    Prod.ext (Invocation.exec_report errors w) rfl
  have hw₁ := Invocation.report_keeps hR errors w
  generalize (exec (Invocation.report errors) w).2 = w₁ at hreport hw₁
  refine ⟨w₁.take ⟨readerLogger, Log.debug, output⟩, hR.trans hw₁ (hR.take _ _), ?_⟩
  rw [readStreams, exec_bind_ok hreport]
  have hread : exec (readOutput output) w₁ =
      (Marker.parse output, w₁.take ⟨readerLogger, Log.debug, output⟩) := by
    rw [readOutput, exec_bind_ok (Action.exec_log _ _ _ _)]
    cases Marker.parse output <;> rfl
  cases hparse : Marker.parse output with
  | error e =>
    rw [hparse] at hread
    rw [exec_bind_error hread]
  | ok artifacts =>
    rw [hparse] at hread
    rw [exec_bind_ok hread]

/-- The streams are read alike in all worlds that differ in their logs only. -/
theorem gives_readStreams (hhere : w.tree.Grounded w.here) (hlogs : w.OnlyLogs w₁)
    (command : List Text) (output errors : Text) :
    r.Gives w command (.ok (output, errors)) (exec (readStreams output errors) w₁).1 := by
  obtain ⟨w₂, hlogs₂, hread⟩ := exec_readStreams onlyLogs_frame output errors w₁
  rw [hread]
  cases hparse : Marker.parse output with
  | error e => exact .unreadable hparse
  | ok artifacts =>
    have hsight : ∀ q, w₂.sight q = w.sight q := (hlogs.trans hlogs₂).sight_eq hhere
    obtain ⟨htold, hok⟩ | ⟨e, ⟨a, ha, huntold, herr⟩, hfail⟩ := exec_usable artifacts w₂
    · dsimp only
      rw [hok, isUsableIn_congr hsight]
      exact .artifacts hparse fun a ha => (isTold_congr hsight a).1 (htold a ha)
    · dsimp only
      rw [hfail]
      refine .untold hparse ha (fun h => huntold ((isTold_congr hsight a).2 h)) ?_
      exact (hsight a.compiled).symm.trans herr

theorem exec_probe_error (h : exec (r.call p) (w.take (r.announcement p)) = (.error e, w₁)) :
    exec (r.probe p) w = (.error e, w₁) := by
  have hann : exec (r.probe p) w = _ := exec_bind_ok (Action.exec_log _ _ _ w) _
  rw [hann]
  exact exec_bind_error h _

theorem exec_probe_ok {output errors : Text}
    (h : exec (r.call p) (w.take (r.announcement p)) = (.ok (output, errors), w₁)) :
    exec (r.probe p) w = exec (readStreams output errors) w₁ := by
  have hann : exec (r.probe p) w = _ := exec_bind_ok (Action.exec_log _ _ _ w) _
  rw [hann]
  exact exec_bind_ok h _

theorem probe_ends (p : Probe) (hhere : w.tree.Grounded w.here)
    (hfound : r.wrapperSearch w = .ok found) :
    ∃ way,
      r.Ends p w found (r.Gives w) way (exec (r.probe p) w).1 (exec (r.probe p) w).2.deeds := by
  obtain ⟨way, hends⟩ := exec_call p hhere hfound
  have hlogs : w.OnlyLogs (exec (r.call p) (w.take (r.announcement p))).2 :=
    (World.take_onlyLogs w _).trans (r.call_onlyLogs p _)
  refine ⟨way, ?_⟩
  generalize hcall : exec (r.call p) (w.take (r.announcement p)) = result at hends hlogs
  obtain ⟨outcome, w₁⟩ := result
  cases outcome with
  | error e =>
    rw [exec_probe_error hcall]
    refine hends.imp (fun _ h => congrArg _ (Except.error.inj h)) fun command answer hreturns => ?_
    cases answer with
    | error e' =>
      rw [Except.error.inj hreturns]
      exact .notStarted e'
    | ok streams => cases hreturns
  | ok streams =>
    obtain ⟨output, errors⟩ := streams
    rw [exec_probe_ok hcall, readStreams_keeps deeds_frame output errors w₁]
    refine hends.imp (fun _ h => by cases h) fun command answer hreturns => ?_
    cases answer with
    | error e => cases hreturns
    | ok streams =>
      rw [← Except.ok.inj hreturns]
      exact gives_readStreams hhere hlogs command output errors

/-! ## The two calls of a resolver -/

theorem exec_celebrate (r : Resolver) (what : Text) (artifacts : List Artifact) (w : World) :
    (exec (r.celebrate what artifacts) w).1 = .ok ⟨⟩ := by
  rw [celebrate]
  split <;> rfl

/-- Something is made of the artifacts of a probe, after a record of the success. -/
def celebrated {α : Type} (r : Resolver) (p : Probe) (what : Text) (give : List Artifact → α) :
    Action α := do
  let artifacts ← r.probe p
  r.celebrate what artifacts
  return give artifacts

theorem exec_celebrated {α : Type} (what : Text) (give : List Artifact → α) (w : World) :
    (exec (r.celebrated p what give) w).1 = (exec (r.probe p) w).1.map give ∧
      (exec (r.celebrated p what give) w).2.deeds = (exec (r.probe p) w).2.deeds := by
  rw [celebrated]
  generalize hprobe : exec (r.probe p) w = result
  obtain ⟨outcome, w₁⟩ := result
  cases outcome with
  | error e =>
    rw [exec_bind_error hprobe]
    exact ⟨rfl, rfl⟩
  | ok artifacts =>
    have hcelebrate : exec (r.celebrate what artifacts) w₁ =
        (.ok ⟨⟩, (exec (r.celebrate what artifacts) w₁).2) :=
      Prod.ext (exec_celebrate r what artifacts w₁) rfl
    rw [exec_bind_ok hprobe, exec_bind_ok hcelebrate]
    exact ⟨rfl, celebrate_keeps deeds_frame r what artifacts w₁⟩

/-- The compiled artifacts, each once. -/
def compiledPaths (artifacts : List Artifact) : List Path :=
  (artifacts.map (·.compiled)).eraseDups

theorem buildScriptClasspath_eq (h : r.kotlinDsl = true) :
    r.buildScriptClasspath =
      r.celebrated .buildScripts "build script dependencies".toList compiledPaths := by
  rw [buildScriptClasspath, h]
  rfl

/-- **How calls end.** From a real working directory, and when the tests for wrappers do not fail, a
call ends in exactly one of the three ways, and what it gives are the usable artifacts that the one
call of the executable reported. -/
theorem existsUnique_ends (r : Resolver) (w : World) (found : Option Path)
    (hhere : w.tree.Grounded w.here) (hfound : r.wrapperSearch w = .ok found) :
    (∃! way, r.Ends .project w found (r.Gives w) way (exec r.classpath w).1
      (exec r.classpath w).2.deeds) ∧
    (r.kotlinDsl = true →
      ∃! way, r.Ends .buildScripts w found
        (fun command answer outcome =>
          ∃ given, r.Gives w command answer given ∧ outcome = given.map compiledPaths)
        way (exec r.buildScriptClasspath w).1 (exec r.buildScriptClasspath w).2.deeds) := by
  refine ⟨?_, fun hdsl => ?_⟩
  · obtain ⟨way, hends⟩ := probe_ends (r := r) .project hhere hfound
    obtain ⟨houtcome, hdeeds⟩ :=
      exec_celebrated (r := r) (p := .project) "dependencies".toList id w
    have hsame : exec r.classpath w = exec (r.celebrated .project "dependencies".toList id) w := rfl
    have hid : (exec (r.probe .project) w).1.map id = (exec (r.probe .project) w).1 := by
      cases (exec (r.probe .project) w).1 <;> rfl
    rw [hsame, houtcome, hdeeds, hid]
    exact ⟨way, hends, fun way' hends' => by rw [hends'.way_eq, hends.way_eq]⟩
  · obtain ⟨way, hends⟩ := probe_ends (r := r) .buildScripts hhere hfound
    obtain ⟨houtcome, hdeeds⟩ := exec_celebrated (r := r) (p := .buildScripts)
      "build script dependencies".toList compiledPaths w
    rw [buildScriptClasspath_eq hdsl, houtcome, hdeeds]
    refine ⟨way, hends.imp (fun e he => by rw [he]; rfl) fun command answer hgives => ?_,
      fun way' hends' => ?_⟩
    · exact ⟨_, hgives, rfl⟩
    · rw [hends'.way_eq, hends.way_eq]

/-- A project directory without a wrapper, and a directory for temporary files. -/
def plainWorld : World where
  tree := ⟨[(["p".toList], .directory 0), (["t".toList], .directory 0)]⟩
  here := []
  tempDirectory := "/t".toList
  environment := []

/-- A resolver whose build tool is on the search path and reports one jar. -/
def plainResolver : Resolver where
  buildFile := .ofText "/p/build.gradle.kts".toList
  kotlinDsl := true
  settings := {}
  machine :=
    { isWindows := false
      which := fun _ _ => some (.ofText "/bin/gradle".toList)
      run := fun _ _ _ => .ok ("kotlin-lsp-gradle /a.jar\n".toList, []) }

theorem existsUnique_ends_plain :
    plainWorld.tree.Grounded plainWorld.here ∧ plainResolver.wrapperSearch plainWorld = .ok none ∧
      (∃! way, plainResolver.Ends .project plainWorld none (plainResolver.Gives plainWorld) way
        (exec plainResolver.classpath plainWorld).1
        (exec plainResolver.classpath plainWorld).2.deeds) ∧
      ∃! way, plainResolver.Ends .buildScripts plainWorld none
        (fun command answer outcome => ∃ given,
          plainResolver.Gives plainWorld command answer given ∧
            outcome = given.map compiledPaths)
        way (exec plainResolver.buildScriptClasspath plainWorld).1
        (exec plainResolver.buildScriptClasspath plainWorld).2.deeds := by
  have hhere : plainWorld.tree.Grounded plainWorld.here := FileTree.Grounded.nil _
  have hfound : plainResolver.wrapperSearch plainWorld = .ok none := rfl
  obtain ⟨hproject, hscripts⟩ := existsUnique_ends plainResolver plainWorld none hhere hfound
  exact ⟨hhere, hfound, hproject, hscripts rfl⟩

end ClasspathProbe.Resolver
