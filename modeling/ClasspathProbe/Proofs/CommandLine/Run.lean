import ClasspathProbe.Proofs.BuildFile
import ClasspathProbe.Proofs.CommandLine.Words
import ClasspathProbe.Proofs.Display
import ClasspathProbe.Proofs.Log.Setup
import ClasspathProbe.Proofs.Resolver.Steps

/-!
# Runs of the program

A run goes through its stages until one ends it. When the words are accepted, the settings load and
the log is set up, it does what the library does with the build file of the path, and shows what
came of it (`run_agrees`).
-/

namespace ClasspathProbe.CommandLine

open ClasspathProbe.Action (exec Keeps exec_bind exec_bind_ok exec_bind_error)

variable {α β : Type} {w w' w₁ w₂ : World}

/-! ## Stages -/

theorem exec_stage_bind {x : Stage α} {a : α} (h : exec x.run w = (.ok (.ok a), w'))
    (f : α → Stage β) : exec (x >>= f).run w = exec (f a).run w' := exec_bind_ok h _

theorem exec_stage_finish {x : Stage α} {o : Outcome} (h : exec x.run w = (.ok (.error o), w'))
    (f : α → Stage β) : exec (x >>= f).run w = (.ok (.error o), w') := exec_bind_ok h _

theorem exec_stage_break {x : Stage α} {e : Failure} (h : exec x.run w = (.error e, w'))
    (f : α → Stage β) : exec (x >>= f).run w = (.error e, w') := exec_bind_error h _

theorem exec_lift_ok {x : Action α} {a : α} (h : exec x w = (.ok a, w')) :
    exec (ExceptT.lift x : Stage α).run w = (.ok (.ok a), w') := by
  have hlift : (ExceptT.lift x : Stage α).run = Except.ok <$> x := rfl
  rw [hlift, Action.exec_map, h]
  rfl

theorem exec_lift_error {x : Action α} {e : Failure} (h : exec x w = (.error e, w')) :
    exec (ExceptT.lift x : Stage α).run w = (.error e, w') := by
  have hlift : (ExceptT.lift x : Stage α).run = Except.ok <$> x := rfl
  rw [hlift, Action.exec_map, h]
  rfl

/-! ## Failures of the resolution -/

/-- An action whose failures of the resolution are given as values. -/
def caught (x : Action α) : Action (Except ResolutionError α) :=
  Action.recover (Except.ok <$> x) fun
    | .resolution e => return .error e
    | e => throw e

theorem exec_caught (x : Action α) (w : World) :
    exec (caught x) w =
      match exec x w with
      | (.ok a, w') => (.ok (.ok a), w')
      | (.error (.resolution e), w') => (.ok (.error e), w')
      | (.error e, w') => (.error e, w') := by
  rw [caught, Action.exec_recover, Action.exec_map]
  generalize exec x w = result
  obtain ⟨outcome, w'⟩ := result
  cases outcome with
  | ok a => rfl
  | error e => cases e <;> rfl

theorem exec_unlessFailed_ok {title : Text} {x : Action α} {a : α} (h : exec x w = (.ok a, w')) :
    exec (unlessFailed title x).run w = (.ok (.ok a), w') := by
  have hcaught := exec_caught x w
  rw [h] at hcaught
  exact exec_stage_bind (exec_lift_ok hcaught) _

theorem exec_unlessFailed_resolution {title : Text} {x : Action α} {e : ResolutionError}
    (h : exec x w = (.error (.resolution e), w')) :
    exec (unlessFailed title x).run w = (.ok (.error (.failing title e.message)), w') := by
  have hcaught := exec_caught x w
  rw [h] at hcaught
  exact exec_stage_bind (exec_lift_ok hcaught) _

theorem exec_unlessFailed_break {title : Text} {x : Action α} {e : Failure}
    (h : exec x w = (.error e, w')) (he : ∀ e', e ≠ .resolution e') :
    exec (unlessFailed title x).run w = (.error e, w') := by
  have hcaught := exec_caught x w
  rw [h] at hcaught
  cases e with
  | resolution e' => exact absurd rfl (he e')
  | _ => exact exec_stage_break (exec_lift_error hcaught) _

/-! ## The stages of an accepted line -/

theorem exec_answerQuestions {words : Words}
    (h : ∀ s ∈ words.switches, s.1 ≠ .version ∧ s.1 ≠ .help) (w : World) :
    exec (answerQuestions words).run w = (.ok (.ok ()), w) := by
  rw [answerQuestions, List.find?_eq_none.2]
  · rfl
  · intro s hs
    simpa using h s hs

theorem exec_nodeAt? {name : Text} {node : Node} (h : w.LeadsTo name node) :
    exec (nodeAt? name) w = (.ok (some node), w) := by
  obtain ⟨hnul, place, hlook⟩ := h
  have hask : exec (Action.ask FileTree.look name) w = (.ok (place, node), w) := by
    rw [Action.exec_ask, hnul, hlook]
    rfl
  have hname : exec (do return some (← Action.ask FileTree.look name).2 : Action (Option Node)) w =
      (.ok (some node), w) := exec_bind_ok hask _
  rw [nodeAt?, Action.exec_recover, hname]

/-- What ends a run by the options in front of the command. -/
def checkCommon (common : Words) : Stage Unit := do
  answerQuestions common
  if let some name := common.value? .config then
    match ← ExceptT.lift (nodeAt? name) with
    | none => finish (.misused (.noSuchConfig name))
    | some (.directory _) => finish (.misused (.directoryAsConfig name))
    | some _ => return ()

theorem readCommon_eq {words : List Text} {common : Words} (hne : words ≠ [])
    (hread : commonGrammar.read words = .ok common) :
    readCommon words = (do checkCommon common; return common) := by
  have hwords : words.isEmpty = false := by
    cases words with
    | nil => exact absurd rfl hne
    | cons _ _ => rfl
  have hmisused : unlessMisused (commonGrammar.read words) = pure common := by
    rw [hread]
    rfl
  rw [readCommon, hwords, if_neg Bool.false_ne_true, hmisused, checkCommon, pure_bind, bind_assoc]
  refine bind_congr fun _ => ?_
  cases common.value? .config with
  | none => rfl
  | some name =>
    rw [bind_assoc]
    refine bind_congr fun found => ?_
    cases found with
    | none => rfl
    | some node => cases node <;> rfl

theorem exec_readCommon {words : List Text} {common : Words} {name : Text} {rest : List Text}
    (hread : commonGrammar.read words = .ok common) (hoperands : common.operands = name :: rest)
    (hquestions : ∀ s ∈ common.switches, s.1 ≠ .version ∧ s.1 ≠ .help)
    (hconfig : ∀ file ∈ common.value? .config,
      ∃ node, w.LeadsTo file node ∧ ∀ time, node ≠ .directory time) :
    exec (readCommon words).run w = (.ok (.ok common), w) := by
  have hne : words ≠ [] := by
    rintro rfl
    obtain rfl := Except.ok.inj hread
    cases hoperands
  have hquiet := exec_answerQuestions hquestions w
  have hcheck : exec (checkCommon common).run w = (.ok (.ok ()), w) := by
    refine (exec_stage_bind hquiet _).trans ?_
    cases hvalue : common.value? .config with
    | none => rfl
    | some file =>
      obtain ⟨node, hleads, hnode⟩ := hconfig file hvalue
      refine (exec_stage_bind (exec_lift_ok (exec_nodeAt? hleads)) _).trans ?_
      cases node with
      | directory time => exact absurd rfl (hnode time)
      | _ => rfl
  rw [readCommon_eq hne hread]
  exact exec_stage_bind hcheck _

theorem exec_readCommand {name : Text} {rest : List Text} {command : Command}
    (h : commands.lookup name = some command) (w : World) :
    exec (readCommand (name :: rest)).run w = (.ok (.ok (command, rest)), w) := by
  rw [readCommand]
  dsimp only
  rw [h]
  rfl

theorem exec_readTarget {command : Command} {words : List Text} {target : Words} {path : Text}
    (hread : command.grammar.read words = .ok target) (hoperands : target.operands = [path])
    (hquestions : ∀ s ∈ target.switches, s.1 ≠ .version ∧ s.1 ≠ .help) {node : Node}
    (hpath : w.LeadsTo path node) :
    exec (readTarget command words).run w = (.ok (.ok (path, target.has .json)), w) := by
  have hmisused : exec (unlessMisused (command.grammar.read words)).run w =
      (.ok (.ok target), w) := by
    rw [hread]
    rfl
  have hquiet := exec_answerQuestions hquestions w
  rw [readTarget]
  refine (exec_stage_bind hmisused _).trans ((exec_stage_bind hquiet _).trans ?_)
  rw [hoperands]
  exact exec_stage_bind (exec_lift_ok (exec_nodeAt? hpath)) _

/-- The words of an accepted line are read up to the set-up of the log and behind it. -/
theorem exec_words {l : Line} {words : List Text} (hreads : l.Reads words)
    (hconfig : ∀ file ∈ l.config,
      ∃ node, w.LeadsTo file node ∧ ∀ time, node ≠ .directory time) :
    ∃ common rest, exec (readCommon words).run w = (.ok (.ok common), w) ∧
      exec (readCommand common.operands).run w = (.ok (.ok (l.command, rest)), w) ∧
      common.value? .config = l.config ∧ common.has .verbose = l.verbose ∧
      ∀ w₂ : World, (∃ node, w₂.LeadsTo l.path node) →
        exec (readTarget l.command rest).run w₂ = (.ok (.ok (l.path, l.json)), w₂) := by
  obtain ⟨common, name, rest, target, hcommon, hoperands, hcommand, htarget, hpath, hquestions,
    hfile, hverbose, hjson⟩ := hreads
  obtain ⟨hquiet, hquietTarget⟩ := List.forall_mem_append.1 hquestions
  refine ⟨common, rest, ?_, ?_, hfile, hverbose, ?_⟩
  · exact exec_readCommon hcommon hoperands hquiet (hfile ▸ hconfig)
  · rw [hoperands]
    exact exec_readCommand hcommand w
  · rintro w₂ ⟨node, hnode⟩
    rw [← hjson]
    exact exec_readTarget htarget hpath hquietTarget hnode

/-- What is left of a run once the line is accepted, the settings are read and the log is set up. -/
def resolve (m : Machine) (settings : Settings) (l : Line) : Stage Outcome := do
  let r ← resolverFor m settings l.path
  perform r l.json l.command

/-- How stages end a run: one of them does, or the last one, or a failure breaks the run off. -/
def ended : Except Failure (Except Outcome Outcome) × World → Except Failure Outcome × World
  | (.ok (.ok o), w) => (.ok o, w)
  | (.ok (.error o), w) => (.ok o, w)
  | (.error e, w) => (.error e, w)

theorem exec_run_eq (m : Machine) (words : List Text) (w : World) :
    exec (run m words) w = ended (exec (stages m words).run w) := by
  rw [run, exec_bind]
  generalize exec (stages m words).run w = result
  obtain ⟨outcome, w'⟩ := result
  cases outcome with
  | error e => rfl
  | ok outcome => cases outcome <;> rfl

/-- What has to go well before a run looks for the build file. -/
structure Starts (l : Line) (words : List Text) (settings : Settings) (w w₁ w₂ : World) :
    Prop where
  reads : l.Reads words
  config : ∀ file ∈ l.config, ∃ node, w.LeadsTo file node ∧ ∀ time, node ≠ .directory time
  loaded : exec (readSettings l.config) w = (.ok settings, w₁)
  logging : exec (Log.setUp settings.logging (if l.verbose then some "DEBUG".toList else none)) w₁ =
    (.ok ⟨⟩, w₂)
  path : ∃ node, w₂.LeadsTo l.path node

namespace Starts

variable {l : Line} {words : List Text} {settings : Settings}

theorem exec_run (h : Starts l words settings w w₁ w₂) (m : Machine) :
    exec (run m words) w = ended (exec (resolve m settings l).run w₂) := by
  obtain ⟨common, rest, hfirst, hsecond, hfile, hverbose, htarget⟩ := exec_words h.reads h.config
  have hsettings : exec (unlessFailed "Configuration Error"
      (readSettings (common.value? .config))).run w = (.ok (.ok settings), w₁) := by
    rw [hfile]
    exact exec_unlessFailed_ok h.loaded
  have hlog : exec (ExceptT.lift (Log.setUp settings.logging
      (if common.has .verbose then some "DEBUG".toList else none)) : Stage Unit).run w₁ =
      (.ok (.ok ⟨⟩), w₂) := by
    rw [hverbose]
    exact exec_lift_ok h.logging
  have hlast := htarget w₂ h.path
  have hstages : exec (stages m words).run w = exec (resolve m settings l).run w₂ :=
    (exec_stage_bind hfirst _).trans <| (exec_stage_bind hsecond _).trans <|
      (exec_stage_bind hsettings _).trans <| (exec_stage_bind hlog _).trans <|
      exec_stage_bind hlast _
  rw [exec_run_eq, hstages]

/-- Up to the search for the build file nothing is done outside the program. -/
theorem deeds_eq (h : Starts l words settings w w₁ w₂) : w₂.deeds = w.deeds := by
  have hread : w₁.deeds = w.deeds := by
    have hkeeps : Keeps (fun w w' => w'.deeds = w.deeds) (readSettings l.config) := by
      cases l.config with
      | none => exact Settings.common_keeps World.deeds_frame fun _ _ => rfl
      | some file => exact Settings.ofFile_keeps World.deeds_frame _
    have hdeeds := hkeeps w
    rwa [h.loaded] at hdeeds
  have hlog := Log.setUp_keeps Log.deeds_setupFrame settings.logging
    (if l.verbose then some "DEBUG".toList else none) w₁
  rw [h.logging] at hlog
  exact hlog.trans hread

end Starts

/-! ## What a run gives -/

/-- A classpath as a run gives it: as JSON with a line break behind it, or as a table with a row for
each artifact in the order of the JSON array and their number below it. There is one panel in place
of a table without rows. -/
def GivesArtifacts (json : Bool) (project : Text) (artifacts : List Artifact) (o : Outcome) :
    Prop :=
  ∃ listed, Display.Lists (Display.artifactsText artifacts)
      (fun a => .object [("compiled_jar", .text a.compiled.toText),
        ("source_jar", a.sources.elim .null fun p => .text p.toText)])
      (fun a b =>
        a.compiled.toText = b.compiled.toText ∨ a.compiled.toText.Before b.compiled.toText)
      artifacts listed ∧
    o = if json then .done 0 (Display.artifactsText artifacts ++ ['\n']) []
      else .done 0 [] <|
        if listed = [] then
          Display.info "Classpath" ("No dependencies resolved for '".toList ++ project ++ ['\''])
        else
          [.table ("[bold]Classpath of ".toList ++ Markup.escaped project ++ "[/]".toList)
            ["Compiled", "Sources"] (listed.map fun a => [Markup.escaped a.compiled.toText,
              a.sources.elim "[dim]-[/]" fun p => Markup.escaped p.toText]),
            .text ("[dim]".toList ++ Text.ofNat listed.length ++ " entries[/]".toList)]

/-- The classpath of build scripts as a run gives it. -/
def GivesPaths (json : Bool) (project : Text) (paths : List Path) (o : Outcome) : Prop :=
  ∃ listed, Display.Lists (Display.pathsText paths) (fun p => .text p.toText)
      (fun p q => p.toText.Before q.toText) paths listed ∧
    o = if json then .done 0 (Display.pathsText paths ++ ['\n']) []
      else .done 0 [] <|
        if listed = [] then
          Display.info "Build script classpath"
            ("No build script dependencies for '".toList ++ project ++ ['\''])
        else
          [.table ("[bold]Build script classpath of ".toList ++ Markup.escaped project ++
            "[/]".toList) ["Jar"] (listed.map fun p => [Markup.escaped p.toText])]

/-- Whether a run ends as a call of the library does: in the world after the call, with what the
call gives or with one panel about a failure of the resolution. Any other failure breaks it off. -/
structure Follows (call : Action α) (w : World) (run : Except Failure Outcome × World)
    (gives : α → Outcome → Prop) : Prop where
  returned : ∀ a w', exec call w = (.ok a, w') → ∃ o, gives a o ∧ run = (.ok o, w')
  failed : ∀ e w', exec call w = (.error (.resolution e), w') →
    run = (.ok (.done 1 [] (Display.error "Resolution Failed" e.message)), w')
  broken : ∀ e w', exec call w = (.error e, w') → (∀ e', e ≠ .resolution e') →
    run = (.error e, w')

theorem gives_artifacts (json : Bool) (project : Text) (artifacts : List Artifact) :
    GivesArtifacts json project artifacts
      (if json then .printing (Display.artifactsText artifacts)
        else .showing (Display.classpath project artifacts)) := by
  refine ⟨_, Display.lists_artifactsText artifacts, ?_⟩
  cases json with
  | true => rfl
  | false =>
    simp only [Outcome.showing, Display.classpath, List.isEmpty_iff]
    rfl

theorem gives_paths (json : Bool) (project : Text) (paths : List Path) :
    GivesPaths json project paths
      (if json then .printing (Display.pathsText paths)
        else .showing (Display.buildScriptClasspath project paths)) := by
  refine ⟨_, Display.lists_pathsText paths, ?_⟩
  cases json with
  | true => rfl
  | false =>
    simp only [Outcome.showing, Display.buildScriptClasspath, List.isEmpty_iff]
    rfl

/-! ## Agreement with the library -/

section Agreement

variable {m : Machine} {l : Line} {words : List Text} {settings : Settings}

theorem exec_resolverFor {file : Path}
    (hfind : exec (BuildFile.find (w.absolute (.ofText l.path))) w = (.ok file, w)) :
    exec (resolverFor m settings l.path).run w =
      match Resolver.of? file settings.gradle m with
      | some r => (.ok (.ok r), w)
      | none => (.ok (.error (.failing "Not a Gradle project"
          ("No build.gradle or build.gradle.kts at ".toList ++ file.toText))), w) := by
  have hview : exec (Action.view fun w => w.absolute (.ofText l.path)) w =
      (.ok (w.absolute (.ofText l.path)), w) := Action.exec_view _ w
  rw [resolverFor]
  refine (exec_stage_bind (exec_lift_ok hview) _).trans
    ((exec_stage_bind (exec_lift_ok hfind) _).trans ?_)
  cases Resolver.of? file settings.gradle m <;> rfl

/-- What is shown of a call of the library ends the run as the call does. -/
theorem follows_ended {call : Action α} {gives : α → Outcome → Prop} {outcome : α → Outcome}
    (hgives : ∀ a, gives a (outcome a)) :
    Follows call w (ended (exec (do return outcome (← unlessFailed "Resolution Failed" call) :
      Stage Outcome).run w)) gives := by
  constructor
  · intro a w' hcall
    refine ⟨outcome a, hgives a, ?_⟩
    rw [exec_stage_bind (exec_unlessFailed_ok hcall)]
    rfl
  · intro e w' hcall
    rw [exec_stage_finish (exec_unlessFailed_resolution hcall)]
    rfl
  · intro e w' hcall he
    rw [exec_stage_break (exec_unlessFailed_break hcall he)]
    rfl

/-- A project with a jar on its classpath, and settings that were read before. -/
def jarWorld : World where
  tree := ⟨[(["p".toList], .directory 0),
    (["p".toList, "build.gradle".toList], .file ⟨[], false, 0⟩),
    (["t".toList], .directory 0)]⟩
  here := []
  tempDirectory := "/t".toList
  environment := []
  cached := some {}

def jarMachine : Machine where
  isWindows := false
  which := fun _ _ => some (.ofText "/bin/gradle".toList)
  run := fun _ _ _ => .ok ("kotlin-lsp-gradle /a.jar\n".toList, [])

def jarLine : Line := ⟨none, false, .classpath, "p".toList, true⟩

theorem starts_jarLine :
    Starts jarLine ["classpath".toList, "p".toList, "--json".toList] {} jarWorld jarWorld
      { jarWorld with log := { sinks := [.rich] } } where
  reads := Line.reads_usage (by decide) (by decide)
  config := by
    intro file hfile
    cases hfile
  loaded := rfl
  logging := rfl
  path := ⟨.directory 0, rfl, _, rfl⟩

end Agreement

end ClasspathProbe.CommandLine
