import ClasspathProbe.CommandLine.Options
import ClasspathProbe.Display
import ClasspathProbe.Log.Setup
import ClasspathProbe.Program
import ClasspathProbe.Resolver

/-!
# The command line

A run of the program on the words of its command line: options for all commands, the name of a
command, and the words for the command. The settings are read and the log is set up before the words
for the command are looked at. A run ends with a status, what was printed, and what was shown; only
a failure that is no failure of the resolution breaks it off.
-/

namespace ClasspathProbe.CommandLine

/-- How a run ends: by a usage error, or with a status, a printed text and items on the console. -/
inductive Outcome where
  | misused (e : UsageError)
  | done (status : Nat) (printed : Text) (shown : List Item)
deriving DecidableEq

namespace Outcome

/-- A run that prints a line and shows nothing. -/
def printing (line : Text) : Outcome := .done 0 (line ++ ['\n']) []

def showing (items : List Item) : Outcome := .done 0 [] items

def failing (title message : Text) : Outcome := .done 1 [] (Display.error title message)

def status : Outcome → Nat
  | .misused _ => 2
  | .done status _ _ => status

end Outcome

/-- A part of a run, which may end the run. -/
abbrev Stage := ExceptT Outcome Action

def finish {α : Type} (o : Outcome) : Stage α := throw o

/-- Gives what the words say, or ends the run by their usage error. -/
def unlessMisused {α : Type} : Except UsageError α → Stage α
  | .ok a => return a
  | .error e => finish (.misused e)

/-- Gives what an action of the resolution gives; its failures end the run with an error. -/
def unlessFailed {α : Type} (title : Text) (x : Action α) : Stage α := do
  let outcome ← ExceptT.lift <| Action.recover (Except.ok <$> x) fun
    | .resolution e => return .error e
    | e => throw e
  match outcome with
  | .ok a => return a
  | .error e => finish (.failing title e.message)

/-- The commands. -/
inductive Command where
  | classpath
  | buildScript
  | version
deriving DecidableEq, Repr

def commands : List (Text × Command) :=
  [("classpath", .classpath), ("buildscript", .buildScript), ("version", .version)]

def commonGrammar : Grammar where
  long := [("--config", .config), ("--verbose", .verbose), ("--version", .version),
    ("--help", .help)]
  short := [('c', .config)]
  interspersed := false

def Command.grammar : Command → Grammar
  | .version => ⟨[("--help", .help)], [], true⟩
  | _ => ⟨[("--json", .json), ("--help", .help)], [], true⟩

def versionLine : Text := "gradle-classpath, version 0.1.0"

def helpLine : Text :=
  "Usage: gradle-classpath [--config FILE] [--verbose] (classpath | buildscript | version) PATH " ++
    "[--json]"

/-- Ends the run when the words ask for the version or for help, whichever comes first. -/
def answerQuestions (words : Words) : Stage Unit :=
  match words.switches.find? fun (o, _) => o = .version || o = .help with
  | some (.version, _) => finish (.printing versionLine)
  | some _ => finish (.printing helpLine)
  | none => return ()

/-- What a name leads to, if it leads anywhere. -/
def nodeAt? (name : Text) : Action (Option Node) :=
  Action.recover (do return some (← Action.ask FileTree.look name).2) fun
  | .system _ => return none
  | e => throw e

/-- Reads the words in front of the command, and checks that a configuration file is there. -/
def readCommon (words : List Text) : Stage Words := do
  if words.isEmpty then finish (.misused .nothing)
  let w ← unlessMisused (commonGrammar.read words)
  answerQuestions w
  if let some name := w.value? .config then
    match ← ExceptT.lift (nodeAt? name) with
    | none => finish (.misused (.noSuchConfig name))
    | some (.directory _) => finish (.misused (.directoryAsConfig name))
    | some _ => return w
  return w

/-- The command that the operands of the common words start with, and the words for it. A name that
starts like an option is read as one before it is refused. -/
def readCommand (operands : List Text) : Stage (Command × List Text) := do
  match operands with
  | [] => finish (.misused .missingCommand)
  | name :: words =>
    match commands.lookup name with
    | some command => return (command, words)
    | none =>
      if name.head? = some '-' then
        let _ ← readCommon operands
      finish (.misused (.unknownCommand name))

/-- The settings of a run: those of a configuration file, or those of everybody. -/
def readSettings (config : Option Text) : Action Settings :=
  match config with
  | some name => Settings.ofFile (.ofText name)
  | none => Settings.common

/-- Reads the words for a command: the path, and whether JSON is asked for. -/
def readTarget (command : Command) (words : List Text) : Stage (Text × Bool) := do
  let w ← unlessMisused (command.grammar.read words)
  answerQuestions w
  match w.operands with
  | [] => finish (.misused .missingPath)
  | path :: more =>
    if (← ExceptT.lift (nodeAt? path)).isNone then finish (.misused (.noSuchPath path))
    if !more.isEmpty then finish (.misused (.unexpected more))
    return (path, w.has .json)

/-- The resolver for a path on the command line. -/
def resolverFor (m : Machine) (settings : Settings) (path : Text) : Stage Resolver := do
  let absolute ← ExceptT.lift (Action.view fun w => w.absolute (.ofText path))
  let file ← ExceptT.lift (BuildFile.find absolute)
  match Resolver.of? file settings.gradle m with
  | some r => return r
  | none =>
    finish (.failing "Not a Gradle project"
      ("No build.gradle or build.gradle.kts at " ++ file.toText))

def perform (r : Resolver) (json : Bool) : Command → Stage Outcome
  | .classpath => do
    let artifacts ← unlessFailed "Resolution Failed" r.classpath
    return if json then .printing (Display.artifactsText artifacts)
      else .showing (Display.classpath r.directory.name artifacts)
  | .buildScript => do
    let jars ← unlessFailed "Resolution Failed" r.buildScriptClasspath
    return if json then .printing (Display.pathsText jars)
      else .showing (Display.buildScriptClasspath r.directory.name jars)
  | .version => do
    let version ← ExceptT.lift r.version
    return .printing (Text.ofInt version)

def stages (m : Machine) (words : List Text) : Stage Outcome := do
  let common ← readCommon words
  let (command, rest) ← readCommand common.operands
  let settings ← unlessFailed "Configuration Error" (readSettings (common.value? .config))
  let level : Option Text := if common.has .verbose then some "DEBUG" else none
  ExceptT.lift (Log.setUp settings.logging level)
  let (path, json) ← readTarget command rest
  let r ← resolverFor m settings path
  perform r json command

/-- Runs the program on the words of its command line. -/
def run (m : Machine) (words : List Text) : Action Outcome := do
  match ← (stages m words).run with
  | .ok o => return o
  | .error o => return o

end ClasspathProbe.CommandLine
