import ClasspathProbe.Invocation
import ClasspathProbe.Marker
import ClasspathProbe.Probe.Materialize
import ClasspathProbe.Settings.Sources
import ClasspathProbe.Wrapper

/-!
# Resolvers

A resolver belongs to one build file, and to the settings and the machine that it was made with. It
runs a probe in the project's build, reads the marker lines back, and gives the artifacts that a
classpath can hold. The build file of a project is named by its directory or by the build file
itself (`BuildFile.find`).
-/

namespace ClasspathProbe

/-- Resolves what the build of one build file puts on its classpaths. -/
structure Resolver where
  buildFile : Path
  /-- Whether the build scripts have a classpath of their own to be resolved. -/
  kotlinDsl : Bool
  settings : GradleSettings
  machine : Machine

namespace Resolver

def logger : Text := "src.resolvers.gradle.resolver"

/-- The name of a build file in the common dialect. -/
def groovyBuildFile : Text := "build.gradle"

/-- The name of a build file in the typed dialect. -/
def kotlinBuildFile : Text := "build.gradle.kts"

/-- What a resolver calls its kind. -/
def kind : Text := "Gradle"

/-- The resolver for a build file, if the file has the name of one. -/
def of? (file : Path) (settings : GradleSettings) (machine : Machine) : Option Resolver :=
  if file.name = groovyBuildFile then some ⟨file, false, settings, machine⟩
  else if file.name = kotlinBuildFile then some ⟨file, true, settings, machine⟩
  else none

/-- The resolver for a build file, with given settings or those of everybody, which are read only
when the file has the name of one. -/
def make? (file : Path) (settings : Option GradleSettings) (machine : Machine) :
    Action (Option Resolver) :=
  match of? file {} machine with
  | none => return none
  | some r => do return some { r with settings := ← Settings.gradleOr settings }

def directory (r : Resolver) : Path := r.buildFile.parent

/-- A list of texts as messages show it. -/
def shownList (texts : List Text) : Text := (Value.list (texts.map .text)).shown

/-- Whether an artifact is one that a classpath can hold: a jar by name, or a directory. -/
def isUsable (a : Artifact) : Action Bool :=
  if Artifact.isJarName a.compiled.toText then return true else Action.isDirectory a.compiled

/-- The usable ones of some artifacts. -/
def usable : List Artifact → Action (List Artifact)
  | [] => return []
  | a :: as => do
    let keep ← isUsable a
    let rest ← usable as
    return if keep then a :: rest else rest

/-- The logger of what is done with an output. -/
def readerLogger : Text := "src.resolvers.gradle.parser"

def readOutput (output : Text) : Action (List Artifact) := do
  Action.log readerLogger Log.debug output
  match Marker.parse output with
  | .ok artifacts => return artifacts
  | .error e => throw e

/-- Runs a probe in the build of the project: finds the executable, calls it with the script, and
gives what it writes. -/
def call (r : Resolver) (p : Probe) : Action (Text × Text) :=
  Probe.withScripts r.settings [p.scriptName] fun scripts => do
    let gradle ← Wrapper.find r.machine r.settings r.directory
    let command := Invocation.commandLine r.settings gradle scripts [p.task]
    Invocation.run r.machine command r.directory

/-- The usable artifacts that a probe reports. -/
def probe (r : Resolver) (p : Probe) : Action (List Artifact) := do
  Action.log logger Log.info
    ("Resolving dependencies for '" ++ r.directory.name ++ "' through Gradle's CLI using tasks " ++
      shownList [p.task] ++ "...")
  let (output, errors) ← r.call p
  Invocation.report errors
  let artifacts ← readOutput output
  usable artifacts

/-- Puts a success on record, when something was found. -/
def celebrate (r : Resolver) (what : Text) (artifacts : List Artifact) : Action Unit :=
  if artifacts.isEmpty then return ()
  else
    Action.log logger Log.info
      ("Successfully resolved " ++ what ++ " for '" ++ r.directory.name ++ "' using Gradle")

/-- What the project is compiled against. -/
def classpath (r : Resolver) : Action (List Artifact) := do
  let artifacts ← r.probe .project
  r.celebrate "dependencies" artifacts
  return artifacts

/-- The compiled artifacts that the build scripts see; none, without asking, when they are not to
be resolved. -/
def buildScriptClasspath (r : Resolver) : Action (List Path) := do
  if !r.kotlinDsl then return []
  let artifacts ← r.probe .buildScripts
  r.celebrate "build script dependencies" artifacts
  return (artifacts.map (·.compiled)).eraseDups

/-- A number that goes with the build file: when it was changed, in milliseconds, or zero when that
cannot be told. -/
def version (r : Resolver) : Action Int :=
  Action.recover
    (do return Int.fdiv (← Action.ask FileTree.modified r.buildFile.toText) 1000000)
    fun
    | .system _ => return 0
    | e => throw e

end Resolver

/-- What every strategy of resolution says unless it says otherwise: its kind, its build script
classpath and its version. -/
structure Strategy where
  kind : Text := "Unknown"
  buildScriptClasspath : List Path := []
  version : Int := 1

/-- A strategy, which must say how it resolves. -/
def Strategy.of (resolve? : Option (Action (List Artifact))) : Except Failure Strategy :=
  match resolve? with
  | some _ => .ok {}
  | none => .error .incompleteStrategy

namespace BuildFile

/-- The first of some names under which there is anything in a directory. -/
def firstIn? (directory : Path) : List Text → Action (Option Path)
  | [] => return none
  | name :: names => do
    let candidate := directory.join (.ofText name)
    if ← Action.isThere candidate then return some candidate else firstIn? directory names

/-- The build file for a path. A directory stands for the build file in it, the typed dialect first;
any other path stands for itself, and so does a directory without a build file. -/
def find (path : Path) : Action Path := do
  if ← Action.isDirectory path then
    match ← firstIn? path [Resolver.kotlinBuildFile, Resolver.groovyBuildFile] with
    | some file => return file
    | none => return path
  else return path

end BuildFile

end ClasspathProbe
