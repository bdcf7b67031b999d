import ClasspathProbe.CommandLine
import ClasspathProbe.Display.Plain
import ClasspathProbe.World.Edit

/-!
# The program

Runs the command line over the files of the machine. The build tool itself is run by the caller:
what it writes when it runs with a probe script is read from standard input, and is asked for only
when a command needs it.

A run is a function of the world it starts in, so it is rehearsed first: a rehearsal shows whether
the output of the build is needed and which files the log is written to, and the run itself starts
in a world that has them.
-/

namespace ClasspathProbe.Main

/-- The environment variables that a run can see. -/
def variableNames : List String :=
  ["PATH", "TMPDIR", "TEMP", "TMP", "CLASSPATH_LOGGING", "CLASSPATH_LOGGING_LEVEL",
   "CLASSPATH_LOGGING_FORMAT", "CLASSPATH_LOGGING_FILE", "CLASSPATH_LOGGING_USE_RICH",
   "CLASSPATH_GRADLE", "CLASSPATH_GRADLE_COMMAND", "CLASSPATH_GRADLE_WRAPPER",
   "CLASSPATH_GRADLE_WINDOWS_WRAPPER", "CLASSPATH_GRADLE_CONSOLE_FLAG",
   "CLASSPATH_GRADLE_TEMP_PREFIX", "CLASSPATH_GRADLE_TEMP_SUFFIX"]

def environment : IO (List (Text × Text)) :=
  variableNames.filterMapM fun name => do
    return (← IO.getEnv name).map fun value => (name.toList, value.toList)

/-- A world with what is at a path, if there is anything. Every file counts as executable. -/
def withPath (w : World) (path : Path) : IO World := do
  let name := (w.absolute path).toText
  let place := (← IO.currentDir) / String.ofList name
  try
    let what ← place.metadata
    let time := what.modified.sec * 1000000000 + what.modified.nsec.toNat
    match what.type with
    | .dir => return w.edit fun t => (t.withDirectories name true).touch name time
    | .file =>
      let bytes ← IO.FS.readBinFile place
      return w.edit fun t => t.put name (.file ⟨bytes.toList, true, time⟩)
    | _ => return w
  catch _ => return w

/-- A world with what is at some paths. -/
def withPaths (w : World) (paths : List Path) : IO World := paths.foldlM withPath w

/-- The paths that the words of a command line can be about. -/
def pathsIn (words : List Text) : List Path :=
  words.flatMap fun word =>
    let names := [some word, (Text.cut? ['='] word).map (·.2), Text.after? "-c" word]
    (names.filterMap id).flatMap fun name =>
      let path := Path.ofText name
      [path, path.join (.ofText Resolver.groovyBuildFile),
        path.join (.ofText Resolver.kotlinBuildFile)]

/-- The world before a run. -/
def start (words : List Text) : IO World := do
  let here := Path.ofText (← IO.currentDir).toString.toList
  let w : World :=
    { tree := ⟨[]⟩, here := here.parts, tempDirectory := none, environment := ← environment,
      now := "-" }
  withPaths w (here :: usualEnvFile :: w.tempCandidates.map Path.ofText ++ pathsIn words)

/-- The machine on which a build has already written its output. -/
def machine (output : Text) : Machine where
  isWindows := false
  which := fun _ command => some (.ofText command)
  run := fun _ _ _ => .ok (output, [])

/-- All that a stream still holds. -/
partial def readAll (input : IO.FS.Stream) (before : Text) : IO Text := do
  let line ← input.getLine
  if line.isEmpty then return before else readAll input (before ++ line.toList)

/-- The artifacts that an output may report. -/
def reported (output : Text) : List Path :=
  match Marker.parse output with
  | .ok artifacts => artifacts.map (·.compiled)
  | .error _ => []

/-- The files that the log is written to. -/
def logFiles (w : World) : List Text :=
  w.log.sinks.filterMap fun
    | .file path _ => some path
    | _ => none

def ranBuild (w : World) : Bool :=
  w.deeds.any fun
    | .ran .. => true
    | .asked _ => false

/-- Writes what the log has got: on a console, and to files. -/
def writeLog (w : World) : IO Unit := do
  let errors ← IO.getStderr
  if w.log.sinks.contains .rich then
    for r in w.log.records do
      errors.putStrLn (String.ofList (Log.levelName r.level ++ ' ' :: r.text))
  else errors.putStr (String.ofList w.log.console)
  for name in logFiles w do
    if let .ok bytes := w.tree.read [] name then
      IO.FS.writeBinFile (String.ofList name) ⟨bytes.toArray⟩

/-- Prints how a run has ended, and gives its status. -/
def report (outcome : Except Failure CommandLine.Outcome) : IO UInt32 := do
  match outcome with
  | .ok (.done status printed shown) =>
    IO.print (String.ofList printed)
    for line in shown.flatMap Item.lines do IO.println (String.ofList line)
    return status.toUInt32
  | .ok (.misused e) =>
    IO.eprintln (String.ofList (e.message?.elim CommandLine.helpLine ("Error: ".toList ++ ·)))
    return 2
  | .error e =>
    IO.eprintln (String.ofList e.message)
    return 1

end ClasspathProbe.Main

open ClasspathProbe in
/-- Runs the program. -/
def main (words : List String) : IO UInt32 := do
  let words := words.map String.toList
  let w ← Main.start words
  let (_, rehearsed) := (CommandLine.run (Main.machine []) words).run w
  let output ← if Main.ranBuild rehearsed then Main.readAll (← IO.getStdin) [] else pure []
  let known := Main.reported output ++ (Main.logFiles rehearsed).map Path.ofText
  let w ← Main.withPaths w known
  let (outcome, after) := (CommandLine.run (Main.machine output) words).run w
  Main.writeLog after
  Main.report outcome
