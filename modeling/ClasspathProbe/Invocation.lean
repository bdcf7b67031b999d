import ClasspathProbe.BuildReport
import ClasspathProbe.Machine

/-!
# Calling the build tool

The command line of a call, the call itself, and what its error stream is turned into.
-/

namespace ClasspathProbe.Invocation

def logger : Text := "src.resolvers.gradle.invoker"

/-- The command line: the executable, each injected script behind its flag, the tasks, and the flag
for a plain console. -/
def commandLine (settings : GradleSettings) (gradle : Path) (scripts : List Path)
    (tasks : List Text) : List Text :=
  gradle.toText :: (scripts.flatMap fun p => ["-I".toList, p.toText]) ++ tasks ++
    [settings.consoleFlag]

/-- The failure of a call, when the operating system refused to start the process. -/
def startError (command : List Text) (directory : Path) (e : Failure) : Failure :=
  let refusal (origin : ResolutionError.Origin) : Failure :=
    .resolution (.invocation ("Failed to start Gradle: " ++ e.message) (some command)
      (some directory.toText) [] (some origin))
  match e with
  | .system s => refusal (.system s)
  | .foreign f => if f.ofSystem then refusal (.foreign f) else e
  | _ => e

/-- Runs a command in a directory and gives what it writes to its two streams. -/
def run (m : Machine) (command : List Text) (directory : Path) : Action (Text × Text) := do
  let w ← get
  set { w with deeds := w.deeds ++ [Deed.ran command directory w.tree] }
  match m.run w command directory with
  | .ok streams => return streams
  | .error e => throw (startError command directory e)

/-- Gives the log the warnings that an error stream gives rise to. -/
def report (errors : Text) : Action Unit :=
  (BuildReport.warnings errors).forM fun text => Action.log logger Log.warning text

end ClasspathProbe.Invocation
