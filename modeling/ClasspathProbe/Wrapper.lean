import ClasspathProbe.Machine

/-!
# Wrappers

A project brings its build tool along as a wrapper: an executable file in the project's directory or
in one above it. The nearest wrapper is the one to run; without any, the command is searched for.
-/

namespace ClasspathProbe.Wrapper

def logger : Text := "src.resolvers.gradle.locator"

/-- The name of wrappers on a system. -/
def name (isWindows : Bool) (settings : GradleSettings) : Text :=
  if isWindows then settings.windowsWrapper else settings.wrapper

/-- Whether a path leads to an executable file. -/
def isWrapper (p : Path) : Action Bool := do
  if ← Action.isFile p then Action.view fun w => w.tree.permitsExecution w.here p.toText
  else return false

/-- The first of some paths that leads to an executable file. -/
def firstWrapper? : List Path → Action (Option Path)
  | [] => return none
  | p :: ps => do if ← isWrapper p then return some p else firstWrapper? ps

/-- The places where a wrapper of a workspace can be, the nearest first. -/
def candidates (w : World) (name : Text) (workspace : Path) : List Path :=
  (w.absolute workspace).chain.map fun directory => directory.join (.ofText name)

/-- Searches for a command, which is put on record. -/
def askWhich (m : Machine) (command : Text) : Action (Option Path) := do
  let w ← get
  set { w with deeds := w.deeds ++ [Deed.asked command] }
  return m.which w command

/-- The executable that runs the build of a workspace. -/
def find (m : Machine) (settings : GradleSettings) (workspace : Path) : Action Path := do
  let places ← Action.view fun w => candidates w (name m.isWindows settings) workspace
  match ← firstWrapper? places with
  | some wrapper =>
    Action.log logger Log.debug ("Using Gradle wrapper " ++ wrapper.toText)
    return wrapper
  | none =>
    match ← askWhich m settings.command with
    | some command =>
      Action.log logger Log.debug
        ("Using " ++ settings.command ++ " from PATH: " ++ command.toText)
      return command
    | none =>
      throw (.resolution (.gradleNotFound ("Could not find '" ++ settings.command ++ "' on PATH")
        (some workspace.toText) []))

end ClasspathProbe.Wrapper
