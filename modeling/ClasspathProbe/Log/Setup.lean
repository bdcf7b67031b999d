import ClasspathProbe.Settings.Sources

/-!
# Setting up the log

A set-up replaces everything that was set up before: the threshold, the console, and the file that
records are added to, if there is one. A logger that is asked for before anything has been set up
sets the log up from the settings of everybody.
-/

namespace ClasspathProbe.Log

/-- Accepts a failure to make a directory that is there. -/
def settle (p : Path) (e : Failure) : Action Unit := do
  match e with
  | .system _ => if ← Action.isDirectory p then return () else throw e
  | _ => throw e

/-- Makes a directory and those above it, in at most as many steps as the path has parts; one that
is there already is fine. -/
def makeDirectories : (depth : Nat) → Path → Action Unit
  | 0, p =>
    Action.recover (Action.change FileTree.makeDirectory p.toText) fun
      | .system (.refused .noSuchFile name) => throw (.system (.refused .noSuchFile name))
      | e => settle p e
  | depth + 1, p =>
    Action.recover (Action.change FileTree.makeDirectory p.toText) fun
      | .system (.refused .noSuchFile name) => do
        if p.parts.isEmpty then throw (.system (.refused .noSuchFile name))
        makeDirectories depth p.parent
        Action.recover (Action.change FileTree.makeDirectory p.toText) (settle p)
      | e => settle p e

/-- Opens the file that records are added to, making the directories above it. -/
def openFile (file : Path) : Action Text := do
  makeDirectories (file.parent.parts.length + 1) file.parent
  let w ← get
  let name := (w.absolute file).normal.toText
  Action.change (fun t here s => t.append here s []) name
  return name

/-- Gives the log another threshold and no sinks. -/
def reset (level : Level) : Action Unit :=
  modify fun w => { w with log.threshold := level, log.sinks := [] }

def addSink (sink : Sink) : Action Unit :=
  modify fun w => { w with log.sinks := w.log.sinks ++ [sink] }

/-- Sets the log up from settings; a level that is not empty takes the place of theirs. -/
def setUp (settings : LoggingSettings) (level : Option Text) : Action Unit := do
  let name :=
    match level with
    | none | some [] => settings.level
    | some name => name
  let level ← Action.ofExcept (readLevel name)
  reset level
  if settings.useRich then addSink .rich
  else addSink (.plain (← Action.ofExcept (Layout.check settings.format)))
  if let some file := settings.file then
    addSink (.file (← openFile file) level)

/-- Sets the log up from given settings, or those of everybody. -/
def setUpFrom (settings : Option LoggingSettings) (level : Option Text) : Action Unit := do
  match settings with
  | some s => setUp s level
  | none => setUp (← Settings.common).logging level

/-- Asks for a logger by its name. -/
def logger (name : Text) : Action Unit := do
  let w ← get
  if !w.log.known.contains name then
    set { w with log.known := name :: w.log.known }
    if w.log.sinks.isEmpty then setUpFrom none none

/-- Gives a logger a record; the logger without a name is the root. -/
def record (name : Text) (level : Level) (text : Text) : Action Unit := do
  logger name
  Action.log (if name.isEmpty then "root" else name) level text

end ClasspathProbe.Log
