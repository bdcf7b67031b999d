import ClasspathProbe.Probe
import ClasspathProbe.World.TempDirectory

/-!
# Probe scripts as files

A build reads an injected script from a file. A script is copied into a new temporary file, whose
name no other file has, for as long as it is needed: `withScripts` runs a body over the files of
some scripts and removes them when the body is done, however it ends.
-/

namespace ClasspathProbe.Probe

def logger : Text := "src.resolvers.gradle.scripts"

/-- How many names are tried for one temporary file. -/
def mostNames : Nat := 238328

/-- The name for a temporary file that is tried as the `n`-th. -/
def tempName (settings : GradleSettings) (directory : Text) (n : Nat) : Text :=
  Path.inDirectory directory
    (settings.tempPrefix ++ Text.padStart '0' 8 (Text.ofNat n) ++ settings.tempSuffix)

/-- Makes a new empty file under the first name in a directory that is free, and gives the name and
the place. -/
def createTemp (settings : GradleSettings) (directory : Text) :
    (tries : Nat) → Action (Text × Location)
  | 0 => throw (.system .noUsableName)
  | tries + 1 => do
    modify fun w => { w with namesTried := w.namesTried + 1 }
    let w ← get
    let name := tempName settings directory w.namesTried
    if name.contains '\x00' then throw .embeddedNul
    match w.tree.createNew w.here name with
    | .ok (place, tree) =>
      set { w with tree }
      return (name, place)
    | .error .fileExists => createTemp settings directory tries
    | .error why => throw (.refused why name)

/-- Makes a new empty file in the directory for temporary files. -/
def makeTemp (settings : GradleSettings) : Action (Text × Location) := do
  let directory ← Action.fixTempDirectory
  createTemp settings directory mostNames

/-- The bytes of a script of this library, or of any file when the name is an absolute path. -/
def readScript (name : Text) : Action (List UInt8) := do
  let path := Path.ofText name
  if path.isAbsolute then Action.ask FileTree.read path.toText
  else
    if name.contains '\x00' then throw .embeddedNul
    match resources.read directory path.toText with
    | .ok bytes => return bytes
    | .error why => throw (.refused why ((Path.ofText shownDirectory).join path).toText)

/-- Removes a file that may be gone already. -/
def remove (p : Path) : Action Unit :=
  Action.recover (Action.change FileTree.unlink p.toText) fun
    | .system (.refused .noSuchFile _) => pure ()
    | e => throw e

/-- The failure to put a script into a file, when the operating system refused something. -/
def materializeError (name : Text) : Failure → Failure
  | .system e =>
    .resolution (.probeScript ("Failed to materialize probe script: " ++ e.message) (some name) []
      (some (.system e)))
  | e => e

/-- Copies a script into the new file with a name at a place. When the copy is stopped, the file
holds the bytes from before that. -/
def copy (name file : Text) (place : Location) : Action Unit := do
  let bytes ← readScript name
  let w ← get
  match w.disk file bytes with
  | none => set { w with tree := w.tree.insert place (.file ⟨bytes, false, 0⟩) }
  | some short =>
    set { w with tree := w.tree.insert place (.file ⟨bytes.take short.taken, false, 0⟩) }
    throw (.system (.stopped short.why))

/-- Gives a script up that was not copied into its file. The file is removed if it was the operating
system that refused. -/
def giveUp (name : Text) (file : Path) (e : Failure) : Action Unit := do
  if let .system _ := e then remove file
  throw (materializeError name e)

/-- Copies a script into a new temporary file, whose path is given. When that does not succeed
because the operating system refuses, no file is left. -/
def materialize (settings : GradleSettings) (name : Text) : Action Path := do
  let (file, place) ←
    Action.recover (makeTemp settings) fun e => throw (materializeError name e)
  let path ← Action.view fun w => w.absolute (.ofText file)
  Action.log logger Log.debug ("Creating temporary gradle file " ++ path.toText)
  Action.recover (copy name file place) (giveUp name path)
  return path

/-- Does something, then cleans up however that ended; a failure of the cleaning is the one that
counts. -/
def ensuring {α : Type} (x : Action α) (cleanUp : Action Unit) : Action α := do
  let outcome ← Action.recover (Except.ok <$> x) fun e => pure (Except.error e)
  cleanUp
  match outcome with
  | .ok a => return a
  | .error e => throw e

/-- Copies scripts into temporary files after those in `ready`, runs a body over the paths of all,
and removes the files again, the last one first. -/
def withScriptsAfter {α : Type} (settings : GradleSettings) (ready : List Path) :
    (names : List Text) → (body : List Path → Action α) → Action α
  | [], body => body ready
  | name :: names, body => do
    let path ← materialize settings name
    ensuring (withScriptsAfter settings (ready ++ [path]) names body) (remove path)

/-- Runs a body over the paths of temporary files with scripts, which are there as long as it
runs. -/
def withScripts {α : Type} (settings : GradleSettings) (names : List Text)
    (body : List Path → Action α) : Action α :=
  withScriptsAfter settings [] names body

end ClasspathProbe.Probe
