import ClasspathProbe.FileTree
import ClasspathProbe.Log.Layout
import ClasspathProbe.Settings

/-!
# The world of an action

What an action can see and change: the tree of files and the working directory, the environment,
the directory for temporary files and the counter behind their names, the settings read once for
everybody, and the log. What a disk does not take and the circumstances of records are part of it
too, and nothing changes them. A failing action leaves what it did before it failed.
-/

namespace ClasspathProbe

/-- Where log records go. -/
inductive Log.Sink where
  /-- A console with colours and columns. -/
  | rich
  /-- A console that shows each record in a layout. -/
  | plain (layout : Text)
  /-- A file that gets the records from a level on. -/
  | file (path : Text) (level : Log.Level)
deriving DecidableEq

/-- The log: the least level let through, where records go, the loggers that were asked for, every
record let through, and what was written on plain consoles. -/
structure Log.State where
  threshold : Log.Level := 20
  sinks : List Log.Sink := []
  known : List Text := []
  records : List Log.Record := []
  console : Text := []
deriving DecidableEq

/-- Something done outside this library: the search for a command, or the run of one in a directory
over the files of that moment. -/
inductive Deed where
  | asked (command : Text)
  | ran (command : List Text) (directory : Path) (files : FileTree)

/-- Why bytes were not copied into a file to the end, and how many of them it holds. -/
structure Shortfall where
  taken : Nat
  why : Refusal

/-- What an action can see and change. -/
structure World where
  tree : FileTree
  /-- The working directory. -/
  here : Location
  /-- The directory for temporary files, once it is fixed. -/
  tempDirectory : Option Text
  /-- The environment variables. -/
  environment : List (Text × Text)
  /-- How many names for temporary files have been tried. -/
  namesTried : Nat := 0
  /-- What stops a copy of bytes into a new file with a name, on the one side or on the other. No two
  files get one name, so what is true of one need not be true of the next. -/
  disk : (name : Text) → (bytes : List UInt8) → Option Shortfall := fun _ _ => none
  /-- A configuration file for everybody, looked for when settings are read. -/
  commonConfig : Option Path := none
  /-- The settings read once for everybody. -/
  cached : Option Settings := none
  log : Log.State := {}
  /-- The time as log records show it. -/
  now : Text := []
  /-- The circumstances that a record is made in. -/
  scene : Log.Record → Log.Scene := fun _ => {}
  /-- What was done outside this library, in order. -/
  deeds : List Deed := []

/-- Something that sees and changes the world, and gives a value or fails. -/
abbrev Action := ExceptT Failure (StateM World)

namespace World

def directory (w : World) : Path := .ofText ('/' :: Text.joined ['/'] w.here)

/-- The absolute form of a path. -/
def absolute (w : World) (p : Path) : Path := w.directory.join p

/-- The absolute form of a name, with the steps `..` taken back. -/
def fullName (w : World) (name : Text) : Text := (w.absolute (.ofText name)).normal.toText

def variableText? (w : World) (name : Text) : Option Text := w.environment.lookup name

/-- The parts of a record as things are. -/
def partsOf (w : World) (r : Log.Record) : List (Text × Log.Layout.Part) :=
  Log.Layout.parts w.now (w.scene r) r

def write (r : Log.Record) (w : World) : Log.Sink → World
  | .rich => w
  | .plain layout =>
    match Log.Layout.render? (w.partsOf r) layout with
    | some line => { w with log.console := w.log.console ++ line ++ ['\n'] }
    | none => w
  | .file path level =>
    if r.level < level then w
    else
      let line := w.now ++ " - " ++ r.logger ++ " - " ++ Log.levelName r.level ++ " - " ++ r.text
      match w.tree.append w.here path (Utf8.encode (line ++ ['\n'])) with
      | .ok tree => { w with tree }
      | .error _ => w

/-- Takes a record: below the threshold, or without any weight, it is dropped; else it goes to every
sink, or, when there is none, warnings and worse go to the console as they are. -/
def take (w : World) (r : Log.Record) : World :=
  if r.level ≤ 0 || r.level < w.log.threshold then w
  else
    let w := { w with log.records := w.log.records ++ [r] }
    if w.log.sinks.isEmpty then
      if r.level < Log.warning then w
      else { w with log.console := w.log.console ++ r.text ++ ['\n'] }
    else w.log.sinks.foldl (write r) w

end World

namespace Action

/-- The part of the world that a function picks. -/
def view {α : Type} (f : World → α) : Action α := do return f (← get)

/-- Gives a record to the log. -/
def log (logger : Text) (level : Log.Level) (text : Text) : Action Unit :=
  modify fun w => w.take ⟨logger, level, text⟩

/-- A text as a name for the operating system, which the character NUL would cut. -/
def systemName (name : Text) : Action Text :=
  if name.contains '\x00' then throw .embeddedNul else pure name

/-- Asks the tree something about a name; a refusal is about that name. -/
def ask {α : Type} (question : FileTree → Location → Text → Except Refusal α) (name : Text) :
    Action α := do
  let name ← systemName name
  let w ← get
  match question w.tree w.here name with
  | .ok a => return a
  | .error why => throw (.refused why name)

/-- Asks the tree for a test of a name: a name that leads nowhere does not pass. -/
def test (question : FileTree → Location → Text → Except Refusal Bool) (name : Text) :
    Action Bool := do
  if name.contains '\x00' then return false
  let w ← get
  match question w.tree w.here name with
  | .ok b => return b
  | .error why => if why.meansAbsent then return false else throw (.refused why name)

/-- Changes the tree; a refusal is about the name. -/
def change (request : FileTree → Location → Text → Except Refusal FileTree) (name : Text) :
    Action Unit := do
  let name ← systemName name
  let w ← get
  match request w.tree w.here name with
  | .ok tree => set { w with tree }
  | .error why => throw (.refused why name)

def isDirectory (p : Path) : Action Bool := test FileTree.leadsToDirectory p.toText

def isFile (p : Path) : Action Bool := test FileTree.leadsToFile p.toText

def isThere (p : Path) : Action Bool := test (fun t here s => (t.look here s).map fun _ => true)
  p.toText

/-- Goes on after a failure. -/
def recover {α : Type} (x : Action α) (handle : Failure → Action α) : Action α :=
  tryCatch x handle

end Action

end ClasspathProbe
