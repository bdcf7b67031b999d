import ClasspathProbe.Text
import ClasspathProbe.World
import ClasspathProbe.Yaml.Document

/-!
# Configuration files

A configuration file holds a mapping whose sections are mappings again. A store keeps what the last
successful reading of a file has given; a reading that fails leaves it as it was.
-/

namespace ClasspathProbe

/-- A store for a configuration: the file it belongs to, and the mapping that was read last. -/
structure Config where
  path : Option Path := none
  mapping : List (Value × Value) := []

namespace Config

/-- The failure for a file that is not there, and any other failure as it is. -/
def missingError (path : Path) : Failure → Failure
  | .system e =>
    if e.refusal = .noSuchFile then
      .resolution (.configuration ("Configuration file not found: " ++ path.toText)
        (some path.toText) [] (some (.system e)))
    else .system e
  | e => e

def readText (path : Path) : Action Text := do
  let bytes ←
    Action.recover (Action.ask FileTree.read path.toText) fun e => throw (missingError path e)
  match Utf8.decodeStrict bytes with
  | .ok s => return Text.oneLineEnd s
  | .error fault => throw (.undecodable (.utf8 fault.inChunk))

/-- The mapping that a text is a document of; a document that says nothing is the empty one. -/
def parse (path : Path) (text : Text) : Except Failure (List (Value × Value)) :=
  match Yaml.load text with
  | .error .malformed =>
    .error (.resolution (.configuration
      ("Invalid YAML in configuration file: " ++ path.toText) (some path.toText)
      [("error", .text ResolutionError.shownFault)] (some .document)))
  | .error (.scalar fault) => .error (.badScalar fault)
  | .ok v =>
    if !v.saysSomething then .ok []
    else
      match v with
      | .mapping ps => .ok ps
      | _ =>
        .error (.resolution (.configuration
          ("Configuration root must be a mapping: " ++ path.toText) (some path.toText) [] none))

def readFile (path : Path) : Action (List (Value × Value)) := do
  let text ← readText path
  match parse path text with
  | .ok ps => return ps
  | .error e => throw e

/-- Reads a file, or the one that the store belongs to, into the store, and gives the mapping. A
store without a file is left as it is. -/
def load (c : Config) (path : Option Path) : Action (Config × List (Value × Value)) := do
  match path.or c.path with
  | none => return (c, [])
  | some p =>
    let ps ← readFile p
    return ({ c with mapping := ps }, ps)

/-- An action that has a store at hand. What it has changed in the store and in the world stays
changed when it fails later. -/
abbrev Use := ExceptT Failure (StateM (Config × World))

/-- An action that leaves the store alone. -/
def Use.ofAction {α : Type} (x : Action α) : Use α := do
  let (c, w) ← get
  let (outcome, w) := Id.run (StateT.run (ExceptT.run x) w)
  set (c, w)
  match outcome with
  | .ok a => return a
  | .error e => throw e

/-- Loading with the store at hand, as `load` does it. -/
def reload (path : Option Path) : Use (List (Value × Value)) := do
  let (c, _) ← get
  match path.or c.path with
  | none => return []
  | some p =>
    let ps ← Use.ofAction (readFile p)
    modify fun (c, w) => ({ c with mapping := ps }, w)
    return ps

/-- A section of the mapping read last; it is empty when it is not there or is no mapping. A
mapping that the whole holds again is the whole. -/
def sectionOf (c : Config) (name : Text) : List (Value × Value) :=
  match Value.find? (.text name) c.mapping with
  | some (.mapping ps) => ps
  | some (.again .mapping) => c.mapping
  | _ => []

end Config

end ClasspathProbe
