import ClasspathProbe.Refusal
import ClasspathProbe.Text.Utf8

/-!
# File trees

A tree of files, directories and symbolic links, with the rules by which a written path leads to a
place in it: names are looked up one after the other, two dots go to the real parent, a link on the
way is followed, and at most forty links are followed for one path. A path that ends in a slash
must lead to a directory, so it cannot name a file to be made.

A tree is a list of places with what is there.
-/

namespace ClasspathProbe

/-- A place in a tree: the names from the root to it, without dots and links. -/
abbrev Location := List Text

/-- A file: its bytes, whether it may be executed, and when it was changed, in nanoseconds. -/
structure File where
  bytes : List UInt8
  executable : Bool
  modified : Int
deriving DecidableEq

/-- What a place in a tree can hold. -/
inductive Node where
  | file (f : File)
  | directory (modified : Int)
  | link (target : Text)
deriving DecidableEq

/-- A tree of files below the root directory. -/
structure FileTree where
  nodes : List (Location × Node)
deriving DecidableEq

/-- Where a path leads: to a node, or to a free name in a directory. -/
inductive Spot where
  | found (place : Location) (node : Node)
  | free (directory : Location) (name : Text)
deriving DecidableEq

namespace FileTree

/-- What is at a place; the root is always a directory. -/
def node? (t : FileTree) (place : Location) : Option Node :=
  if place = [] then some (.directory 0) else t.nodes.lookup place

/-- A tree without what is at one place. -/
def erase (t : FileTree) (place : Location) : FileTree :=
  ⟨t.nodes.filter fun n => n.1 ≠ place⟩

/-- A tree with a node put at a place. -/
def insert (t : FileTree) (place : Location) (node : Node) : FileTree :=
  ⟨(place, node) :: (t.erase place).nodes⟩

/-- A tree without a place and everything below it. -/
def prune (t : FileTree) (place : Location) : FileTree :=
  ⟨t.nodes.filter fun n => !place.isPrefixOf n.1⟩

/-- The names that lead along a written path; a slash at its end leaves an empty name, which asks
for a directory as a dot would. -/
def steps (path : Text) : List Text :=
  let names := (Text.pieces '/' path).filter (!·.isEmpty)
  if Text.endsWith ['/'] path then names ++ [[]] else names

/-- Where a path starts that is written in a directory. -/
def startOf (path : Text) (here : Location) : Location :=
  if path.head? = some '/' then [] else here

/-- The longest name that a directory holds, in bytes. -/
def longestName : Nat := 255

/-- The longest path that is looked up, in bytes. -/
def longestPath : Nat := 4095

/-- How many links are followed for one path. -/
def mostLinks : Nat := 40

/-- What a path is looked up for. -/
inductive Aim where
  /-- What has this name: a link stays a link. -/
  | entry
  /-- What the path leads to: links are followed. -/
  | target
  /-- A file to write to, which the path leads to and which is made when it is missing. -/
  | output
  /-- A file to be made, whose name must be free. -/
  | newFile
deriving DecidableEq

/-- Whether a link at the end of a path is followed. -/
def Aim.follows (aim : Aim) : Bool := aim = .target || aim = .output

/-- Whether what a path names may have to be made, as a file. -/
def Aim.makes (aim : Aim) : Bool := aim = .output || aim = .newFile

/-- Walks along names from a directory. A link on the way, and one at the end that the aim follows,
is left to `jump`, which gets the place where the link starts to be read and the names still to go.
A name with a slash behind it is no name for a file that may have to be made, whatever is there. -/
def descend (t : FileTree) (aim : Aim) (jump : Location → List Text → Except Refusal Spot) :
    (here : Location) → (names : List Text) → Except Refusal Spot
  | here, [] => .ok (.found here ((t.node? here).getD (.directory 0)))
  | here, name :: rest =>
    if name = [] ∨ name = ['.'] then descend t aim jump here rest
    else if name = ['.', '.'] then descend t aim jump here.dropLast rest
    else if aim.makes ∧ rest = [[]] then .error .isADirectory
    else if longestName < (Utf8.encode name).length then .error .nameTooLong
    else
      match t.node? (here ++ [name]) with
      | none => if rest = [] then .ok (.free here name) else .error .noSuchFile
      | some (.directory _) => descend t aim jump (here ++ [name]) rest
      | some (.file f) =>
        if rest = [] then .ok (.found (here ++ [name]) (.file f)) else .error .notADirectory
      | some (.link target) =>
        if rest = [] ∧ aim.follows = false then .ok (.found (here ++ [name]) (.link target))
        else jump (startOf target here) (steps target ++ rest)

/-- Walks along names from a directory, following at most `links` links. -/
def walk (t : FileTree) (aim : Aim) :
    (links : Nat) → Location → List Text → Except Refusal Spot
  | 0 => descend t aim fun _ _ => .error .tooManyLinks
  | links + 1 => descend t aim (walk t aim links)

/-- Where a path leads that is written in a directory. -/
def locate (t : FileTree) (here : Location) (aim : Aim) (path : Text) : Except Refusal Spot :=
  if path = [] then .error .noSuchFile
  else if longestPath < (Utf8.encode path).length then .error .nameTooLong
  else t.walk aim mostLinks (startOf path here) (steps path)

/-- The node that a path leads to, links followed. -/
def look (t : FileTree) (here : Location) (path : Text) : Except Refusal (Location × Node) := do
  match ← t.locate here .target path with
  | .found place node => return (place, node)
  | .free .. => throw .noSuchFile

/-- The bytes of the file that a path leads to. -/
def read (t : FileTree) (here : Location) (path : Text) : Except Refusal (List UInt8) := do
  match ← t.look here path with
  | (_, .file f) => return f.bytes
  | (_, .directory _) => throw .isADirectory
  | (_, .link _) => throw .noSuchFile

/-- When what a path leads to was changed. -/
def modified (t : FileTree) (here : Location) (path : Text) : Except Refusal Int := do
  match ← t.look here path with
  | (_, .file f) => return f.modified
  | (_, .directory modified) => return modified
  | (_, .link _) => throw .noSuchFile

/-- Whether a path leads to a directory. -/
def leadsToDirectory (t : FileTree) (here : Location) (path : Text) : Except Refusal Bool :=
  (t.look here path).map fun
    | (_, .directory _) => true
    | _ => false

/-- Whether a path leads to a file. -/
def leadsToFile (t : FileTree) (here : Location) (path : Text) : Except Refusal Bool :=
  (t.look here path).map fun
    | (_, .file _) => true
    | _ => false

/-- Whether a path leads to something that may be executed or entered. -/
def permitsExecution (t : FileTree) (here : Location) (path : Text) : Bool :=
  match t.look here path with
  | .ok (_, .file f) => f.executable
  | .ok _ => true
  | .error _ => false

/-- Makes a new empty file where nothing is yet, and gives its place. -/
def createNew (t : FileTree) (here : Location) (path : Text) :
    Except Refusal (Location × FileTree) := do
  match ← t.locate here .newFile path with
  | .found .. => throw .fileExists
  | .free directory name =>
    let place := directory ++ [name]
    return (place, t.insert place (.file ⟨[], false, 0⟩))

/-- Puts bytes after those of the file that a path leads to, which is made when it is not there. -/
def append (t : FileTree) (here : Location) (path : Text) (bytes : List UInt8) :
    Except Refusal FileTree := do
  match ← t.locate here .output path with
  | .found place (.file f) => return t.insert place (.file { f with bytes := f.bytes ++ bytes })
  | .found _ _ => throw .isADirectory
  | .free directory name => return t.insert (directory ++ [name]) (.file ⟨bytes, false, 0⟩)

/-- Removes the file or link that a path names. -/
def unlink (t : FileTree) (here : Location) (path : Text) : Except Refusal FileTree := do
  match ← t.locate here .entry path with
  | .found _ (.directory _) => throw .isADirectory
  | .found place _ => return t.erase place
  | .free .. => throw .noSuchFile

/-- Makes a directory that is not there yet. -/
def makeDirectory (t : FileTree) (here : Location) (path : Text) : Except Refusal FileTree := do
  match ← t.locate here .entry path with
  | .found .. => throw .fileExists
  | .free directory name => return t.insert (directory ++ [name]) (.directory 0)

/-- The places of the files and links directly in a directory, with their names. -/
def namesIn (t : FileTree) (directory : Location) : List Text :=
  t.nodes.filterMap fun (place, node) =>
    match place.getLast?, node with
    | some name, .file _ | some name, .link _ =>
      if place.dropLast = directory then some name else none
    | _, _ => none

end FileTree

end ClasspathProbe
