import ClasspathProbe.Text

/-!
# Paths

A path as it is written: where it starts and the names on the way. Reading a text as a path drops
empty parts and single dots, so that differently spelled texts of one path give one value; two dots
stay. Nothing here looks at a file.
-/

namespace ClasspathProbe

namespace Path

/-- Where a path starts: in the working directory, at the root, or at the root written with exactly
two slashes, which is kept apart. -/
inductive Root where
  | here
  | slash
  | twoSlashes
deriving DecidableEq, Repr

/-- Whether a text can be a part of a path. -/
def IsPart (p : Text) : Prop := p ≠ [] ∧ p ≠ ['.'] ∧ '/' ∉ p

instance (p : Text) : Decidable (IsPart p) := inferInstanceAs (Decidable (_ ∧ _))

end Path

/-- A path: its start and its parts, none of which is empty, a single dot, or holds a slash. -/
structure Path where
  root : Path.Root
  parts : List Text
  isPart : ∀ p ∈ parts, Path.IsPart p
deriving DecidableEq

namespace Path

/-- The start that the slashes in front of a text say. -/
def rootOf (s : Text) : Root :=
  match (s.takeWhile (· = '/')).length with
  | 0 => .here
  | 2 => .twoSlashes
  | _ => .slash

/-- The parts of a text between slashes that count. -/
def partsOf (s : Text) : List Text := (Text.pieces '/' s).filter fun p => decide (IsPart p)

def ofText (s : Text) : Path :=
  ⟨rootOf s, partsOf s, fun _ h => of_decide_eq_true (List.mem_filter.1 h).2⟩

instance : Coe Text Path := ⟨ofText⟩

instance : Inhabited Path := ⟨⟨.here, [], by simp⟩⟩

def Root.toText : Root → Text
  | .here => []
  | .slash => ['/']
  | .twoSlashes => ['/', '/']

/-- The text of a path; a path without start and parts is a single dot. -/
def toText (p : Path) : Text :=
  if p.root = .here ∧ p.parts = [] then ['.'] else p.root.toText ++ Text.joined ['/'] p.parts

def isAbsolute (p : Path) : Bool := p.root ≠ .here

/-- The last part, or nothing when there is none. -/
def name (p : Path) : Text := p.parts.getLast?.getD []

/-- The path without its last `k` parts. -/
def above (p : Path) (k : Nat) : Path :=
  ⟨p.root, p.parts.take (p.parts.length - k), fun q h => p.isPart q (List.mem_of_mem_take h)⟩

/-- The path without its last part; a path without parts stays. -/
def parent (p : Path) : Path := p.above 1

/-- A path with every path above it, from the path itself to its start. -/
def chain (p : Path) : List Path := (List.range (p.parts.length + 1)).map p.above

/-- The second path as seen from the first: an absolute one replaces it. -/
def join (p q : Path) : Path :=
  if q.isAbsolute then q
  else
    ⟨p.root, p.parts ++ q.parts, fun r h => (List.mem_append.1 h).elim (p.isPart r) (q.isPart r)⟩

/-- The text of a name in a directory, which is the name itself when that is absolute. -/
def inDirectory (directory name : Text) : Text :=
  if name.head? = some '/' || directory.isEmpty then name
  else if Text.endsWith ['/'] directory then directory ++ name
  else directory ++ '/' :: name

/-- A path with the steps `..` taken back as written, which is right where no symbolic link is on
the way. -/
def normal (p : Path) : Path :=
  let step (kept : List Text) (part : Text) : List Text :=
    if part = ['.', '.'] then
      match kept with
      | [] => if p.isAbsolute then [] else [part]
      | last :: more => if last = ['.', '.'] then part :: kept else more
    else part :: kept
  let kept := (p.parts.foldl step []).reverse
  ofText (p.root.toText ++ Text.joined ['/'] kept)

end Path

end ClasspathProbe
