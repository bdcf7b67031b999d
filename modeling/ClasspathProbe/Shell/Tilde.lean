import ClasspathProbe.FileTree
import ClasspathProbe.Text.Raw

/-!
# Tildes

A tilde at the start of a word, or behind a colon in a value, stands for a home directory: with the
name of an account behind it for the directory of that account, alone for the one of whoever runs
the shell. The name ends at a slash, in a value also at a colon, or with the word.
-/

namespace ClasspathProbe.Shell.Tilde

def listing : Location := ["etc", "passwd"]

/-- The home directory of an account. The list has a line for each with seven entries: the first is
its name, and the last but one is its directory. -/
def home? (t : FileTree) (account : Text) : Option Text :=
  match t.node? listing with
  | some (.file f) =>
    (Text.pieces '\n' (Raw.ofBytes f.bytes)).findSome? fun line =>
      match Text.pieces ':' line with
      | [name, _, _, _, _, home, _] => if name = account then some home else none
      | _ => none
  | _ => none

/-- Where the plain characters of a word stand. -/
structure Place where
  /-- In a word that is cut into fields. -/
  fields : Bool := false
  /-- In an expansion, and cut at blanks. -/
  inside : Bool := false
  /-- At the start, where a tilde counts. -/
  start : Bool := true
  /-- In a value, where a tilde counts behind colons. -/
  colons : Bool := false

/-- A piece of plain characters: some that stand for themselves, or a tilde with the name of an
account, which may be empty. -/
inductive Piece where
  | text (s : Text)
  | home (account : Text)

/-- The pieces of plain characters. A name that goes up to their end is one only if the word has
`ended` there. -/
def pieces (ended : Bool) (place : Place) : Text → List Piece
  | [] => []
  | c :: s =>
    if place.start && c = '~' then
      let name := s.takeWhile fun d => d ≠ '/' && !(place.colons && d = ':')
      let rest := s.drop name.length
      if rest.isEmpty && !ended then [.text (c :: s)]
      else .home name :: pieces ended { place with start := false } rest
    else .text [c] :: pieces ended { place with start := place.colons && c = ':' } s
termination_by s => s.length
decreasing_by all_goals grind

end ClasspathProbe.Shell.Tilde
