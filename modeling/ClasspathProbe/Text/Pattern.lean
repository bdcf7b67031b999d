import ClasspathProbe.Text

/-!
# Patterns

A pattern is a row of pieces: fixed texts, characters that may be missing, and runs of characters of
a class, which are captured. It is matched at the start of a text by trying for each piece the
longest way first and giving back as long as the pieces behind it do not match (`match?`), and
everywhere in a text from left to right, no match reaching into the one before it (`findAll`).
-/

namespace ClasspathProbe.Text

/-- A piece of a pattern. -/
inductive Piece where
  /-- A fixed text. -/
  | word (w : Text)
  /-- A character that may be missing. -/
  | maybe (c : Char)
  /-- One or more characters of a class, which are captured. -/
  | run (inside : Char → Bool)

/-- A pattern: its pieces from left to right. -/
abbrev Pattern := List Piece

/-- The longest run of characters of a class, at least one, behind which `next` succeeds, and what
it gives there. -/
def longestRun {α : Type} (inside : Char → Bool) (next : Text → Option α) :
    Text → Option (Text × α)
  | [] => none
  | c :: s =>
    if inside c then
      match longestRun inside next s with
      | some (run, a) => some (c :: run, a)
      | none => (next s).map fun a => ([c], a)
    else none

namespace Pattern

/-- The first way in which a pattern matches at the start of a text: the runs that it captures, and
what is left of the text. -/
def match? : Pattern → Text → Option (List Text × Text)
  | [], s => some ([], s)
  | .word w :: ps, s => (after? w s).bind (match? ps)
  | .maybe c :: ps, s =>
    match (after? [c] s).bind (match? ps) with
    | some m => some m
    | none => match? ps s
  | .run inside :: ps, s =>
    (longestRun inside (match? ps) s).map fun (run, runs, left) => (run :: runs, left)

/-- The captures of all matches of a pattern in a text, behind the next `passed` characters. After
a match the search goes on where the match stops. -/
def findAll (p : Pattern) : (passed : Nat) → Text → List (List Text)
  | _, [] => []
  | passed + 1, _ :: s => findAll p passed s
  | 0, c :: s =>
    match match? p (c :: s) with
    | some (runs, left) => runs :: findAll p (s.length - left.length) s
    | none => findAll p 0 s

end Pattern

end ClasspathProbe.Text
