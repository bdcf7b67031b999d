import ClasspathProbe.Text

/-!
# Expanded words

The characters of a word after its expansions, each of which knows whether it was quoted and whether
it came from an expansion, and the fields that such a word is cut into.
-/

namespace ClasspathProbe.Shell

/-- A character of an expanded word. -/
inductive Glyph where
  /-- Stands for itself whatever it is. -/
  | fixed (c : Char)
  /-- May be special in a pattern. -/
  | active (c : Char)
  /-- Came from an expansion: may be special in a pattern, and words are cut there. The character
  zero, which no value has, is the end of an argument. -/
  | loose (c : Char)
  /-- As `loose`, but a blank is a separator like any other. -/
  | firm (c : Char)
  /-- The place of quotes, which keeps an empty word. -/
  | quotes
  /-- The end of a word, whatever its characters. -/
  | cut
  /-- The end of what an expansion gave that is cut into words, or of all arguments in quotes. -/
  | edge (ofArguments : Bool)
deriving DecidableEq

namespace Glyph

/-- The end of an argument where words are cut. -/
def gap : Glyph := .loose '\x00'

/-- The character, if it is one. -/
def char? : Glyph → Option Char
  | .fixed c | .active c | .loose c | .firm c => some c
  | .quotes | .cut | .edge _ => none

/-- The character, if it may be special in a pattern. -/
def special? : Glyph → Option Char
  | .active c | .loose c | .firm c => some c
  | _ => none

def text (gs : List Glyph) : Text := gs.filterMap char?

/-- Glyphs that are not cut into fields: the first separator stands between words. -/
def joined (separators : Text) (gs : List Glyph) : List Glyph :=
  gs.flatMap fun g =>
    if g = .cut then (separators.take 1).map .fixed
    else if g = gap then (separators.take 1).map .loose
    else [g]

/-- The characters of glyphs that are not cut into fields. -/
def line (separators : Text) (gs : List Glyph) : Text := text (joined separators gs)

/-- Glyphs ready to be cut into fields. In what an expansion gave that comes next after all
arguments in quotes, blanks separate as other characters do. -/
def firmed (after : Bool) : List Glyph → List Glyph
  | [] => []
  | .edge ofArguments :: gs => .edge ofArguments :: firmed ofArguments gs
  | .loose c :: gs => (if after then .firm c else .loose c) :: firmed after gs
  | g :: gs => g :: firmed after gs

def isSeparator (separators : Text) (c : Char) : Bool := c = '\x00' || separators.contains c

/-- Whether words are cut at a glyph, with these separators. -/
def separates (separators : Text) : Glyph → Bool
  | .loose c | .firm c => isSeparator separators c
  | _ => false

/-- Whether a glyph is a blank that words are cut at. -/
def isBlank (separators : Text) : Glyph → Bool
  | .loose c => isSeparator separators c && (c = '\x00' || c = ' ' || c = '\t' || c = '\n')
  | _ => false

/-- Glyphs without the separator at their start: blanks, with at most one other separator among
them. The flag says whether there is that other one. -/
def afterSeparator (separators : Text) (gs : List Glyph) : List Glyph × Bool :=
  let rest := gs.dropWhile (isBlank separators)
  match rest with
  | g :: after =>
    if g.separates separators then (after.dropWhile (isBlank separators), true) else (rest, false)
  | [] => ([], false)

/-- The first field of glyphs and what follows its separator. -/
def firstField (separators : Text) (gs : List Glyph) : Option (List Glyph) × List Glyph :=
  let gs := gs.dropWhile (isBlank separators)
  let field := gs.takeWhile fun g => !g.separates separators
  let (rest, other) := afterSeparator separators (gs.drop field.length)
  (if field.isEmpty && !other then none else some field, rest)

/-- The fields of glyphs, of which the first has begun with some, last first. Blanks at the start of
a field do not count, and neither do blanks behind separating `blanks`, nor one other separator
there, up to the end of the expansion. What is left behind all separators is a field if it is not
empty, or else if `kept`. -/
def cutFields (separators : Text) (kept blanks : Bool) (field : List Glyph) :
    List Glyph → List (List Glyph)
  | [] => if field.isEmpty && !kept then [] else [field.reverse]
  | .edge _ :: gs => cutFields separators kept false field gs
  | .cut :: gs => field.reverse :: cutFields separators kept false [] gs
  | g :: gs =>
    let blank := g.isBlank separators
    if !g.separates separators then cutFields separators kept false (g :: field) gs
    else if blanks then cutFields separators kept blank [] gs
    else if field.isEmpty && blank then cutFields separators kept false [] gs
    else field.reverse :: cutFields separators kept blank [] gs

/-- The fields of a word. An empty last field is kept when the last thing that was expanded is all
arguments in quotes. -/
def fields (separators : Text) (gs : List Glyph) : List (List Glyph) :=
  let isEdge : Glyph → Bool
    | .edge _ => true
    | _ => false
  let kept := (gs.filter isEdge).getLast? = some (.edge true)
  cutFields separators kept false [] (firmed false gs)

/-- How many glyphs of a last field count, `n` of which come before these. Separators at the end do
not: blanks, or the one separator that there is. What stands for itself does not count behind them.
The flags say whether there was a separator, and whether it was just blanks; `end?` is where the
field ends if only separators follow. -/
def lastLength (separators : Text) (any blanks : Bool) (end? : Option Nat) (n : Nat) :
    List Glyph → Nat
  | [] => end?.getD n
  | .loose c :: gs =>
    let g : Glyph := .loose c
    if !g.separates separators then lastLength separators any false none (n + 1) gs
    else if !any then lastLength separators true (g.isBlank separators) (some n) (n + 1) gs
    else if g.isBlank separators then
      lastLength separators true blanks (end?.or (some n)) (n + 1) gs
    else lastLength separators true false (if blanks then end? else none) (n + 1) gs
  | _ :: gs => lastLength separators any false end? (n + 1) gs

/-- The first fields of glyphs, at most `count`; the last of them takes up all that is left, without
the separators at its end. -/
def leadingFields (separators : Text) : (count : Nat) → List Glyph → List (List Glyph)
  | 0, _ => []
  | 1, gs =>
    let gs := gs.dropWhile (isBlank separators)
    let kept := gs.take (lastLength separators false false none 0 gs)
    if kept.isEmpty then [] else [kept]
  | count + 1, gs =>
    if (gs.dropWhile (isBlank separators)).isEmpty then []
    else
      let (field?, rest) := firstField separators gs
      field?.toList ++ leadingFields separators count rest

end Glyph

end ClasspathProbe.Shell
