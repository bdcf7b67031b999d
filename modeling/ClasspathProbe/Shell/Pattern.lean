import ClasspathProbe.FileTree
import ClasspathProbe.Shell.Glyph
import ClasspathProbe.Text.Raw

/-!
# Shell patterns

Patterns with stars, question marks and brackets, which match texts and the names of files. A
pattern comes from an expanded word.
-/

namespace ClasspathProbe.Shell

/-- What stands between brackets in a pattern: single characters and ranges. -/
structure Brackets where
  negated : Bool
  ranges : List (Char × Char)
deriving DecidableEq

/-- A step of a pattern. -/
inductive Pattern.Step where
  | one (c : Char)
  | any
  | star
  | brackets (b : Brackets)
deriving DecidableEq

/-- A pattern, as its steps. -/
abbrev Pattern := List Pattern.Step

/-- Whether a character is among those in brackets. -/
def Brackets.holds (b : Brackets) (c : Char) : Bool :=
  (b.ranges.any fun (low, high) => low ≤ c && c ≤ high) != b.negated

namespace Pattern

/-- The characters of the classes that have a name. -/
def className? (name : Text) : Option (List (Char × Char)) :=
  if name = "digit".toList then some [('0', '9')]
  else if name = "lower".toList then some [('a', 'z')]
  else if name = "upper".toList then some [('A', 'Z')]
  else if name = "alpha".toList then some [('a', 'z'), ('A', 'Z')]
  else if name = "alnum".toList then some [('a', 'z'), ('A', 'Z'), ('0', '9')]
  else if name = "xdigit".toList then some [('a', 'f'), ('A', 'F'), ('0', '9')]
  else if name = "space".toList then some [(' ', ' '), ('\t', '\r')]
  else if name = "blank".toList then some [(' ', ' '), ('\t', '\t')]
  else if name = "punct".toList then some [('!', '/'), (':', '@'), ('[', '\x60'), ('\x7b', '~')]
  else none

/-- Reads what stands between brackets, up to the closing one; `first` holds for the place where a
closing bracket stands for itself. -/
def readRanges : (fuel : Nat) → (first : Bool) → List Glyph →
    Option (List (Char × Char) × List Glyph)
  | 0, _, _ => none
  | fuel + 1, first, gs =>
    match gs with
    | [] => none
    | g :: gs =>
      if g.special? = some ']' && !first then some ([], gs)
      else
        let named? :=
          if g.special? = some '[' && (gs.head?.bind Glyph.special?) = some ':' then
            match Text.cut? ":]" (Glyph.text gs.tail) with
            | some (name, _) => (className? name).map fun rs => (rs, gs.drop (name.length + 3))
            | none => none
          else none
        match named? with
        | some (rs, rest) => do
          let (more, rest) ← readRanges fuel false rest
          return (rs ++ more, rest)
        | none => do
          let low ← g.char?
          match gs with
          | dash :: high :: rest =>
            if dash.special? = some '-' && high.special? ≠ some ']' then do
              let high ← high.char?
              let (more, rest) ← readRanges fuel false rest
              return ((low, high) :: more, rest)
            else do
              let (more, rest) ← readRanges fuel false gs
              return ((low, low) :: more, rest)
          | _ => do
            let (more, rest) ← readRanges fuel false gs
            return ((low, low) :: more, rest)

/-- The pattern that glyphs write; a bracket that is not closed stands for itself. -/
def ofGlyphs : (fuel : Nat) → List Glyph → Pattern
  | 0, _ => []
  | _, [] => []
  | fuel + 1, g :: gs =>
    match g.special? with
    | some '*' => .star :: ofGlyphs fuel gs
    | some '?' => .any :: ofGlyphs fuel gs
    | some '[' =>
      let (negated, inside) :=
        match gs with
        | n :: r => if n.special? = some '!' then (true, r) else (false, gs)
        | [] => (false, gs)
      match readRanges (inside.length + 1) true inside with
      | some (ranges, rest) => .brackets ⟨negated, ranges⟩ :: ofGlyphs fuel rest
      | none => .one '[' :: ofGlyphs fuel gs
    | _ =>
      match g.char? with
      | some c => .one c :: ofGlyphs fuel gs
      | none => ofGlyphs fuel gs

/-- The characters that keep what stands for themselves in quotes when a backslash comes before the
quotes. -/
def marked : Text := "!*?[=~:/-]\\"

/-- The characters among glyphs. A backslash that came from an expansion lets the one behind it
stand for itself, and is left out. But before a character that had a backslash itself, or a marked
one in quotes, it is the backslash from the expansion that stands for itself. -/
def characters (escaping quoting : Bool) : List Glyph → List Glyph
  | [] => if escaping then [.fixed '\\'] else []
  | .quotes :: gs => characters escaping true gs
  | .cut :: gs | .edge _ :: gs => characters escaping quoting gs
  | .fixed c :: gs =>
    if escaping && (!quoting || marked.contains c) then
      if c = '\\' then .fixed '\\' :: characters true false gs
      else .fixed '\\' :: .active c :: characters false false gs
    else .fixed c :: characters false false gs
  | g :: gs =>
    let c := g.char?.getD ' '
    if escaping then .fixed c :: characters false false gs
    else if c = '\\' then characters true false gs
    else g :: characters false false gs

/-- The pattern of an expanded word that is not cut into fields. -/
def ofWord (gs : List Glyph) : Pattern := ofGlyphs (gs.length + 2) (characters false false gs)

/-- Whether something holds of a text or of an end of it. -/
def anySuffix (p : Text → Bool) : Text → Bool
  | [] => p []
  | c :: s => p (c :: s) || anySuffix p s

def accepts : Pattern → Text → Bool
  | [], s => s.isEmpty
  | .star :: p, s => anySuffix (accepts p) s
  | .any :: p, s => s.head?.isSome && accepts p s.tail
  | .one c :: p, s => s.head? = some c && accepts p s.tail
  | .brackets b :: p, s => s.head?.any b.holds && accepts p s.tail

/-- A text without the piece at its start that a pattern matches. -/
def trimStart (p : Pattern) (longest : Bool) (s : Text) : Text :=
  let places := List.range (s.length + 1)
  let found := (if longest then places.reverse else places).find? fun n => p.accepts (s.take n)
  s.drop (found.getD 0)

/-- A text without the piece at its end that a pattern matches. -/
def trimEnd (p : Pattern) (longest : Bool) (s : Text) : Text :=
  let places := List.range (s.length + 1)
  let found := (if longest then places else places.reverse).find? fun n => p.accepts (s.drop n)
  s.take (found.getD s.length)

/-! ## Names of files -/

/-- Whether a character makes a word a pattern. -/
def isSpecial (g : Glyph) : Bool :=
  match g.special? with
  | some c => c = '*' || c = '?' || c = '['
  | none => false

def segments : List Glyph → List (List Glyph)
  | [] => [[]]
  | g :: gs =>
    if g.char? = some '/' then [] :: segments gs
    else
      match segments gs with
      | [] => [[g]]
      | p :: ps => (g :: p) :: ps

def namesIn (t : FileTree) (directory : Location) : List Text :=
  let names := t.nodes.filterMap fun (place, _) =>
    match place.getLast? with
    | some name => if place.dropLast = directory then some name else none
    | none => none
  (names.map Raw.encode).mergeSort Text.le

/-- The paths that segments match, each after the text that leads there. -/
def matching (t : FileTree) (here : Location) : List (List Glyph) → (lead : Text) → List Text
  | [], lead => [lead]
  | segment :: rest, lead =>
    let join (name : Text) : Text := if rest.isEmpty then lead ++ name else lead ++ name ++ ['/']
    let isThere (path : Text) : Bool :=
      match t.locate here (if rest.isEmpty then .entry else .target) (Raw.decode path) with
      | .ok (.found ..) => true
      | _ => false
    if segment.any isSpecial then
      let base := if lead.isEmpty then ['.'] else lead
      match t.look here (Raw.decode base) with
      | .ok (directory, .directory _) =>
        let pattern := ofWord segment
        let dotted := (Glyph.text segment).head? = some '.'
        let names := (if dotted then [['.'], ['.', '.']] else []) ++ namesIn t directory
        let fitting := names.filter fun name =>
          (dotted || name.head? ≠ some '.') && pattern.accepts name && isThere (join name)
        fitting.flatMap fun name => matching t here rest (join name)
      | _ => []
    else
      let path := join (Glyph.text segment)
      if rest.isEmpty && !path.isEmpty && !isThere path then [] else matching t here rest path

/-- The paths that an expanded word matches, or the word itself when it is no pattern or matches
nothing. -/
def paths (t : FileTree) (here : Location) (gs : List Glyph) : List Text :=
  let escaped := characters false false gs
  if escaped.any isSpecial then
    let found := matching t here (segments escaped) []
    if found.isEmpty then [Glyph.text gs] else found
  else [Glyph.text gs]

end Pattern

end ClasspathProbe.Shell
