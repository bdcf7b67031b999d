import ClasspathProbe.Shell.Pattern

/-!
# Trimming all arguments

A use like `"${@%x}"` trims all arguments as one text, in which a character zero stands between
them. No piece goes on behind a zero. In quotes a mark stands in front of each character that could
be special in a pattern. A search for a piece of the first argument goes through that argument. A
search from the end goes through what is kept: the text with its marks or, if there are marks in the
first argument, that argument without them, and in front of it the pattern and the text. At each
place it takes one more character off the end of the text, marked or not, so that with marks in the
arguments what it takes off and what it has found need not be the same.
-/

namespace ClasspathProbe.Shell

/-- A text of which each character may have a mark in front of it. -/
abbrev MarkedText := List (Char × Bool)

namespace MarkedText

/-- The mark, which is marked itself in a text, as are some characters next to it. -/
def mark : Char := '\x81'

/-- A text with its marks. -/
def ofText (quoted : Bool) (s : Text) : MarkedText :=
  s.map fun c => (c, quoted && Pattern.marked.contains c || mark ≤ c && c ≤ '\x88')

/-- The characters alone. -/
def text (s : MarkedText) : Text := s.map (·.1)

/-- The text as it is kept, with marks in front of characters. -/
def kept (s : MarkedText) : Text :=
  s.flatMap fun (c, isMarked) => if isMarked then [mark, c] else [c]

/-- The text up to the first zero. -/
def first (s : MarkedText) : MarkedText := s.takeWhile (·.1 ≠ '\x00')

/-- A text up to a zero. -/
def untilZero (s : Text) : Text := s.takeWhile (· ≠ '\x00')

/-- A glyph of a pattern as it is kept, with a backslash where it stands for itself. -/
def keptGlyph : Glyph → Text
  | .fixed c => if Pattern.marked.contains c then ['\\', c] else [c]
  | g => g.char?.toList

/-- The glyphs of a pattern that take up so many kept characters. -/
def cut : Nat → List Glyph → List Glyph
  | _, [] => []
  | n, g :: gs =>
    let width := (keptGlyph g).length
    if width ≤ n then g :: cut (n - width) gs else if n = 0 then [] else [.fixed '\\']

/-- The text without the piece at its start that a pattern matches. -/
def trimStart (longest : Bool) (pattern : List Glyph) (s : MarkedText) : MarkedText :=
  let p := Pattern.ofWord pattern
  let first := s.first.text
  if longest then
    let width := (pattern.flatMap keptGlyph).length
    let isFound (n : Nat) : Bool :=
      if !s.first.any (·.2) then p.accepts (untilZero (s.kept.take (s.kept.length - n)))
      else if n ≤ first.length then p.accepts (first.take (first.length - n))
      else (Pattern.ofWord (cut (width + first.length + 1 - n) pattern)).accepts first
    match (List.range (s.length + 1)).find? isFound with
    | some n => s.drop (s.length - n)
    | none => s
  else
    match (List.range (first.length + 1)).find? fun n => p.accepts (first.take n) with
    | some n => s.drop n
    | none => s

/-- The text without the piece at its end that a pattern matches, and without all behind it. -/
def trimEnd (longest : Bool) (pattern : List Glyph) (s : MarkedText) : MarkedText :=
  let p := Pattern.ofWord pattern
  let first := s.first.text
  if longest then
    match (List.range (first.length + 1)).find? fun n => p.accepts (first.drop n) with
    | some n => s.take n
    | none => s
  else
    let kept :=
      if s.first.any (·.2) then s.kept ++ '\x00' :: pattern.flatMap keptGlyph ++ '\x00' :: first
      else s.kept
    let isFound (n : Nat) : Bool := p.accepts (untilZero (kept.drop (kept.length - n)))
    match (List.range (s.length + 1)).find? isFound with
    | some n => s.take (s.length - n)
    | none => s

end MarkedText

end ClasspathProbe.Shell
