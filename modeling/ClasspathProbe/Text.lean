/-!
# Text

A text is a list of Unicode characters: everything the library reads, compares and words is one.
Here are the few operations that all other modules share: looking for one text inside another,
cutting at a separator, joining, the decimal digits of a number, white space, and lines.
-/

namespace ClasspathProbe

/-- A text, as the list of its characters. -/
abbrev Text := List Char

instance : Coe String Text := ⟨String.toList⟩

namespace Text

def ofNat (n : Nat) : Text := Nat.toDigits 10 n

/-- The decimal digits of an integer, after a minus sign when it is negative. -/
def ofInt : Int → Text
  | .ofNat n => ofNat n
  | .negSucc n => '-' :: ofNat (n + 1)

/-- What follows `lead` in a text that starts with it. -/
def after? : (lead text : Text) → Option Text
  | [], s => some s
  | _ :: _, [] => none
  | c :: lead, d :: s => if c = d then after? lead s else none

/-- The text before and the text after the first occurrence of `sep`. -/
def cut? (sep : Text) : Text → Option (Text × Text)
  | [] => (after? sep []).map fun r => ([], r)
  | c :: s =>
    match after? sep (c :: s) with
    | some r => some ([], r)
    | none => (cut? sep s).map fun (l, r) => (c :: l, r)

/-- Whether `part` occurs in a text. -/
def occurs (part text : Text) : Bool := (cut? part text).isSome

/-- The pieces of a text between the occurrences of a separating character; a text without it is
one piece. -/
def pieces (sep : Char) : Text → List Text
  | [] => [[]]
  | c :: s =>
    if c = sep then [] :: pieces sep s
    else
      match pieces sep s with
      | [] => [[c]]
      | p :: ps => (c :: p) :: ps

/-- The text before and the text after the last occurrence of a character. -/
def cutLast? (sep : Char) : Text → Option (Text × Text)
  | [] => none
  | c :: s =>
    match cutLast? sep s with
    | some (l, r) => some (c :: l, r)
    | none => if c = sep then some ([], s) else none

/-- The texts one after the other, `sep` between each two. -/
def joined (sep : Text) : List Text → Text
  | [] => []
  | [t] => t
  | t :: ts => t ++ sep ++ joined sep ts

def endsWith (tail text : Text) : Bool := tail.isSuffixOf text

/-- A text with its ASCII capitals made small. -/
def asciiLower (s : Text) : Text := s.map Char.toLower

/-- Whether a character lies in one of some ranges of code points. -/
def inRanges (ranges : List (Nat × Nat)) (c : Char) : Bool :=
  ranges.any fun (lo, hi) => lo ≤ c.toNat && c.toNat ≤ hi

/-- Whether one text comes before another, or is it, in the order of their characters. -/
def le : Text → Text → Bool
  | [], _ => true
  | _ :: _, [] => false
  | c :: s, d :: t => c < d || (c = d && le s t)

/-- A text padded on the left to a least length. -/
def padStart (fill : Char) (width : Nat) (s : Text) : Text :=
  List.replicate (width - s.length) fill ++ s

/-- A number in hexadecimal with at least `width` digits. -/
def hex (width n : Nat) : Text := padStart '0' width (Nat.toDigits 16 n)

/-! ## Blanks -/

/-- Whether a character is white space: the bidirectional classes of blanks and breaks and the
space separators. -/
def isSpace (c : Char) : Bool :=
  let n := c.toNat
  (0x09 ≤ n && n ≤ 0x0d) || (0x1c ≤ n && n ≤ 0x20) || n = 0x85 || n = 0xa0 || n = 0x1680 ||
    (0x2000 ≤ n && n ≤ 0x200a) || n = 0x2028 || n = 0x2029 || n = 0x202f || n = 0x205f ||
    n = 0x3000

/-- Whether a text holds nothing but white space. -/
def isBlank (s : Text) : Bool := s.all isSpace

/-- A text without the white space at its start. -/
def stripStart (s : Text) : Text := s.dropWhile isSpace

/-- A text without the white space at its end. -/
def stripEnd (s : Text) : Text := (s.reverse.dropWhile isSpace).reverse

/-- A text without the white space at its two ends. -/
def strip (s : Text) : Text := stripEnd (stripStart s)

/-! ## Lines -/

/-- Whether a character ends a line by itself. -/
def isLineBoundary (c : Char) : Bool :=
  let n := c.toNat
  (0x0a ≤ n && n ≤ 0x0d) || (0x1c ≤ n && n ≤ 0x1e) || n = 0x85 || n = 0x2028 || n = 0x2029

/-- The lines of a text when `line` (in reverse) has been read of the first of them. -/
def linesFrom (line : Text) : Text → List Text
  | [] => if line.isEmpty then [] else [line.reverse]
  | '\r' :: '\n' :: s => line.reverse :: linesFrom [] s
  | c :: s =>
    if isLineBoundary c then line.reverse :: linesFrom [] s
    else linesFrom (c :: line) s

/-- The lines of a text without their ends; a text that stops after a line end has no empty last
line, and carriage return with line feed is one line end. -/
def lines (s : Text) : List Text := linesFrom [] s

/-- A text in which every carriage return, with the line feed after it if there is one, has become
a line feed. -/
def oneLineEnd : Text → Text
  | [] => []
  | '\r' :: '\n' :: s => '\n' :: oneLineEnd s
  | c :: s => (if c = '\r' then '\n' else c) :: oneLineEnd s

end Text

end ClasspathProbe
