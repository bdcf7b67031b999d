import ClasspathProbe.Log.Level
import ClasspathProbe.Number.Places
import ClasspathProbe.Number.Reading
import ClasspathProbe.Text.Word

/-!
# Layouts of log records

A layout is a text with fields such as `%(name)s` in it, each with an optional width, precision and
flags, for which the parts of a record are put in. A layout without any field is refused; what else
is wrong with one shows only when a record is laid out.
-/

namespace ClasspathProbe.Log

/-- One message that a logger was given. -/
structure Record where
  logger : Text
  level : Level
  text : Text
deriving DecidableEq

/-- The circumstances that a record was made in, which it shows where a layout asks for them. -/
structure Scene where
  /-- The file of the program, the line and the function. -/
  file : Text := []
  line : Nat := 0
  function : Text := []
  /-- The time in seconds, and how many milliseconds the program had run: the bits of floating point
  numbers. -/
  created : UInt64 := 0
  age : UInt64 := 0
  /-- The milliseconds of the time. -/
  milliseconds : Nat := 0
  thread : Nat := 0
  process : Nat := 0

namespace Layout

/-- How the part of a record is put in for a field. -/
structure Spec where
  flags : Text
  width : Option Nat
  precision : Option Nat
  conversion : Char
deriving DecidableEq

/-- A number in digits, if there are any. -/
def number? (digits : Text) : Option Nat := Number.natural? 10 digits

/-- Whether a character counts as a digit when a layout is checked. -/
def isAnyDigit (c : Char) : Bool := (Text.decimal? c).isSome

/-- What follows an optional number, or an asterisk in its place. -/
def skipCount (s : Text) : Text :=
  match s with
  | '*' :: rest => rest
  | _ => s.dropWhile isAnyDigit

def isFlag (c : Char) : Bool := c = '#' || c = '0' || c = '+' || c = ' ' || c = '-'

/-- Whether a character is the letter of a conversion in a checked layout. Case does not count, so
the letters with a dot above, without a dot, and the long s pass too. -/
def isConversion (c : Char) : Bool :=
  ("diouxefgcrsa%" : Text).contains c.toLower || ("İıſ" : Text).contains c

def fieldAt (s : Text) : Bool :=
  match Text.after? "%(" s with
  | none => false
  | some rest =>
    let name := rest.takeWhile Text.isWord
    match name.isEmpty, rest.drop name.length with
    | false, ')' :: rest =>
      let rest := skipCount (rest.dropWhile isFlag)
      let withPrecision : Option Char :=
        match rest with
        | '.' :: '*' :: more => more.head?
        | '.' :: d :: more => if isAnyDigit d then (more.dropWhile isAnyDigit).head? else none
        | _ => none
      (rest.head?.map isConversion).getD false || (withPrecision.map isConversion).getD false
    | _, _ => false

def hasField : Text → Bool
  | [] => false
  | c :: s => fieldAt (c :: s) || hasField s

/-- A layout, unless it has no field. The empty layout is that of the bare message. -/
def check (layout : Text) : Except Failure Text :=
  let layout := if layout.isEmpty then ("%(message)s" : Text) else layout
  if hasField layout then .ok layout else .error (.recordLayout layout)

/-- A text with blanks added up to a width. -/
def widened (spec : Spec) (s : Text) : Text :=
  let missing := List.replicate (spec.width.getD 0 - s.length) ' '
  if spec.flags.contains '-' then s ++ missing else missing ++ s

/-- A text put in for a field. -/
def putText (spec : Spec) (s : Text) : Text :=
  widened spec (match spec.precision with | none => s | some n => s.take n)

/-- The digits of a number put in for a field, behind its sign and the mark of its base. -/
def putDigits (spec : Spec) (negative : Bool) (mark digits : Text) : Text :=
  let sign : Text :=
    if negative then "-"
    else if spec.flags.contains '+' then "+"
    else if spec.flags.contains ' ' then " "
    else ""
  let mark := if spec.flags.contains '#' then mark else []
  let digits := Text.padStart '0' (spec.precision.getD 0) digits
  let head := sign ++ mark
  if spec.flags.contains '0' && !spec.flags.contains '-' then
    head ++ Text.padStart '0' (spec.width.getD 0 - head.length) digits
  else widened spec (head ++ digits)

/-- A text with everything outside ASCII shown by its number. -/
def asciiOnly (s : Text) : Text :=
  s.flatMap fun c =>
    if c.toNat < 0x80 then [c]
    else if c.toNat ≤ 0xff then "\\x" ++ Text.hex 2 c.toNat
    else if c.toNat ≤ 0xffff then "\\u" ++ Text.hex 4 c.toNat
    else "\\U" ++ Text.hex 8 c.toNat

/-- A part of a record, as fields can show it. -/
inductive Part where
  | text (s : Text)
  | whole (n : Int)
  /-- A floating point number, by its bits. -/
  | real (bits : UInt64)
  /-- A value that is neither a text nor a number, as messages show it. -/
  | other (shown : Text)

/-- The last name of a path. -/
def lastName (path : Text) : Text := (Text.cutLast? '/' path).elim path (·.2)

/-- A name without what stands behind its last dot. Dots in front do not count. -/
def withoutSuffix (name : Text) : Text :=
  match Text.cutLast? '.' name with
  | some (front, _) => if front.all (· = '.') then name else front
  | none => name

/-- The parts of a record, by name: its own, those of the circumstances it was made in, and those
that all records share. -/
def parts (now : Text) (scene : Scene) (r : Record) : List (Text × Part) :=
  [("name", .text r.logger), ("msg", .text r.text), ("args", .other "()"),
   ("levelname", .text (levelName r.level)), ("levelno", .whole r.level),
   ("pathname", .text scene.file), ("filename", .text (lastName scene.file)),
   ("module", .text (withoutSuffix (lastName scene.file))), ("exc_info", .other "None"),
   ("exc_text", .other "None"), ("stack_info", .other "None"), ("lineno", .whole scene.line),
   ("funcName", .text scene.function), ("created", .real scene.created),
   ("msecs", .real (Number.ofFraction scene.milliseconds 1)),
   ("relativeCreated", .real scene.age), ("thread", .whole scene.thread),
   ("threadName", .text "MainThread"), ("processName", .text "MainProcess"),
   ("process", .whole scene.process), ("message", .text r.text), ("asctime", .text now)]

namespace Part

/-- A part put in for a field that shows its text. -/
def shown : Part → Text
  | .text s => s
  | .whole n => Text.ofInt n
  | .real bits => Number.shown bits
  | .other s => s

/-- A part put in for a field that shows it as messages do. -/
def quoted : Part → Text
  | .text s => Text.quoted s
  | p => p.shown

/-- A number put in for a field that shows a floating point number. -/
def putReal? (x : Number.Class) (spec : Spec) : Option Text :=
  let places := spec.precision.getD 6
  let all := spec.flags.contains '#'
  let digits? : Option (Nat → Nat → Text) :=
    match spec.conversion.toLower with
    | 'f' => some fun num den => Number.fixed num den places all
    | 'e' => some fun num den => Number.scientific num den places all
    | 'g' => some fun num den => Number.general num den places all
    | _ => none
  digits?.map fun digits =>
    let (negative, s) : Bool × Text :=
      match x with
      | .notANumber => (false, "nan")
      | .infinite negative => (negative, "inf")
      | .finite negative x => (negative, digits x.fraction.1 x.fraction.2)
    putDigits { spec with precision := none } negative []
      (if spec.conversion.isUpper then s.map Char.toUpper else s)

/-- A whole number put in for a field. One that is shown as a floating point number must not be
beyond all of these, and one that is shown as a character must be the number of one. -/
def putWhole? (n : Int) (spec : Spec) : Option Text :=
  let negative := decide (n < 0)
  let put (mark digits : Text) : Option Text := some (putDigits spec negative mark digits)
  match spec.conversion with
  | 'd' | 'i' | 'u' => put [] (Text.ofNat n.natAbs)
  | 'x' => put "0x" (Nat.toDigits 16 n.natAbs)
  | 'X' => put "0X" ((Nat.toDigits 16 n.natAbs).map Char.toUpper)
  | 'o' => put "0o" (Nat.toDigits 8 n.natAbs)
  | 'c' =>
    if 0 ≤ n ∧ n.toNat.isValidChar then
      some (putText { spec with precision := none } [Char.ofNat n.toNat])
    else none
  | _ =>
    match Number.classify (Number.ofFraction n.natAbs 1) with
    | .finite _ x => putReal? (.finite negative x) spec
    | _ => none

/-- A part put in for a field, if the conversion fits it. -/
def put? (spec : Spec) (p : Part) : Option Text :=
  match spec.conversion, p with
  | 's', p => some (putText spec p.shown)
  | 'r', p => some (putText spec p.quoted)
  | 'a', p => some (putText spec (asciiOnly p.quoted))
  | 'c', .text [c] => some (putText { spec with precision := none } [c])
  | _, .whole n => putWhole? n spec
  | c, .real bits =>
    if c = 'd' ∨ c = 'i' ∨ c = 'u' then
      match Number.classify bits with
      | .finite negative x =>
        let n := x.fraction.1 / x.fraction.2
        putWhole? (if negative then -(n : Int) else n) spec
      | _ => none
    else putReal? (Number.classify bits) spec
  | _, _ => none

end Part

/-- Reads the flags, the width, the precision and the letter of a field. -/
def readSpec (s : Text) : Option (Spec × Text) := do
  let flags := s.takeWhile isFlag
  let s := s.drop flags.length
  let width := s.takeWhile Char.isDigit
  let s := s.drop width.length
  let (precision, s) :=
    match s with
    | '.' :: rest =>
      let digits := rest.takeWhile Char.isDigit
      (some ((number? digits).getD 0), rest.drop digits.length)
    | _ => (none, s)
  let s :=
    match s with
    | 'h' :: rest | 'l' :: rest | 'L' :: rest => rest
    | _ => s
  match s with
  | [] => none
  | c :: rest => some (⟨flags, number? width, precision, c⟩, rest)

/-- All parts of a record as one. The time is among them only if the layout asks for it by name. -/
def together (parts : List (Text × Part)) (layout : Text) : Part :=
  let timed := (Text.cut? "%(asctime)" layout).isSome
  let shown := (parts.filter fun (name, _) => timed || name ≠ "asctime".toList).map
    fun (name, part) => Text.quoted name ++ ": " ++ part.quoted
  .other ('\x7b' :: Text.joined ", " shown ++ ['\x7d'])

/-- The parts of a record in a layout, or nothing when they do not fit. A field without a name shows
the whole record, but only as the first field. -/
def fill (parts : List (Text × Part)) :
    (whole : Option Part) → (fuel : Nat) → (layout : Text) → Option Text
  | _, 0, _ => some []
  | _, _, [] => some []
  | whole, fuel + 1, '%' :: '%' :: s => (fill parts whole fuel s).map ('%' :: ·)
  | _, fuel + 1, '%' :: '(' :: s => do
    let name := s.takeWhile (· ≠ ')')
    let (spec, rest) ← readSpec (s.drop (name.length + 1))
    let part ← parts.lookup name
    return (← part.put? spec) ++ (← fill parts none fuel rest)
  | whole, fuel + 1, '%' :: s => do
    let (spec, rest) ← readSpec s
    return (← (← whole).put? spec) ++ (← fill parts none fuel rest)
  | whole, fuel + 1, c :: s => (fill parts whole fuel s).map (c :: ·)

/-- The parts of a record in a layout, or nothing when they do not fit. -/
def render? (parts : List (Text × Part)) (layout : Text) : Option Text :=
  fill parts (together parts layout) (layout.length + 1) layout

end Layout

end ClasspathProbe.Log
