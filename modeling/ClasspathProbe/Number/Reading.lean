import ClasspathProbe.Number.Nearest
import ClasspathProbe.Text.Digit

/-!
# Reading numbers

Integers in a base and decimal fractions, with single underscores allowed between digits, as the
fields of a document spell them. Blanks around a number do not matter, and the digits of any script
will do.
-/

namespace ClasspathProbe.Number

/-- The value of a digit, letters in either case counting from ten. -/
def digit? (c : Char) : Option Nat :=
  if '0' ≤ c ∧ c ≤ '9' then some (c.toNat - '0'.toNat)
  else if 'a' ≤ c ∧ c ≤ 'z' then some (c.toNat - 'a'.toNat + 10)
  else if 'A' ≤ c ∧ c ≤ 'Z' then some (c.toNat - 'A'.toNat + 10)
  else none

/-- The value of a digit below the base. -/
def digitIn? (base : Nat) (c : Char) : Option Nat := (digit? c).filter (· < base)

/-- The number that digits spell after those of `value`; a single underscore may stand between two
of them. -/
def digitsFrom? (base value : Nat) : Text → Option Nat
  | [] => some value
  | '_' :: c :: s => do digitsFrom? base (value * base + (← digitIn? base c)) s
  | c :: s => do digitsFrom? base (value * base + (← digitIn? base c)) s

/-- The number that at least one digit spells. -/
def natural? (base : Nat) : Text → Option Nat
  | [] => none
  | c :: s => do digitsFrom? base (← digitIn? base c) s

/-- The mark that may stand before the digits of a base. -/
def baseMarks (base : Nat) : List Text :=
  match base with
  | 2 => ["0b".toList, "0B".toList]
  | 8 => ["0o".toList, "0O".toList]
  | 16 => ["0x".toList, "0X".toList]
  | _ => []

/-- A text without the sign at its start, and whether that was a minus. -/
def unsigned : Text → Bool × Text
  | '-' :: s => (true, s)
  | '+' :: s => (false, s)
  | s => (false, s)

/-- Why a text gives no integer. -/
inductive Misreading where
  /-- It spells none. -/
  | noInteger
  /-- It starts with more decimal digits than are read. -/
  | tooLong (digits : Nat)
deriving DecidableEq, Repr

/-- How many decimal digits of an integer are read or written at most. -/
def maxDigits : Nat := 4300

/-- How many decimal digits a text starts with, single underscores between them passed over. Two
underscores in a row, or one after the last digit, make it no number. -/
def digitCount : Text → Option Nat
  | '_' :: c :: s => if c.isDigit then (· + 1) <$> digitCount s else none
  | ['_'] => none
  | c :: s => if c.isDigit then (· + 1) <$> digitCount s else some 0
  | [] => some 0

/-- Whether a text starts with more decimal digits than are read, and with how many. -/
def excess? (s : Text) : Option Nat :=
  if s.head? = some '_' then none else (digitCount s).filter (maxDigits < ·)

/-- The digits of an integer after its mark of the base, if there is one. -/
def afterMark (base : Nat) (s : Text) : Text :=
  match (baseMarks base).findSome? (Text.after? · s) with
  | some ('_' :: rest) => rest
  | some rest => rest
  | none => s

/-- The integer that a text spells in a base, with an optional sign and mark of the base. -/
def integer (base : Nat) (text : Text) : Except Misreading Int :=
  let (negative, body) := unsigned (Text.stripPlain (Text.plainSpelling text))
  match if base = 10 then excess? body else none with
  | some n => .error (.tooLong n)
  | none =>
    match natural? base (afterMark base body) with
    | some n => .ok (if negative then -n else n)
    | none => .error .noInteger

/-- Splits a text after the characters that may belong to a run of digits. -/
def digitRun (s : Text) : Text × Text := s.span fun c => c.isDigit || c = '_'

/-- The floating point number that a text without sign spells in digits. -/
def fraction? (negative : Bool) (s : Text) : Option UInt64 := do
  let (whole, rest) := digitRun s
  let (part, rest) :=
    match rest with
    | '.' :: rest => digitRun rest
    | rest => ([], rest)
  let wellFormed (run : Text) : Bool := run.isEmpty || (natural? 10 run).isSome
  guard (wellFormed whole && wellFormed part && !(whole.isEmpty && part.isEmpty))
  let plain := (whole ++ part).filter (· != '_')
  let digits ← natural? 10 plain
  let places := (part.filter (· != '_')).length
  match rest with
  | [] => return nearest negative digits (-places)
  | e :: power =>
    guard (e = 'e' || e = 'E')
    let (down, power) := unsigned power
    let power ← natural? 10 power
    return nearest negative digits ((if down then -(power : Int) else power) - places)

/-- The floating point number that a text spells. -/
def float? (text : Text) : Option UInt64 :=
  let (negative, body) := unsigned (Text.stripPlain (Text.plainSpelling text))
  let word := Text.asciiLower body
  if word = "inf" || word = "infinity" then some (withSign negative infinity)
  else if word = "nan" then some notANumber
  else fraction? negative body

end ClasspathProbe.Number
