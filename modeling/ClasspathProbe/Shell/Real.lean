import ClasspathProbe.Number.Places
import ClasspathProbe.Number.Reading
import ClasspathProbe.Shell.Arithmetic

/-!
# Floating point numbers in scripts

How the start of a text is read as a floating point number: in decimal, in hexadecimal with a power
of two, or as a word for infinity or for no number. The number next to what is written is taken,
and whether it is out of range is told apart.
-/

namespace ClasspathProbe.Shell

/-- A floating point number read from the start of a text. -/
structure Real where
  negative : Bool
  /-- The bits of the number without its sign. -/
  magnitude : UInt64
  inRange : Bool
  /-- What follows the number. -/
  rest : Text

namespace Real

/-- The number next to `digits * base ^ exponent`, and whether it is in range: neither infinite nor
too small to be kept exactly. Far outside of the range the exponent decides. -/
def ofDigits (digits base : Nat) (exponent : Int) : UInt64 × Bool :=
  if digits = 0 then (0, true)
  else if 1100 < exponent then (Number.infinity, false)
  else if exponent + Nat.log2 digits < -1200 then (0, false)
  else
    let num := digits * Nat.pow base exponent.toNat
    let den := Nat.pow base (-exponent).toNat
    let bits := Number.ofFraction num den
    match Number.classify bits with
    | .finite _ x =>
      let (n, d) := Number.dividedByPower num den x.exponent
      (bits, Nat.pow 2 52 ≤ bits.toNat || n = x.mantissa * d)
    | _ => (Number.infinity, false)

/-- Reads digits with a point before, between or behind them: their value, how many stand behind
the point, and what follows. -/
def point? (base : Nat) (s : Text) : Option (Nat × Nat × Text) :=
  let (whole, rest) := Arithmetic.digits base 0 s
  let (digits, places, after) :=
    match rest with
    | '.' :: r =>
      let (all, after) := Arithmetic.digits base whole r
      (all, r.length - after.length, after)
    | _ => (whole, 0, rest)
  if rest.length = s.length && places = 0 then none else some (digits, places, after)

/-- Reads an exponent behind its letter. Without digits there is none, and the letter follows the
number. -/
def exponent (letter : Char) (s : Text) : Int × Text :=
  match s with
  | c :: r =>
    let (down, r) := Number.unsigned r
    if c.toLower = letter && r.head?.any Char.isDigit then
      let (n, after) := Arithmetic.digits 10 0 r
      (if down then -(n : Int) else n, after)
    else (0, s)
  | [] => (0, s)

def afterWord? (word s : Text) : Option Text :=
  if Text.asciiLower (s.take word.length) = word then some (s.drop word.length) else none

/-- What follows the word for no number, and perhaps a remark in parentheses. -/
def afterRemark (s : Text) : Text :=
  match s with
  | '(' :: r =>
    match r.dropWhile fun c => c.isAlphanum || c = '_' with
    | ')' :: after => after
    | _ => s
  | _ => s

def magnitude? (s : Text) : Option (UInt64 × Bool × Text) :=
  let hexadecimal? : Option (Nat × Nat × Text) :=
    match s with
    | '0' :: x :: r => if x.toLower = 'x' then point? 16 r else none
    | _ => none
  match hexadecimal?, point? 10 s with
  | some (digits, places, after), _ =>
    let (power, rest) := exponent 'p' after
    let (bits, inRange) := ofDigits digits 2 (power - 4 * places)
    some (bits, inRange, rest)
  | none, some (digits, places, after) =>
    let (power, rest) := exponent 'e' after
    let (bits, inRange) := ofDigits digits 10 (power - places)
    some (bits, inRange, rest)
  | none, none =>
    match (afterWord? "infinity" s).or (afterWord? "inf" s), afterWord? "nan" s with
    | some rest, _ => some (Number.infinity, true, rest)
    | none, some rest => some (Number.notANumber, true, afterRemark rest)
    | none, none => none

/-- Reads a number with blanks and a sign before it. -/
def read? (s : Text) : Option Real :=
  let (negative, s) := Number.unsigned (s.dropWhile Arithmetic.isSpace)
  (magnitude? s).map fun (magnitude, inRange, rest) => ⟨negative, magnitude, inRange, rest⟩

def ofChar (c : Char) : Real := ⟨false, Number.ofFraction c.toNat 1, true, []⟩

/-- A positive number with a power of two behind hexadecimal digits, one of them before the point.
With `places` so many are written behind it, else as many as it takes. -/
def hexadecimal (x : Number.Binary) (places : Option Nat) (pointed : Bool) : Text :=
  let kept := min (places.getD 13) 13
  let digits := Number.roundedToEven x.mantissa (Nat.pow 16 (13 - kept))
  let behind := Text.padStart '0' kept (Nat.toDigits 16 (digits % Nat.pow 16 kept))
  let behind :=
    match places with
    | some n => behind.take kept ++ List.replicate (n - kept) '0'
    | none => (behind.reverse.dropWhile (· = '0')).reverse
  let behind := if kept = 0 then behind.drop 1 else behind
  let power : Int := if x.mantissa = 0 then 0 else x.exponent + 52
  let point : Text := if behind.isEmpty && !pointed then [] else ['.']
  Nat.toDigits 16 (digits / Nat.pow 16 kept) ++ point ++ behind ++
    ['p', if power < 0 then '-' else '+'] ++ Text.ofNat power.natAbs

end Real

end ClasspathProbe.Shell
