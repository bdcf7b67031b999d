import ClasspathProbe.Text

/-!
# The shortest decimal of a binary number

A floating point number is kept as the 64 bits of its binary form. Its decimal text has the fewest
digits that no other such number is nearer to; among those of that length it is the nearest. The
search runs in exact arithmetic on naturals.
-/

namespace ClasspathProbe.Number

/-- The value `mantissa * 2 ^ exponent`. Below a power of two (`narrow`) the gap to the next smaller
number is half as wide as the gap to the next larger one. -/
structure Binary where
  mantissa : Nat
  exponent : Int
  narrow : Bool
deriving DecidableEq, Repr

/-- The value `digits * 10 ^ exponent`. -/
structure Decimal where
  digits : Nat
  exponent : Int
deriving DecidableEq, Repr

/-- What 64 bits stand for. -/
inductive Class where
  | notANumber
  | infinite (negative : Bool)
  | finite (negative : Bool) (magnitude : Binary)
deriving DecidableEq, Repr

def notANumber : UInt64 := 0x7ff8000000000000

/-- The bits that all documents share for the word that spells no number. They count as equal to
themselves, other than the bits of a result that is no number. -/
def commonNaN : UInt64 := 0x7ff8000000000001

def infinity : UInt64 := 0x7ff0000000000000

/-- Reads the sign, the exponent and the fraction of 64 bits. -/
def classify (bits : UInt64) : Class :=
  let raw := bits.toNat
  let negative := decide (Nat.pow 2 63 ≤ raw)
  let biased : Nat := raw / Nat.pow 2 52 % 2048
  let fraction := raw % Nat.pow 2 52
  if biased = 2047 then
    if fraction = 0 then .infinite negative else .notANumber
  else if biased = 0 then .finite negative ⟨fraction, -1074, false⟩
  else .finite negative ⟨Nat.pow 2 52 + fraction, (biased : Int) - 1075, fraction = 0 && 1 < biased⟩

/-- Compares `a * 10 ^ i` with `b * 2 ^ j`. -/
def compareScaled (a : Nat) (i : Int) (b : Nat) (j : Int) : Ordering :=
  compare (a * Nat.pow 10 i.toNat * Nat.pow 2 (-j).toNat)
    (b * Nat.pow 2 j.toNat * Nat.pow 10 (-i).toNat)

/-- Whether a decimal lies among the reals that are rounded to the binary number. The two ends of
that interval belong to it when the mantissa is even. -/
def Binary.holds (x : Binary) (d : Decimal) : Bool :=
  let low := if x.narrow then 4 * x.mantissa - 1 else 4 * x.mantissa - 2
  let high := 4 * x.mantissa + 2
  let closed := x.mantissa % 2 = 0
  let fromLow := compareScaled d.digits d.exponent low (x.exponent - 2)
  let fromHigh := compareScaled d.digits d.exponent high (x.exponent - 2)
  (fromLow == .gt || (closed && fromLow == .eq)) && (fromHigh == .lt || (closed && fromHigh == .eq))

/-- The value divided by `10 ^ scale`, rounded down. -/
def Binary.floorAt (x : Binary) (scale : Int) : Nat :=
  x.mantissa * Nat.pow 2 x.exponent.toNat * Nat.pow 10 (-scale).toNat /
    (Nat.pow 2 (-x.exponent).toNat * Nat.pow 10 scale.toNat)

/-- The least `k`, among `fuel` numbers from `start` up, with the value below `10 ^ k`. -/
def Binary.scaleFrom (x : Binary) (start : Int) : Nat → Int
  | 0 => start
  | fuel + 1 =>
    if compareScaled 1 start x.mantissa x.exponent == .gt then start
    else x.scaleFrom (start + 1) fuel

/-- The least `k` with the value below `10 ^ k`; the logarithm of two bounds it from below. -/
def Binary.scale (x : Binary) : Int :=
  x.scaleFrom ((x.exponent + (Nat.log2 x.mantissa : Int)) * 30103 / 100000 - 2) 8

/-- The decimal of `n` digits that stands for the value, if there is one: of the two neighbours on
the grid of that many digits the nearer one that is rounded to the value. -/
def Binary.withDigits (x : Binary) (scale : Int) (n : Nat) : Option Decimal :=
  let grid := scale - n
  let down := x.floorAt grid
  let below : Decimal := ⟨down, grid⟩
  let above : Decimal := ⟨down + 1, grid⟩
  match x.holds below, x.holds above with
  | true, false => some below
  | false, true => some above
  | false, false => none
  | true, true =>
    match compareScaled (2 * down + 1) grid (2 * x.mantissa) x.exponent with
    | .gt => some below
    | .lt => some above
    | .eq => some (if down % 2 = 0 then below else above)

/-- A decimal without the zeros at its end. -/
def Decimal.trimmed (d : Decimal) : Nat → Decimal
  | 0 => d
  | fuel + 1 =>
    if d.digits % 10 = 0 && d.digits != 0 then
      Decimal.trimmed ⟨d.digits / 10, d.exponent + 1⟩ fuel
    else d

/-- The shortest decimal that stands for a positive value. -/
def Binary.shortest (x : Binary) : Decimal :=
  let scale := x.scale
  let found := (List.range 17).findSome? fun n => x.withDigits scale (n + 1)
  (found.getD ⟨x.floorAt (scale - 17), scale - 17⟩).trimmed 20

/-- Lays out the digits of a decimal: positionally, with at least one digit after the point, from
`0.0001` up to `10 ^ 16`; else one digit before the point and a signed exponent of at least two
digits. -/
def Decimal.layout (d : Decimal) : Text :=
  let digits := Text.ofNat d.digits
  let point : Int := digits.length + d.exponent
  if -4 < point && point ≤ 0 then "0." ++ List.replicate (-point).toNat '0' ++ digits
  else if 0 < point && point ≤ 16 then
    if d.exponent ≥ 0 then digits ++ List.replicate d.exponent.toNat '0' ++ ".0"
    else digits.take point.toNat ++ '.' :: digits.drop point.toNat
  else
    let power := point - 1
    let mark : Text := if power < 0 then "e-" else "e+"
    let mantissa := digits.take 1 ++ (if digits.length = 1 then [] else '.' :: digits.drop 1)
    mantissa ++ mark ++ Text.padStart '0' 2 (Text.ofNat power.natAbs)

/-- The decimal text of a floating point number. -/
def shown (bits : UInt64) : Text :=
  match classify bits with
  | .notANumber => "nan"
  | .infinite negative => if negative then "-inf" else "inf"
  | .finite negative x =>
    let text : Text := if x.mantissa = 0 then "0.0" else x.shortest.layout
    if negative then '-' :: text else text

/-- Whether a floating point number is a whole number, and which. -/
def whole? (bits : UInt64) : Option Int :=
  match classify bits with
  | .finite negative x =>
    let magnitude? : Option Nat :=
      if 0 ≤ x.exponent then some (x.mantissa * Nat.pow 2 x.exponent.toNat)
      else
        let unit := Nat.pow 2 (-x.exponent).toNat
        if x.mantissa % unit = 0 then some (x.mantissa / unit) else none
    magnitude?.map fun n => if negative then -(n : Int) else n
  | _ => none

end ClasspathProbe.Number
