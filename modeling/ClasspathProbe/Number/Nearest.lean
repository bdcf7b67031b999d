import ClasspathProbe.Number.Shortest

/-!
# The binary number nearest to a fraction

A fraction is rounded to the grid of floating point numbers around it: the step of the grid is the
power of two that leaves 53 bits before the point, but never less than the smallest number there is.
Of two neighbours that are equally near the one with the even last bit is taken. The rounding runs
in exact arithmetic on naturals, so it rounds once.
-/

namespace ClasspathProbe.Number

/-- The whole number nearest to a fraction; of two equally near ones the even one. -/
def roundedToEven (num den : Nat) : Nat :=
  let whole := num / den
  let rest := 2 * (num % den)
  if den < rest || (den = rest && whole % 2 = 1) then whole + 1 else whole

/-- A fraction divided by a power of two, as another fraction. -/
def dividedByPower (num den : Nat) (power : Int) : Nat × Nat :=
  (num * Nat.pow 2 (-power).toNat, den * Nat.pow 2 power.toNat)

/-- The exponent of the greatest power of two that is not above a positive fraction. The logarithms
of its parts give it or the exponent after it. -/
def floorLog (num den : Nat) : Int :=
  let guess : Int := (Nat.log2 num : Int) - Nat.log2 den
  let (num, den) := dividedByPower num den guess
  if num < den then guess - 1 else guess

/-- The exponent of the smallest positive number. -/
def leastExponent : Int := -1074

/-- The bits of the floating point number nearest to a fraction. A carry out of the 53 bits moves
on to the exponent by itself, and beyond the greatest number to infinity. -/
def ofFraction (num den : Nat) : UInt64 :=
  if num = 0 then 0
  else
    let step := max (floorLog num den - 52) leastExponent
    let (num, den) := dividedByPower num den step
    let bits := (step - leastExponent).toNat * Nat.pow 2 52 + roundedToEven num den
    if infinity.toNat ≤ bits then infinity else bits.toUInt64

/-- The bits of a number with the sign put to them. -/
def withSign (negative : Bool) (magnitude : UInt64) : UInt64 :=
  if negative then magnitude ||| 0x8000000000000000 else magnitude

/-- The floating point number nearest to `digits * 10 ^ exponent`. Far outside of the range of such
numbers the place of the first digit decides. -/
def nearest (negative : Bool) (digits : Nat) (exponent : Int) : UInt64 :=
  let places : Int := (Text.ofNat digits).length + exponent
  let magnitude : UInt64 :=
    if digits = 0 || places < -400 then 0
    else if 400 < places then infinity
    else ofFraction (digits * Nat.pow 10 exponent.toNat) (Nat.pow 10 (-exponent).toNat)
  withSign negative magnitude

end ClasspathProbe.Number
