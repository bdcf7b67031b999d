import ClasspathProbe.Number.Nearest

/-!
# Decimals with a number of places

The decimal texts of a fraction that have as many digits as are asked for: positionally, with an
exponent, or whichever of the two suits the size of the number. The last digit is rounded in exact
arithmetic, a half to the even neighbour.
-/

namespace ClasspathProbe.Number

/-- The value of a binary number as a fraction. -/
def Binary.fraction (x : Binary) : Nat × Nat := dividedByPower x.mantissa 1 (-x.exponent)

/-- The power of ten of the first digit of a positive fraction. -/
def firstPower (num den : Nat) : Int :=
  let guess : Int := ((Text.ofNat num).length : Int) - (Text.ofNat den).length
  if den * Nat.pow 10 guess.toNat ≤ num * Nat.pow 10 (-guess).toNat then guess else guess - 1

/-- The first `count` digits of a fraction, rounded, and the power of ten of the first of them. -/
def leading (num den count : Nat) : Nat × Int :=
  if num = 0 then (0, 0)
  else
    let power := firstPower num den
    let scale : Int := (count : Int) - 1 - power
    let digits := roundedToEven (num * Nat.pow 10 scale.toNat) (den * Nat.pow 10 (-scale).toNat)
    if digits = Nat.pow 10 count then (digits / 10, power + 1) else (digits, power)

/-- Digits with a point before the last `places` of them. Without places the point is left out,
unless `pointed` asks for it. -/
def withPoint (digits places : Nat) (pointed : Bool) : Text :=
  let digits := Text.padStart '0' (places + 1) (Text.ofNat digits)
  let point : Text := if places = 0 && !pointed then [] else ['.']
  let whole := digits.length - places
  digits.take whole ++ point ++ digits.drop whole

/-- A fraction with so many places after the point. -/
def fixed (num den places : Nat) (pointed : Bool) : Text :=
  withPoint (roundedToEven (num * Nat.pow 10 places) den) places pointed

/-- A fraction with one digit before the point, so many places after it, and an exponent. -/
def scientific (num den places : Nat) (pointed : Bool) : Text :=
  let (digits, power) := leading num den (places + 1)
  withPoint digits places pointed ++ ['e', if power < 0 then '-' else '+'] ++
    Text.padStart '0' 2 (Text.ofNat power.natAbs)

/-- A text without the zeros after a point at its end, nor the point. -/
def withoutZeros (s : Text) : Text :=
  if s.contains '.' then
    let kept := (s.reverse.dropWhile (· = '0')).reverse
    if kept.getLast? = some '.' then kept.dropLast else kept
  else s

/-- A fraction with so many digits, positionally if its first digit is neither behind the last of
them nor far behind the point, else with an exponent; zeros at the end are left out unless they are
asked for. -/
def general (num den digits : Nat) (all : Bool) : Text :=
  let digits := max digits 1
  let power := (leading num den digits).2
  if -4 ≤ power ∧ power < digits then
    let text := fixed num den ((digits : Int) - 1 - power).toNat all
    if all then text else withoutZeros text
  else
    let text := scientific num den (digits - 1) all
    if all then text
    else
      let mantissa := text.takeWhile (· ≠ 'e')
      withoutZeros mantissa ++ text.drop mantissa.length

end ClasspathProbe.Number
