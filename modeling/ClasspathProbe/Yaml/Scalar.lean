import ClasspathProbe.Failure
import ClasspathProbe.Number.Reading
import ClasspathProbe.Text.Lowercase

/-!
# Scalars of a YAML document

A plain scalar without a tag takes its kind from its spelling: null, truth values, numbers in
several bases, sixtieths, dates and moments; everything else is text. One line end after a spelling
does not change the kind. The value of a scalar follows from its kind and its spelling.
-/

namespace ClasspathProbe.Yaml

/-- What the tags of the standard kinds start with. -/
def standardTag : Text := "tag:yaml.org,2002:"

def kindTag (kind : Text) : Text := standardTag ++ kind

def textTag : Text := kindTag "str"

def nullTag : Text := kindTag "null"

def sequenceTag : Text := kindTag "seq"

def mappingTag : Text := kindTag "map"

/-- The tag of the key that merges mappings. -/
def mergeTag : Text := kindTag "merge"

/-- The tag of the key that stands for a mapping's own value. -/
def valueTag : Text := kindTag "value"

/-! ## Spellings -/

/-- Whether all characters are digits, of which there are some. -/
def isDigits (s : Text) : Bool := !s.isEmpty && s.all Char.isDigit

/-- A text without a sign at its start. -/
def unsignedPart (s : Text) : Text := (Number.unsigned s).2

/-- Whether a text starts with a digit and goes on with digits and underscores. -/
def isLooseDigits (s : Text) : Bool :=
  (s.head?.map Char.isDigit).getD false && s.all fun c => c.isDigit || c = '_'

/-- Whether a text is a number of sixtieths from zero to fifty-nine, written with one or two
digits. -/
def isSixtieth (s : Text) : Bool :=
  match s with
  | [c] => c.isDigit
  | [c, d] => '0' ≤ c && c ≤ '5' && d.isDigit
  | _ => false

/-- Whether a text is spelled as an integer. -/
def isInteger (s : Text) : Bool :=
  let u := unsignedPart s
  match u with
  | '0' :: 'b' :: r => !r.isEmpty && r.all fun c => c = '0' || c = '1' || c = '_'
  | '0' :: 'x' :: r => !r.isEmpty && r.all fun c => (Number.digitIn? 16 c).isSome || c = '_'
  | ['0'] => true
  | '0' :: r => r.all fun c => ('0' ≤ c && c ≤ '7') || c = '_'
  | _ =>
    match Text.pieces ':' u with
    | [digits] => isLooseDigits digits
    | first :: rest => isLooseDigits first && rest.all isSixtieth
    | [] => false

/-- Whether a text is spelled as the exponent of a number, sign included. -/
def isExponent (s : Text) : Bool :=
  match s with
  | e :: sign :: digits => (e = 'e' || e = 'E') && (sign = '+' || sign = '-') && isDigits digits
  | _ => false

/-- Whether a text is spelled as a floating point number. -/
def isFloat (s : Text) : Bool :=
  let u := unsignedPart s
  let infinities : List Text := [".inf", ".Inf", ".INF"]
  let nans : List Text := [".nan", ".NaN", ".NAN"]
  if infinities.contains u || nans.contains s then true
  else
    match Text.cut? ['.'] u with
    | none => false
    | some (whole, part) =>
      let digits := part.takeWhile fun c => c.isDigit || c = '_'
      let rest := part.drop digits.length
      let ends := rest.isEmpty || isExponent rest
      if whole.isEmpty then u = s && (digits.head?.map Char.isDigit).getD false && ends
      else
        match Text.pieces ':' whole with
        | [_] => isLooseDigits whole && ends
        | first :: sixtieths => isLooseDigits first && sixtieths.all isSixtieth && rest.isEmpty
        | [] => false

/-- The parts of a date, or of a moment, as they are spelled. -/
structure Stamp where
  year : Text
  month : Text
  day : Text
  /-- Hour, minute, second and fraction. -/
  time : Option (Text × Text × Text × Text) := none
  /-- Whether the offset is before universal time, its hours and its minutes; `Z` has neither. -/
  zone : Option (Option (Bool × Text × Text)) := none

/-- One or two digits at the start of a text, and what follows. -/
def shortNumber (s : Text) : Option (Text × Text) :=
  let digits := (s.take 2).takeWhile Char.isDigit
  if digits.isEmpty then none else some (digits, s.drop digits.length)

/-- Two digits at the start of a text, and what follows. -/
def twoDigits (s : Text) : Option (Text × Text) :=
  if isDigits (s.take 2) && s.length ≥ 2 then some (s.take 2, s.drop 2) else none

/-- The offset that a text is spelled as. -/
def readZone (s : Text) : Option (Option (Option (Bool × Text × Text))) := do
  match s.dropWhile fun c => c = ' ' || c = '\t' with
  | [] => if s.isEmpty then some none else none
  | ['Z'] => some (some none)
  | sign :: r =>
    guard (sign = '+' || sign = '-')
    let (hours, r) ← shortNumber r
    match r with
    | [] => some (some (some (sign = '-', hours, [])))
    | ':' :: r =>
      let (minutes, r) ← twoDigits r
      guard r.isEmpty
      some (some (some (sign = '-', hours, minutes)))
    | _ => none

/-- The date or moment that a text is spelled as. -/
def readStamp (s : Text) : Option Stamp := do
  let year := s.take 4
  guard (isDigits year && year.length = 4)
  let '-' :: r := s.drop 4 | none
  let (month, r) ← shortNumber r
  let '-' :: r := r | none
  let (day, r) ← shortNumber r
  match r with
  | [] => return { year, month, day }
  | c :: after =>
    guard (c = 'T' || c = 't' || c = ' ' || c = '\t')
    let r := if c = 'T' || c = 't' then after else r.dropWhile fun c => c = ' ' || c = '\t'
    let (hour, r) ← shortNumber r
    let ':' :: r := r | none
    let (minute, r) ← twoDigits r
    let ':' :: r := r | none
    let (second, r) ← twoDigits r
    let (fraction, r) :=
      match r with
      | '.' :: r => (r.takeWhile Char.isDigit, r.dropWhile Char.isDigit)
      | _ => ([], r)
    let zone ← readZone r
    return { year, month, day, time := some (hour, minute, second, fraction), zone }

/-- Whether a text is spelled as a date or a moment: a date alone has two digits for month and
day. -/
def isStamp (s : Text) : Bool :=
  match readStamp s with
  | some stamp => stamp.time.isSome || (stamp.month.length = 2 && stamp.day.length = 2)
  | none => false

def trueWords : List Text :=
  ["yes", "Yes", "YES", "true", "True", "TRUE", "on", "On", "ON"]

def falseWords : List Text :=
  ["no", "No", "NO", "false", "False", "FALSE", "off", "Off", "OFF"]

def nullWords : List Text := ["~", "null", "Null", "NULL"]

/-- A text without the line end at its end, if it has one there. -/
def withoutLineEnd (s : Text) : Text := if s.getLast? = some '\n' then s.dropLast else s

/-- The tag that the spelling of some text says. -/
def tagOfWord (s : Text) : Text :=
  if nullWords.contains s then nullTag
  else if trueWords.contains s || falseWords.contains s then kindTag "bool"
  else if isFloat s then kindTag "float"
  else if isInteger s then kindTag "int"
  else if s = "<<".toList then mergeTag
  else if isStamp s then kindTag "timestamp"
  else if s = ['='] then valueTag
  else if ["!".toList, "&".toList, "*".toList].contains s then kindTag "yaml"
  else textTag

/-- The tag that a scalar has by its spelling. The empty text is null, a line end alone is text. -/
def spelledTag (s : Text) : Text :=
  if s.isEmpty then nullTag
  else
    let word := withoutLineEnd s
    if word.isEmpty then textTag else tagOfWord word

/-- The tag of a scalar: the one it was given, or by its spelling when it is plain or has the tag
that leaves its kind open. -/
def openTag (tag : Option Text) (plain : Bool) (s : Text) : Text :=
  match tag with
  | none => if plain then spelledTag s else textTag
  | some ['!'] => spelledTag s
  | some t => t

/-! ## Values -/

def truthValue (s : Text) : Except ScalarFault Value :=
  let word := Text.lower s
  let yes : List Text := ["yes", "true", "on"]
  let no : List Text := ["no", "false", "off"]
  if yes.contains word then .ok (.bool true)
  else if no.contains word then .ok (.bool false)
  else .error (.truth word)

/-- The integer that digits spell in a base. -/
def integerIn (base : Nat) (s : Text) : Except ScalarFault Int :=
  (Number.integer base s).mapError fun
    | .noInteger => .integer base s
    | .tooLong digits => .longInteger digits

/-- The value of parts in a system of sixties. -/
def sixties (parts : List Int) : Int := parts.foldl (fun total part => total * 60 + part) 0

/-- An integer: binary, octal, decimal or hexadecimal, or parts in sixties. -/
def integerValue (s : Text) : Except ScalarFault Value := do
  let plain := s.filter (· ≠ '_')
  if plain.isEmpty then throw .emptyNumber
  let (negative, u) := Number.unsigned plain
  let n ←
    match u with
    | [] => throw .emptyNumber
    | ['0'] => pure 0
    | '0' :: 'b' :: r => integerIn 2 r
    | '0' :: 'x' :: r => integerIn 16 r
    | '0' :: _ => integerIn 8 u
    | _ =>
      if u.contains ':' then do
        let parts ← (Text.pieces ':' u).mapM (integerIn 10)
        pure (sixties parts)
      else integerIn 10 u
  return .int (if negative then -n else n)

/-- The number that a text spells. -/
def floatIn (s : Text) : Except ScalarFault UInt64 :=
  match Number.float? s with
  | some bits => .ok bits
  | none => .error (.float s)

/-- The value of parts in a system of sixties, added from the last one on. The weight of each part
must be in the range of floating point numbers. -/
def sixtiesFloat (parts : List UInt64) : Except ScalarFault UInt64 := do
  let step (acc : Float × Nat) (bits : UInt64) : Except ScalarFault (Float × Nat) :=
    let weight := Number.ofFraction acc.2 1
    if weight = Number.infinity then .error .weight
    else .ok (acc.1 + Float.ofBits bits * Float.ofBits weight, acc.2 * 60)
  return (← parts.reverse.foldlM step (0, 1)).1.toBits

/-- A number with the other sign. -/
def negated (bits : UInt64) : UInt64 := bits ^^^ 0x8000000000000000

/-- A floating point number: a fraction, an infinity, not a number, or parts in sixties. -/
def floatValue (s : Text) : Except ScalarFault Value := do
  let plain := Text.lower (s.filter (· ≠ '_'))
  if plain.isEmpty then throw .emptyNumber
  let (negative, u) := Number.unsigned plain
  let signed (bits : UInt64) : Value := .float (if negative then negated bits else bits)
  if u = ".inf".toList then return signed Number.infinity
  else if u = ".nan".toList then return .float Number.commonNaN
  else if u.contains ':' then
    let parts ← (Text.pieces ':' u).mapM floatIn
    return signed (← sixtiesFloat parts)
  else return signed (← floatIn u)

def digitsValue (s : Text) : Nat := s.foldl (fun n c => n * 10 + (c.toNat - '0'.toNat)) 0

def stampValue (s : Text) : Except ScalarFault Value := do
  let some stamp := readStamp (withoutLineEnd s) | throw .notAStamp
  let year := digitsValue stamp.year
  let month := digitsValue stamp.month
  let day := digitsValue stamp.day
  match stamp.time with
  | none => .date <$> (Date.of year month day).mapError ScalarFault.calendar
  | some (hour, minute, second, fraction) =>
    let micro := digitsValue ((fraction ++ List.replicate 6 '0').take 6)
    let offset : Option Int :=
      match stamp.zone with
      | none => none
      | some none => some 0
      | some (some (before, hours, minutes)) =>
        let seconds : Int := (digitsValue hours * 60 + digitsValue minutes) * 60
        some (if before then -seconds else seconds)
    .moment <$> (Moment.of year month day (digitsValue hour) (digitsValue minute)
      (digitsValue second) micro offset).mapError ScalarFault.calendar

/-- The value of a character in bytes written with 64 characters. -/
def sixtyFourth? (c : Char) : Option Nat :=
  if 'A' ≤ c && c ≤ 'Z' then some (c.toNat - 'A'.toNat)
  else if 'a' ≤ c && c ≤ 'z' then some (c.toNat - 'a'.toNat + 26)
  else if c.isDigit then some (c.toNat - '0'.toNat + 52)
  else if c = '+' then some 62
  else if c = '/' then some 63
  else none

/-- The bytes that characters spell, `place` of a group of four having been read with `bits` left
over and `pads` equals signs since. Characters that spell nothing are passed over. -/
def bytesFrom : (place bits pads : Nat) → Text → Option (List UInt8)
  | place, _, _, [] => if place = 0 then some [] else none
  | place, bits, pads, c :: s =>
    if c = '=' then
      if 2 ≤ place && 4 ≤ place + pads + 1 then some []
      else bytesFrom place bits (if 2 ≤ place then pads + 1 else pads) s
    else
      match sixtyFourth? c with
      | none => bytesFrom place bits pads s
      | some n =>
        match place with
        | 0 => bytesFrom 1 n 0 s
        | 1 => (bytesFrom 2 (n % 16) 0 s).map ((bits * 4 + n / 16).toUInt8 :: ·)
        | 2 => (bytesFrom 3 (n % 4) 0 s).map ((bits * 16 + n / 4).toUInt8 :: ·)
        | _ => (bytesFrom 0 0 0 s).map ((bits * 64 + n).toUInt8 :: ·)

/-- Bytes written with 64 characters of ASCII. -/
def bytesValue? (s : Text) : Option Value :=
  if s.all fun c => c.toNat < 0x80 then (bytesFrom 0 0 0 s).map .bytes else none

end ClasspathProbe.Yaml
