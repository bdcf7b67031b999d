import ClasspathProbe.Json
import ClasspathProbe.Number.Reading

/-!
# Reading JSON

The reader follows the JSON grammar and takes one document with blanks around it. It also knows the
three words `NaN`, `Infinity` and `-Infinity`. A text that is no document, or holds an integer of
too many digits, gives `none`.
-/

namespace ClasspathProbe.Json

/-- What is left of a text after its leading blanks. -/
def skipBlanks : Text → Text := List.dropWhile fun c => c = ' ' || c = '\t' || c = '\n' || c = '\r'

/-- The number that four hexadecimal digits spell. -/
def unit? (a b c d : Char) : Option Nat := do
  let digits ← [a, b, c, d].mapM (Number.digitIn? 16)
  return digits.foldl (fun n k => n * 16 + k) 0

/-- Whether a 16-bit unit is the first half of a pair. -/
def isHigh (n : Nat) : Bool := 0xd800 ≤ n && n < 0xdc00

/-- Whether a 16-bit unit is the second half of a pair. -/
def isLow (n : Nat) : Bool := 0xdc00 ≤ n && n < 0xe000

/-- The character of a pair of 16-bit units. -/
def pairChar (high low : Nat) : Char :=
  Char.ofNat (0x10000 + (high - 0xd800) * 0x400 + (low - 0xdc00))

/-- The character of a unit that is no half of a pair; a half that stands alone has none and shows
as U+FFFD. -/
def unitChar (n : Nat) : Char := if isHigh n || isLow n then '\uFFFD' else Char.ofNat n

/-- The character behind a backslash and a letter. -/
def escape? : Char → Option Char
  | '"' => some '"'
  | '\\' => some '\\'
  | '/' => some '/'
  | 'b' => some '\x08'
  | 'f' => some '\x0c'
  | 'n' => some '\n'
  | 'r' => some '\r'
  | 't' => some '\t'
  | _ => none

/-- Adds a character to the text read so far. -/
def keep (c : Char) : Option (Text × Text) → Option (Text × Text) :=
  Option.map fun (s, rest) => (c :: s, rest)

/-- Reads a quoted text after its opening quote, and gives what follows it. -/
def readText : Text → Option (Text × Text)
  | '"' :: s => some ([], s)
  | '\\' :: 'u' :: a :: b :: c :: d :: '\\' :: 'u' :: e :: f :: g :: h :: s =>
    match unit? a b c d, unit? e f g h with
    | some m, some n =>
      if isHigh m && isLow n then keep (pairChar m n) (readText s)
      else keep (unitChar m) (readText ('\\' :: 'u' :: e :: f :: g :: h :: s))
    | some m, none => keep (unitChar m) (readText ('\\' :: 'u' :: e :: f :: g :: h :: s))
    | none, _ => none
  | '\\' :: 'u' :: a :: b :: c :: d :: s =>
    match unit? a b c d with
    | some m => keep (unitChar m) (readText s)
    | none => none
  | '\\' :: e :: s =>
    match escape? e with
    | some c => keep c (readText s)
    | none => none
  | c :: s => if c.toNat < 0x20 then none else keep c (readText s)
  | [] => none
termination_by s => s.length

def readMagnitude (negative : Bool) (s : Text) : Option (Json × Text) := do
  let (whole, rest) := s.span Char.isDigit
  guard (!whole.isEmpty)
  let (whole, rest) :=
    match whole with
    | '0' :: more => (['0'], more ++ rest)
    | _ => (whole, rest)
  let (part, rest) :=
    match rest with
    | '.' :: after =>
      let (digits, more) := after.span Char.isDigit
      if digits.isEmpty then ([], rest) else ('.' :: digits, more)
    | _ => ([], rest)
  let (power, rest) :=
    match rest with
    | e :: after =>
      if e = 'e' || e = 'E' then
        let sign := after.takeWhile fun c => c = '+' || c = '-'
        let (digits, more) := (after.drop sign.length).span Char.isDigit
        if 1 < sign.length || digits.isEmpty then ([], rest) else (e :: sign ++ digits, more)
      else ([], rest)
    | [] => ([], [])
  if part.isEmpty && power.isEmpty then
    guard (whole.length ≤ Number.maxDigits)
    let n ← Number.natural? 10 whole
    return (.int (if negative then -(n : Int) else n), rest)
  else
    let bits ← Number.fraction? negative (whole ++ part ++ power)
    return (.float bits, rest)

/-- Reads a word that stands for a document. -/
def readWord (s : Text) : Option (Json × Text) :=
  let words : List (Text × Json) :=
    [("null", .null), ("true", .bool true), ("false", .bool false),
     ("NaN", .float Number.notANumber), ("Infinity", .float Number.infinity),
     ("-Infinity", .float (Number.infinity ||| 0x8000000000000000))]
  words.findSome? fun (word, v) => (Text.after? word s).map fun rest => (v, rest)

mutual

/-- Reads a document, nested at most as deep as the fuel says. -/
def readValue : (fuel : Nat) → Text → Option (Json × Text)
  | 0, _ => none
  | fuel + 1, s =>
    match s with
    | '"' :: r => (readText r).map fun (t, rest) => (.text t, rest)
    | '[' :: r =>
      match skipBlanks r with
      | ']' :: rest => some (.list [], rest)
      | r => (readItems fuel r).map fun (vs, rest) => (.list vs, rest)
    | '\x7b' :: r =>
      match skipBlanks r with
      | '\x7d' :: rest => some (.object [], rest)
      | r => (readMembers fuel r).map fun (ms, rest) => (.object ms, rest)
    | _ =>
      match readWord s with
      | some found => some found
      | none =>
        match s with
        | '-' :: r => readMagnitude true r
        | _ => readMagnitude false s

/-- Reads the items of a list, up to its closing bracket. -/
def readItems : (fuel : Nat) → Text → Option (List Json × Text)
  | 0, _ => none
  | fuel + 1, s => do
    let (v, rest) ← readValue fuel s
    match skipBlanks rest with
    | ',' :: r =>
      let (vs, rest) ← readItems fuel (skipBlanks r)
      return (v :: vs, rest)
    | ']' :: r => return ([v], r)
    | _ => none

/-- Reads the members of an object, up to its closing brace. -/
def readMembers : (fuel : Nat) → Text → Option (List (Text × Json) × Text)
  | 0, _ => none
  | fuel + 1, s => do
    let '"' :: s := s | none
    let (k, rest) ← readText s
    let ':' :: s := skipBlanks rest | none
    let (v, rest) ← readValue fuel (skipBlanks s)
    match skipBlanks rest with
    | ',' :: r =>
      let (ms, rest) ← readMembers fuel (skipBlanks r)
      return ((k, v) :: ms, rest)
    | '\x7d' :: r => return ([(k, v)], r)
    | _ => none

end

def read? (s : Text) : Option Json := do
  let (v, rest) ← readValue (2 * s.length + 2) (skipBlanks s)
  guard (skipBlanks rest).isEmpty
  return v

end ClasspathProbe.Json
