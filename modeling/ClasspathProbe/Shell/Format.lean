import ClasspathProbe.Shell.Real

/-!
# What `echo` and `printf` write

Escapes behind backslashes, and formats with conversions that are filled with arguments and used
again as long as arguments are left.
-/

namespace ClasspathProbe.Shell

/-! ## Escapes -/

/-- The control character that a letter behind a backslash stands for. -/
def control? : Char → Option Char
  | 'a' => some '\x07'
  | 'b' => some '\x08'
  | 'e' => some '\x1b'
  | 'f' => some '\x0c'
  | 'n' => some '\n'
  | 'r' => some '\r'
  | 't' => some '\t'
  | 'v' => some '\x0b'
  | '\\' => some '\\'
  | _ => none

def isOctal (c : Char) : Bool := '0' ≤ c && c ≤ '7'

/-- The byte that up to three octal digits write, and how many they are. -/
def octal (s : Text) : Char × Nat :=
  let digits := (s.take 3).takeWhile isOctal
  let n := digits.foldl (fun n c => n * 8 + (c.toNat - '0'.toNat)) 0
  (Char.ofNat (n % 256), digits.length)

/-- The characters for what follows a backslash in a format, and how many characters that is. -/
def escape (s : Text) : Text × Nat :=
  match s with
  | c :: _ =>
    if isOctal c then
      let (b, n) := octal s
      ([b], n)
    else
      match control? c with
      | some b => ([b], 1)
      | none => (['\\'], 0)
  | [] => (['\\'], 0)

/-- A text with its escapes read, and whether it was broken off by `\c`. An octal number may have a
zero in front of it. -/
def unescaped : (fuel : Nat) → Text → Text × Bool
  | 0, s => (s, false)
  | _, [] => ([], false)
  | fuel + 1, '\\' :: s =>
    match s with
    | 'c' :: _ => ([], true)
    | '0' :: r =>
      let (b, n) := octal r
      let (rest, stop) := unescaped fuel (r.drop n)
      (b :: rest, stop)
    | _ =>
      let (cs, n) := escape s
      let (rest, stop) := unescaped fuel (s.drop n)
      (cs ++ rest, stop)
  | fuel + 1, c :: s =>
    let (rest, stop) := unescaped fuel s
    (c :: rest, stop)

/-- The words of `echo` with their escapes read, and whether they go on to the end: a word that is
broken off is the last one. -/
def unescapedWords : List Text → List Text × Bool
  | [] => ([], true)
  | w :: ws =>
    let (shown, stop) := unescaped (w.length + 1) w
    if stop then ([shown], false)
    else
      let (rest, whole) := unescapedWords ws
      (shown :: rest, whole)

/-- What `echo` writes for its words; when they are broken off there is no line end. -/
def echoed (words : List Text) : Text :=
  let (words, newline) :=
    match words with
    | ['-', 'n'] :: rest => (rest, false)
    | _ => (words, true)
  let (shown, whole) := unescapedWords words
  let text := Text.joined [' '] shown
  if newline && whole then text ++ ['\n'] else text

/-! ## Formats -/

/-- Why a format is given up. -/
inductive Format.Stop where
  /-- An argument asks for no more output. -/
  | brokenOff
  | fault (what : Text)

/-- A format while it is filled: what has been written, the arguments left, and what there is to
complain about them. Pieces and complaints are kept last first. -/
structure Format.Progress where
  written : List Text := []
  arguments : List Text
  complaints : List Text := []

/-- A conversion of a format. -/
structure Format.Conversion where
  flags : Text
  width : Nat
  precision : Option Nat
deriving DecidableEq

namespace Format

/-- Filling a format. -/
abbrev Filling := ExceptT Stop (StateM Progress)

def write (s : Text) : Filling Unit := modify fun p => { p with written := s :: p.written }

def complain (s : Text) : Filling Unit :=
  modify fun p => { p with complaints := s :: p.complaints }

def argument : Filling (Option Text) := do
  let p ← get
  set { p with arguments := p.arguments.tail }
  return p.arguments.head?

/-- The character that an argument stands for behind a quote. -/
def quotedChar? (s : Text) : Option Char :=
  match s with
  | q :: rest => if q = '\'' || q = '"' then some (rest.head?.getD '\x00') else none
  | [] => none

/-- Complains about an argument of which no number or not all was read, or one that does not fit. -/
def checkNumber (s : Text) (rest? : Option Text) (fits : Bool) : Filling Unit := do
  match rest? with
  | none => if !s.isEmpty then complain (s ++ ": expected numeric value")
  | some rest =>
    if !rest.isEmpty then complain (s ++ ": not completely converted")
    else if !fits then complain (s ++ ": Numerical result out of range")

/-- Takes an argument that is a number: a character behind a quote, or digits in any base. What it
has to fit into is told by `fitted`, which gives the number next to one. -/
def number (fitted : Int → Int) : Filling Int := do
  match ← argument with
  | none => return 0
  | some s =>
    match quotedChar? s with
    | some c => return c.toNat
    | none =>
      let read? := Arithmetic.signed? true s
      let n := (read?.map (·.1)).getD 0
      checkNumber s (read?.map (·.2)) (fitted n = n)
      return fitted n

/-- An integer as a number without sign: one below zero counts from the other end, and one that does
not fit becomes the greatest. -/
def withoutSign (n : Int) : Int := if n.natAbs < Nat.pow 2 64 then n else Int.pow 2 64 - 1

/-- Takes an argument that is a floating point number. -/
def real : Filling Real := do
  match ← argument with
  | none => return .ofChar '\x00'
  | some s =>
    match quotedChar? s with
    | some c => return .ofChar c
    | none =>
      let read? := Real.read? s
      checkNumber s (read?.map (·.rest)) (read?.all (·.inRange))
      return read?.getD (.ofChar '\x00')

/-- A text filled up to the width of a conversion. -/
def Conversion.fill (c : Conversion) (s : Text) : Text :=
  if c.flags.contains '-' then s ++ List.replicate (c.width - s.length) ' '
  else Text.padStart ' ' c.width s

/-- The digits of a number behind its sign, filled up to the width of a conversion. -/
def Conversion.fillNumber (c : Conversion) (sign digits : Text) : Text :=
  let digits :=
    match c.precision with
    | some n => if n = 0 && digits = ['0'] then [] else Text.padStart '0' n digits
    | none =>
      if c.flags.contains '0' && !c.flags.contains '-' then
        Text.padStart '0' (c.width - sign.length) digits
      else digits
  c.fill (sign ++ digits)

/-- The sign that a number is written with. -/
def Conversion.sign (c : Conversion) (negative : Bool) : Text :=
  if negative then ['-']
  else if c.flags.contains '+' then ['+']
  else if c.flags.contains ' ' then [' ']
  else []

/-- A floating point number by a conversion of some kind. -/
def Conversion.fillReal (c : Conversion) (kind : Char) (r : Real) : Text :=
  let case (s : Text) : Text := if kind.isUpper then s.map Char.toUpper else s
  let sign := c.sign r.negative
  let sharp := c.flags.contains '#'
  let plain : Conversion := { c with precision := none }
  let word (s : Text) : Text := c.fill (sign ++ case s)
  match Number.classify r.magnitude with
  | .notANumber => word "nan"
  | .infinite _ => word "inf"
  | .finite _ x =>
    let (num, den) := x.fraction
    let places := c.precision.getD 6
    match kind.toLower with
    | 'f' => plain.fillNumber sign (Number.fixed num den places sharp)
    | 'e' => plain.fillNumber sign (case (Number.scientific num den places sharp))
    | 'g' => plain.fillNumber sign (case (Number.general num den places sharp))
    | _ => plain.fillNumber (sign ++ case "0x") (case (Real.hexadecimal x c.precision sharp))

/-- Writes an argument by a conversion of some kind. -/
def Conversion.apply (c : Conversion) (kind : Char) : Filling Unit := do
  let cut (s : Text) : Text :=
    match c.precision with
    | some n => s.take n
    | none => s
  if kind = 's' then write (c.fill (cut ((← argument).getD [])))
  else if kind = 'b' then
    let s := (← argument).getD []
    let (shown, stop) := unescaped (s.length + 1) s
    write (c.fill (cut shown))
    if stop then throw .brokenOff
  else if kind = 'c' then
    let s := (← argument).getD []
    write (c.fill [s.head?.getD '\x00'])
  else if kind = 'd' || kind = 'i' then
    let n ← number Arithmetic.clamp
    write (c.fillNumber (c.sign (n < 0)) (Text.ofNat n.natAbs))
  else if ("ouxX" : Text).contains kind then
    let n := Arithmetic.bits (← number withoutSign)
    let sharp := c.flags.contains '#'
    if kind = 'u' then write (c.fillNumber [] (Text.ofNat n))
    else if kind = 'o' then
      let digits := Nat.toDigits 8 n
      let least := if sharp && digits.head? ≠ some '0' then digits.length + 1 else 1
      let widened := { c with precision := c.precision.map (max · (if sharp then least else 0)) }
      write (widened.fillNumber [] (if sharp then Text.padStart '0' least digits else digits))
    else
      let mark : Text := if sharp && n ≠ 0 then ['0', kind] else []
      let digits := Nat.toDigits 16 n
      write (c.fillNumber mark (if kind = 'x' then digits else digits.map Char.toUpper))
  else
    let r ← real
    write (c.fillReal kind r)

/-- Takes the digits at the start of a format, or an argument for a star. -/
def size (s : Text) : Filling (Option Int × Text) := do
  match s with
  | '*' :: rest => return (some (← number Arithmetic.clamp), rest)
  | _ =>
    let digits := s.takeWhile Char.isDigit
    return (if digits.isEmpty then none else some (ofDigits digits), s.drop digits.length)

def fill : (fuel : Nat) → Text → Filling Unit
  | 0, _ => return
  | _, [] => return
  | fuel + 1, '\\' :: s => do
    let (cs, n) := escape s
    write cs
    fill fuel (s.drop n)
  | fuel + 1, '%' :: '%' :: s => do
    write ['%']
    fill fuel s
  | fuel + 1, '%' :: s => do
    let flags := s.takeWhile fun c => ("#-+ 0" : Text).contains c
    let (width, rest) ← size (s.drop flags.length)
    let (precision, rest) ←
      match rest with
      | '.' :: r => do
        let (n, r) ← size r
        pure (some (n.getD 0), r)
      | _ => pure (none, rest)
    let width := width.getD 0
    let flags := if width < 0 then '-' :: flags else flags
    let precision :=
      match precision with
      | some n => if n < 0 then none else some n.toNat
      | none => none
    match rest with
    | [] => throw (.fault "missing format character")
    | kind :: after =>
      if ("sbcdiuoxXaAeEfFgG" : Text).contains kind then
        Conversion.apply ⟨flags, width.natAbs, precision⟩ kind
        fill fuel after
      else throw (.fault ('%' :: s.take (s.length - after.length) ++ ": invalid directive"))
  | fuel + 1, c :: s => do
    let run := (c :: s).takeWhile fun c => c ≠ '\\' && c ≠ '%'
    write run
    fill fuel ((c :: s).drop run.length)

/-- Writes a format as often as it takes up arguments. -/
def fillAll : (fuel : Nat) → Text → Filling Unit
  | 0, _ => return
  | fuel + 1, format => do
    let before := (← get).arguments.length
    fill (format.length + 1) format
    let after := (← get).arguments.length
    if after = 0 || after = before then return else fillAll fuel format

end Format

/-- What `printf` writes for a format and its arguments: the text, the complaints, and a fault that
the format ends with. -/
def printed (format : Text) (arguments : List Text) : Text × List Text × Option Text :=
  let (outcome, p) := (Format.fillAll (arguments.length + 1) format).run.run { arguments }
  let fault? :=
    match outcome with
    | .error (.fault what) => some what
    | _ => none
  (p.written.reverse.flatten, p.complaints.reverse, fault?)

end ClasspathProbe.Shell
