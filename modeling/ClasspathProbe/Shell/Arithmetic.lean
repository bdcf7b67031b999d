import ClasspathProbe.Shell.Command

/-!
# Shell arithmetic

Whole numbers of sixty-four bits, with the operators and the precedences of the expressions in
`$((…))`. A variable stands for the number in its value, and an assignment changes it.
-/

namespace ClasspathProbe.Shell.Arithmetic

/-- Why an expression has no value. -/
inductive Failure where
  /-- An operand is missing. -/
  | noOperand
  /-- A parenthesis is not closed. -/
  | notClosed
  /-- A choice has only one side. -/
  | oneSided
  /-- Something follows the expression. -/
  | moreText
  | divisionByZero
  /-- The value of a variable is not a number. -/
  | notANumber (value : Text)
deriving DecidableEq

/-- An expression. -/
inductive Expression where
  | number (n : Int)
  | named (name : Text)
  | unary (op : Char) (e : Expression)
  | binary (op : Text) (a b : Expression)
  | choice (condition yes no : Expression)
  /-- An assignment; with an operator the old value is its first operand. -/
  | assign (name op : Text) (e : Expression)
  /-- Where a text that is no expression goes wrong. -/
  | fault (why : Failure)
  /-- An expression behind which a text goes wrong. -/
  | faultAfter (e : Expression) (why : Failure)
deriving DecidableEq

/-- The number of sixty-four bits that an integer wraps around to. -/
def wrap (n : Int) : Int := Int.bmod n (Nat.pow 2 64)

/-- An integer brought to the nearest one of sixty-four bits. -/
def clamp (n : Int) : Int := max (-(Int.pow 2 63)) (min n (Int.pow 2 63 - 1))

/-- The value of a digit in any base up to sixteen. -/
def digit? (base : Nat) (c : Char) : Option Nat :=
  let value :=
    if c.isDigit then c.toNat - '0'.toNat
    else if 'a' ≤ c && c ≤ 'f' then c.toNat - 'a'.toNat + 10
    else if 'A' ≤ c && c ≤ 'F' then c.toNat - 'A'.toNat + 10
    else 16
  if value < base then some value else none

/-- The number that the digits at the start of a text write, and what follows them. -/
def digits (base : Nat) : Nat → Text → Nat × Text
  | n, [] => (n, [])
  | n, c :: s =>
    match digit? base c with
    | some d => digits base (n * base + d) s
    | none => (n, c :: s)

/-- The number at the start of a text: hexadecimal after `0x`, binary after `0b`, octal after `0`,
else decimal. -/
def unsigned (s : Text) : Nat × Text :=
  match s with
  | '0' :: x :: c :: r =>
    if (x = 'x' || x = 'X') && (digit? 16 c).isSome then digits 16 0 (c :: r)
    else if (x = 'b' || x = 'B') && (digit? 2 c).isSome then digits 2 0 (c :: r)
    else digits 8 0 s
  | '0' :: _ => digits 8 0 s
  | _ => digits 10 0 s

/-- Whether a character is white space in a number's text. -/
def isSpace (c : Char) : Bool :=
  c = ' ' || c = '\t' || c = '\n' || c = '\x0b' || c = '\x0c' || c = '\r'

/-- The signed number at the start of a text, and what follows it, if there is one. Without
`anyBase` its digits are decimal ones. -/
def signed? (anyBase : Bool) (s : Text) : Option (Int × Text) :=
  let s := s.dropWhile isSpace
  let (negative, s) :=
    match s with
    | '-' :: r => (true, r)
    | '+' :: r => (false, r)
    | _ => (false, s)
  if s.head?.any Char.isDigit then
    let (n, rest) := if anyBase then unsigned s else digits 10 0 s
    some (if negative then -(n : Int) else n, rest)
  else none

/-- The number of sixty-four bits that a whole text writes, blanks around it left out. -/
def whole? (anyBase : Bool) (s : Text) : Option Int :=
  match signed? anyBase s with
  | some (n, rest) => if (rest.dropWhile isSpace).isEmpty && clamp n = n then some n else none
  | none => none

/-- The value of a variable in an expression: an empty one counts as zero. -/
def ofVariable? (s : Text) : Option Int :=
  if (s.dropWhile isSpace).isEmpty then some 0 else whole? true s

/-- How a shell words a failure of an expression. -/
def Failure.message (source : Text) : Failure → Text
  | .notANumber value => "Illegal number: " ++ value
  | .noOperand => about "expecting primary"
  | .notClosed => about "expecting ')'"
  | .oneSided => about "expecting ':'"
  | .moreText => about "expecting EOF"
  | .divisionByZero => about "division by zero"
where
  about (what : Text) : Text := "arithmetic expression: " ++ what ++ ": \"" ++ source ++ ['"']

/-! ## Reading -/

/-- The binary operators of each precedence, the loosest first. -/
def precedences : List (List Text) :=
  let levels : List (List String) :=
    [["||"], ["&&"], ["|"], ["^"], ["&"], ["==", "!="], ["<=", ">=", "<", ">"], ["<<", ">>"],
      ["+", "-"], ["*", "/", "%"]]
  levels.map (·.map String.toList)

def assignments : List Text :=
  let all : List String := ["=", "<<=", ">>=", "+=", "-=", "*=", "/=", "%=", "&=", "^=", "|="]
  all.map String.toList

/-- All operators, each before those that it starts with. -/
def operators : List Text :=
  let all : List String :=
    ["<<=", ">>=", "<<", ">>", "<=", ">=", "==", "!=", "&&", "||", "+=", "-=", "*=", "/=", "%=",
      "&=", "^=", "|=", "=", "<", ">", "+", "-", "*", "/", "%", "&", "^", "|", "!", "~", "?", ":",
      "(", ")"]
  all.map String.toList

/-- A token of an expression. -/
inductive Token where
  | number (n : Int)
  | named (name : Text)
  | operator (s : Text)
  /-- A character that starts no token. -/
  | other
deriving DecidableEq

/-- The tokens of a text; what follows a character that starts none is left out. -/
def tokens : (fuel : Nat) → Text → List Token
  | 0, _ => []
  | _, [] => []
  | fuel + 1, c :: s =>
    if c = ' ' || c = '\t' || c = '\n' then tokens fuel s
    else if c.isDigit then
      let (n, rest) := unsigned (c :: s)
      .number (clamp n) :: tokens fuel rest
    else if isNameStart c then
      let name := leadingName (c :: s)
      .named name :: tokens fuel ((c :: s).drop name.length)
    else
      match operators.find? fun op => (Text.after? op (c :: s)).isSome with
      | some op => .operator op :: tokens fuel ((c :: s).drop op.length)
      | none => [.other]

mutual

/-- Reads an assignment, or an expression without one. -/
def readExpression : (fuel : Nat) → List Token → Expression × List Token
  | 0, _ => (.fault .noOperand, [])
  | fuel + 1, ts =>
    match ts with
    | .named name :: .operator op :: rest =>
      if assignments.contains op then
        let (e, rest) := readExpression fuel rest
        (.assign name op.dropLast e, rest)
      else readChoice fuel ts
    | _ => readChoice fuel ts

/-- Reads an expression that may choose between two. -/
def readChoice : (fuel : Nat) → List Token → Expression × List Token
  | 0, _ => (.fault .noOperand, [])
  | fuel + 1, ts =>
    let (condition, ts) := readBinary fuel precedences ts
    match ts with
    | .operator ['?'] :: ts =>
      let (yes, ts) := readExpression fuel ts
      match ts with
      | .operator [':'] :: ts =>
        let (no, ts) := readChoice fuel ts
        (.choice condition yes no, ts)
      | _ => (.choice condition yes (.fault .oneSided), [])
    | _ => (condition, ts)

def readBinary : (fuel : Nat) → List (List Text) → List Token → Expression × List Token
  | 0, _, _ => (.fault .noOperand, [])
  | fuel + 1, [], ts => readPrimary fuel ts
  | fuel + 1, ops :: looser, ts =>
    let (a, ts) := readBinary fuel looser ts
    readOperations fuel ops looser a ts

/-- Goes on with operations of one precedence, from left to right. -/
def readOperations : (fuel : Nat) → List Text → List (List Text) → Expression → List Token →
    Expression × List Token
  | 0, _, _, _, _ => (.fault .noOperand, [])
  | fuel + 1, ops, looser, a, ts =>
    match ts with
    | .operator op :: rest =>
      if ops.contains op then
        let (b, rest) := readBinary fuel looser rest
        readOperations fuel ops looser (.binary op a b) rest
      else (a, ts)
    | _ => (a, ts)

def readPrimary : (fuel : Nat) → List Token → Expression × List Token
  | 0, _ => (.fault .noOperand, [])
  | fuel + 1, ts =>
    match ts with
    | .number n :: ts => (.number n, ts)
    | .named name :: ts => (.named name, ts)
    | .operator [c] :: ts =>
      if c = '(' then
        let (e, ts) := readExpression fuel ts
        match ts with
        | .operator [')'] :: ts => (e, ts)
        | _ => (.faultAfter e .notClosed, [])
      else if c = '+' then readPrimary fuel ts
      else if c = '-' || c = '!' || c = '~' then
        let (e, ts) := readPrimary fuel ts
        (.unary c e, ts)
      else (.fault .noOperand, [])
    | _ => (.fault .noOperand, [])

end

/-- The expression that a text writes. Where it goes wrong there is a fault in the expression, and
nothing behind that is read. -/
def read (s : Text) : Expression :=
  let ts := tokens (s.length + 1) s
  let (e, rest) := readExpression (16 * ts.length + 16) ts
  if rest.isEmpty then e else .faultAfter e .moreText

/-! ## Values -/

/-- The bits of an integer as a natural number. -/
def bits (n : Int) : Nat := (n % Int.pow 2 64).toNat

/-- An integer that is one when something holds. -/
def truth (p : Bool) : Int := if p then 1 else 0

/-- The value of an operation on two numbers; division by zero has none. -/
def operation (op : Text) (a b : Int) : Except Failure Int :=
  let shift : Nat := (b % 64).toNat
  if op = "|".toList then .ok (wrap (bits a ||| bits b))
  else if op = "^".toList then .ok (wrap (bits a ^^^ bits b))
  else if op = "&".toList then .ok (wrap (bits a &&& bits b))
  else if op = "==".toList then .ok (truth (a = b))
  else if op = "!=".toList then .ok (truth (a != b))
  else if op = "<=".toList then .ok (truth (a ≤ b))
  else if op = ">=".toList then .ok (truth (b ≤ a))
  else if op = "<".toList then .ok (truth (a < b))
  else if op = ">".toList then .ok (truth (b < a))
  else if op = "<<".toList then .ok (wrap (a * Int.pow 2 shift))
  else if op = ">>".toList then .ok (a.fdiv (Int.pow 2 shift))
  else if op = "+".toList then .ok (wrap (a + b))
  else if op = "-".toList then .ok (wrap (a - b))
  else if op = "*".toList then .ok (wrap (a * b))
  else if b = 0 then .error .divisionByZero
  else if op = "/".toList then .ok (wrap (a.tdiv b))
  else .ok (a.tmod b)

/-- The variables of a script as an expression sees them: what it looks up, and what it has
assigned, last first. -/
structure Variables where
  look : Text → Text
  assigned : List (Text × Int) := []

/-- Finding a value with the help of variables, which may change on the way. -/
abbrev Finding := ExceptT Failure (StateM Variables)

def Variables.value (v : Variables) (name : Text) : Except Failure Int :=
  match v.assigned.lookup name with
  | some n => .ok n
  | none =>
    let s := v.look name
    match ofVariable? s with
    | some n => .ok n
    | none => .error (.notANumber s)

/-- The fault in an expression, if there is one. -/
def Expression.fault? : Expression → Option Failure
  | .number _ | .named _ => none
  | .unary _ e | .assign _ _ e => e.fault?
  | .binary _ a b => a.fault?.or b.fault?
  | .choice condition yes no => (condition.fault?.or yes.fault?).or no.fault?
  | .fault why => some why
  | .faultAfter e why => e.fault?.or (some why)

/-- Passes over an expression whose value is not needed; a fault in it shows all the same. -/
def Expression.passOver (e : Expression) : Finding Unit :=
  match e.fault? with
  | some why => throw why
  | none => return

/-- The value of an expression, which is found from left to right, so that a fault shows after what
goes wrong before it. -/
def Expression.value : Expression → Finding Int
  | .number n => return n
  | .named name => do ofExcept ((← get).value name)
  | .unary op e => do
    let n ← e.value
    return if op = '-' then wrap (-n) else if op = '~' then -n - 1 else truth (n = 0)
  | .binary op a b => do
    let m ← a.value
    if op = "||".toList then
      if m ≠ 0 then
        b.passOver
        return 1
      return truth ((← b.value) != 0)
    else if op = "&&".toList then
      if m = 0 then
        b.passOver
        return 0
      return truth ((← b.value) != 0)
    else ofExcept (operation op m (← b.value))
  | .choice condition yes no => do
    if (← condition.value) ≠ 0 then
      let n ← yes.value
      no.passOver
      return n
    else
      yes.passOver
      no.value
  | .assign name op e => do
    let n ← e.value
    let n ←
      if op.isEmpty then pure n
      else do
        let old ← ofExcept ((← get).value name)
        ofExcept (operation op old n)
    modify fun v => { v with assigned := (name, n) :: v.assigned }
    return n
  | .fault why => throw why
  | .faultAfter e why => do
    let _ ← e.value
    throw why

end ClasspathProbe.Shell.Arithmetic
