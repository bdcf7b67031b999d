import ClasspathProbe.Shell.State

/-!
# Arguments of commands

How the built-in commands read what stands behind their names: options, numbers and values for
variables, and how they show a value that can be read again.
-/

namespace ClasspathProbe.Shell

/-- The options at the start of some arguments in order, each with its own argument, and what
follows them; or what is wrong. Options are letters behind a minus sign, of which some are `left` to
read. An allowed letter before a colon takes the rest of its word or the next argument. -/
def options (allowed : Text) : (left : Text) → (args : List Text) →
    Except Text (List (Char × Text) × List Text)
  | [], [] => .ok ([], [])
  | [], w :: rest =>
    match w with
    | ['-', '-'] => .ok ([], rest)
    | '-' :: c :: letters => options allowed (c :: letters) rest
    | _ => .ok ([], w :: rest)
  | c :: letters, args =>
    match if c = ':' then none else Text.cut? [c] allowed with
    | none => .error ("Illegal option -" ++ [c])
    | some (_, ':' :: _) =>
      if !letters.isEmpty then
        (options allowed [] args).map fun (found, r) => ((c, letters) :: found, r)
      else
        match args with
        | [] => .error ("No arg for -" ++ [c] ++ " option")
        | a :: rest => (options allowed [] rest).map fun (found, r) => ((c, a) :: found, r)
    | some _ => (options allowed letters args).map fun (found, r) => ((c, []) :: found, r)
termination_by left args => (args.length, left.length)

/-- The name and the value in an argument. -/
def binding (s : Text) : Text × Option Text :=
  match Text.cut? ['='] s with
  | some (name, value) => (name, some value)
  | none => (s, none)

/-- A value in single quotes, but for runs of single quotes, which stand in double ones. -/
def inSingleQuotes (s : Text) : Text :=
  let isQuote (c : Char) : Bool := c = '\''
  let enclosed (run : Text) : Text :=
    let mark := if run.any isQuote then '"' else '\''
    mark :: run ++ [mark]
  let lead : Text := if s.head?.all isQuote then "''" else []
  lead ++ (s.splitBy fun c d => isQuote c = isQuote d).flatMap enclosed

namespace Running

/-- The options of a command, and its other arguments. -/
def takeOptions (allowed : Text) (args : List Text) :
    Running (List (Char × Text) × List Text) :=
  match options allowed [] args with
  | .ok found => return found
  | .error what => fail what

def plainArguments (args : List Text) : Running (List Text) := do
  return (← takeOptions [] args).2

/-- The arguments of a command with one option, or none where that option is: then nothing behind it
counts. -/
def argumentsUnless (option : Char) (args : List Text) : Running (Option (List Text)) :=
  match args with
  | ('-' :: c :: _) :: _ => if c = option then return none else some <$> plainArguments args
  | _ => return some args

/-- The number that an argument writes in decimal digits; anything else is a fault. -/
def count (s : Text) : Running Nat :=
  if !s.isEmpty && s.all Char.isDigit && ofDigits s < Nat.pow 2 31 then return ofDigits s
  else fail ("Illegal number: " ++ s)

/-- The argument that a command takes at most one of, as a number. -/
def countOr (standard : Nat) (args : List Text) : Running Nat :=
  match args with
  | [] => return standard
  | s :: _ => count s

end Running

end ClasspathProbe.Shell
