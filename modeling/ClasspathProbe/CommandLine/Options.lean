import ClasspathProbe.Text.Quoted

/-!
# Options

Reading the words of a command line: options with and without a value, spelled long or short, and
operands. A word is an option when it starts with a dash and is longer than one; after the word `--`
every word is an operand. Short options can share a word, and the value of an option can stand in
the word itself or be the next word.
-/

namespace ClasspathProbe.CommandLine

/-- What is wrong with the words of a command line. -/
inductive UsageError where
  | unknownOption (name : Text)
  | missingValue (option : Text)
  | unwantedValue (option : Text)
  | unknownCommand (name : Text)
  | missingCommand
  | missingPath
  | noSuchPath (path : Text)
  | noSuchConfig (path : Text)
  | directoryAsConfig (path : Text)
  | unexpected (words : List Text)
  /-- There are no words at all, which asks for help. -/
  | nothing
deriving DecidableEq

/-- The wording of a usage error; there is none when help is shown in its place. -/
def UsageError.message? : UsageError → Option Text
  | .unknownOption name => some ("No such option " ++ Text.quoted name ++ ".")
  | .missingValue option => some ("Option " ++ Text.quoted option ++ " requires an argument.")
  | .unwantedValue option => some ("Option " ++ Text.quoted option ++ " does not take a value.")
  | .unknownCommand name => some ("No such command " ++ Text.quoted name ++ ".")
  | .missingCommand => some "Missing command."
  | .missingPath => some "Missing argument 'PATH'."
  | .noSuchPath path =>
    some ("Invalid value for 'PATH': Path " ++ Text.quoted path ++ " does not exist.")
  | .noSuchConfig path =>
    some ("Invalid value for '--config' / '-c': File " ++ Text.quoted path ++ " does not exist.")
  | .directoryAsConfig path =>
    some ("Invalid value for '--config' / '-c': File " ++ Text.quoted path ++ " is a directory.")
  | .unexpected words =>
    let noun : Text := if words.length = 1 then "argument" else "arguments"
    some ("Got unexpected extra " ++ noun ++ " (" ++ Text.joined [' '] words ++ ")")
  | .nothing => none

/-- An option. -/
inductive Switch where
  | config
  | verbose
  | version
  | json
  | help
deriving DecidableEq, Repr

def Switch.takesValue : Switch → Bool
  | .config => true
  | _ => false

/-- Which options there are, by their long and short names, and whether options may follow
operands. -/
structure Grammar where
  long : List (Text × Switch)
  short : List (Char × Switch)
  interspersed : Bool

/-- The options found, in order and with their values, and the operands. -/
structure Words where
  switches : List (Switch × Text) := []
  operands : List Text := []
deriving DecidableEq

/-- An option as it was spelled, whose value is still to come. -/
abbrev Awaiting := Option (Switch × Text)

namespace Grammar

def readShort (g : Grammar) : Text → Except UsageError (List (Switch × Text) × Awaiting)
  | [] => .ok ([], none)
  | c :: letters =>
    match g.short.lookup c with
    | none => .error (.unknownOption ['-', c])
    | some o =>
      if o.takesValue then
        if letters.isEmpty then .ok ([], some (o, ['-', c])) else .ok ([(o, letters)], none)
      else do
        let (switches, awaiting) ← readShort g letters
        return ((o, []) :: switches, awaiting)

/-- Reads a word that starts with a dash. -/
def readWord (g : Grammar) (word : Text) :
    Except UsageError (List (Switch × Text) × Awaiting) :=
  let (name, value) :=
    match Text.cut? ['='] word with
    | some (name, value) => (name, some value)
    | none => (word, none)
  match g.long.lookup name, value with
  | some o, none => .ok (if o.takesValue then ([], some (o, name)) else ([(o, [])], none))
  | some o, some v =>
    if o.takesValue then .ok ([(o, v)], none) else .error (.unwantedValue name)
  | none, _ =>
    if (Text.after? "--" word).isSome then .error (.unknownOption name)
    else readShort g (word.drop 1)

/-- Reads words, the first of which is the value of an option that awaits one. -/
def readAfter (g : Grammar) : Awaiting → List Text → Except UsageError Words
  | none, [] => .ok {}
  | some (_, name), [] => .error (.missingValue name)
  | some (o, _), word :: words => do
    let more ← readAfter g none words
    return { more with switches := (o, word) :: more.switches }
  | none, word :: words =>
    if word = ['-', '-'] then .ok { operands := words }
    else if word.head? = some '-' ∧ word.length > 1 then do
      let (switches, awaiting) ← readWord g word
      let more ← readAfter g awaiting words
      return { more with switches := switches ++ more.switches }
    else if g.interspersed then do
      let more ← readAfter g none words
      return { more with operands := word :: more.operands }
    else .ok { operands := word :: words }

def read (g : Grammar) (words : List Text) : Except UsageError Words := g.readAfter none words

end Grammar

namespace Words

def has (w : Words) (o : Switch) : Bool := w.switches.any (·.1 = o)

/-- The value of the last occurrence of an option. -/
def value? (w : Words) (o : Switch) : Option Text := w.switches.reverse.lookup o

end Words

end ClasspathProbe.CommandLine
