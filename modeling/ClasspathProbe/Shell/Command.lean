import ClasspathProbe.Text

/-!
# The commands of shell scripts

Wrappers of build tools are shell scripts. Here is what such a script says once it has been read:
words with quotes and expansions, redirections, and the commands built from them. A character of a
script stands for one byte.
-/

namespace ClasspathProbe.Shell

/-- What happens to a parameter that has no value. -/
inductive Fallback where
  /-- The word is used in its place. -/
  | instead
  /-- The word is used in its place, and becomes its value. -/
  | assign
  /-- The word is a complaint, and the script ends. -/
  | require
  /-- Nothing; it is a parameter with a value that the word is used for. -/
  | alternative
deriving DecidableEq

/-- How a redirection opens a file. -/
inductive Opening where
  | read
  | write
  /-- As `write`, also where files are kept from being written over. -/
  | replace
  | append
  | readWrite
deriving DecidableEq

mutual

/-- A part of a word. What stands in quotes is neither cut at blanks nor a pattern. -/
inductive Part where
  /-- Characters that stand for themselves. -/
  | plain (s : Text) (quoted : Bool)
  /-- The value of a parameter, put to some use. -/
  | parameter (name : Text) (use : Use) (quoted : Bool)
  /-- What a command writes. -/
  | output (c : Command) (quoted : Bool)
  /-- The value of an arithmetic expression. -/
  | arithmetic (expression : List Part) (quoted : Bool)

/-- What the value of a parameter is used for. -/
inductive Use where
  | value
  | length
  /-- The value if there is one; an empty value counts as none when `emptyToo` is set. -/
  | fallback (f : Fallback) (emptyToo : Bool) (w : List Part)
  /-- The value without the shortest or the longest piece at one end that matches a pattern. -/
  | trimmed (atEnd longest : Bool) (pattern : List Part)
  /-- The value, for which an empty one does not count, and then a word with which the word around
  ends. -/
  | ending (w : List Part)
  /-- A use that the language does not have. -/
  | unknown

/-- A redirection of a numbered stream. -/
inductive Redirection where
  | file (stream : Nat) (opening : Opening) (name : List Part)
  /-- The stream becomes a copy of another one, or is closed. -/
  | copy (stream : Nat) (source : List Part)
  /-- The stream reads a text in the script, by its number. -/
  | document (stream number : Nat)

/-- A command. -/
inductive Command where
  | nothing
  /-- A command with its line: assignments, words and redirections. -/
  | simple (line : Nat) (assignments : List (Text × List Part)) (words : List (List Part))
      (redirections : List Redirection)
  /-- Commands of which each reads what the one before it writes. -/
  | pipe (commands : List Command)
  | negated (c : Command)
  | sequence (first second : Command)
  | both (first second : Command)
  | either (first second : Command)
  | background (c : Command)
  | branch (condition yes no : Command)
  /-- Repeats the body as long as the condition ends with success, or with `until_` with failure. -/
  | loop (until_ : Bool) (condition body : Command)
  /-- Runs the body for each of some words, or for each argument. -/
  | each (line : Nat) (name : Text) (words : Option (List (List Part))) (body : Command)
  /-- Runs the commands of the first clause that has a pattern the subject matches. -/
  | choice (line : Nat) (subject : List Part) (clauses : List (List (List Part) × Command))
  | redirected (line : Nat) (c : Command) (redirections : List Redirection)
  /-- Runs in a shell of its own. -/
  | nested (line : Nat) (c : Command) (redirections : List Redirection)
  | define (name : Text) (body : Command)

end

/-- A word, as its parts. -/
abbrev Word := List Part

/-- How many commands there are between bars. -/
def Command.size : Command → Nat
  | .pipe cs => cs.length
  | .redirected _ c [] => c.size
  | _ => 1

/-- Whether a word ends with a part, whatever follows it. -/
def Part.endsWord : Part → Bool
  | .parameter _ (.ending _) _ => true
  | _ => false

def isNameStart (c : Char) : Bool := c.isAlpha || c = '_'

/-- Whether a character can stand in a name. -/
def isNameRest (c : Char) : Bool := c.isAlphanum || c = '_'

/-- The name at the start of a text. -/
def leadingName (s : Text) : Text :=
  match s with
  | c :: _ => if isNameStart c then s.takeWhile isNameRest else []
  | [] => []

def isName (s : Text) : Bool := !s.isEmpty && leadingName s = s

def ofDigits (digits : Text) : Nat :=
  digits.foldl (fun n c => n * 10 + (c.toNat - '0'.toNat)) 0

def Redirection.stream : Redirection → Nat
  | .file stream _ _ | .copy stream _ | .document stream _ => stream

/-- The name and the rest of a word that is an assignment. -/
def assignment? : Word → Option (Text × Word)
  | .plain s false :: w =>
    let name := leadingName s
    match name, s.drop name.length with
    | _ :: _, '=' :: rest => some (name, if rest.isEmpty then w else .plain rest false :: w)
    | _, _ => none
  | _ => none

/-- The characters of a word that has neither quotes nor expansions. -/
def bare? : Word → Option Text
  | [.plain s false] => some s
  | _ => none

/-- Whether a command is one of those that are special to shells: a fault in it ends the shell, and
no function can have its name. -/
def isSpecialCommand (name : Text) : Bool :=
  let all : List String :=
    [".", ":", "break", "continue", "eval", "exec", "exit", "export", "local", "readonly", "return",
      "set", "shift", "times", "trap", "unset"]
  all.any fun s => name = s.toList

end ClasspathProbe.Shell
