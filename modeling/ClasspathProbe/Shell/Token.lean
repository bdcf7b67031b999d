import ClasspathProbe.Shell.Command

/-!
# Tokens of shell scripts

What a script is read from, and the pieces it is read in. Reading knows the line it is on, can hand
back one token, and collects the texts that stand in the script for streams to read from; such a
text starts on the line after the one that asks for it.
-/

namespace ClasspathProbe.Shell

/-- A fault in a script, with its line. -/
structure Fault where
  line : Nat
  what : Text
deriving DecidableEq

/-- The operators that open a file, copy a stream or start a text for a stream. -/
inductive Arrow where
  | opening (o : Opening)
  | copy
  | document (withoutTabs : Bool)
deriving DecidableEq

/-- A token of a script. -/
inductive Token where
  | finish
  | newline
  | operator (s : Text)
  | keyword (s : Text)
  | arrow (stream : Nat) (a : Arrow)
  | word (w : Word)

namespace Token

/-- How a fault names a token. -/
def name : Token → Text
  | .finish => "end of file"
  | .newline => "newline"
  | .operator s | .keyword s => '"' :: s ++ ['"']
  | .arrow .. => "redirection"
  | .word _ => "word"

/-- The words that have a meaning of their own where a command can start. -/
def keywords : List Text :=
  let all : List String :=
    ["!", "case", "do", "done", "elif", "else", "esac", "fi", "for", "if", "in", "then", "until",
      "while", "\x7b", "\x7d"]
  all.map String.toList

def asKeyword (t : Token) : Token :=
  match t with
  | .word w =>
    match bare? w with
    | some s => if keywords.contains s then .keyword s else t
    | none => t
  | _ => t

def isKeyword (s : String) : Token → Bool
  | .keyword k => k = s.toList
  | _ => false

def isOperator (s : String) : Token → Bool
  | .operator o => o = s.toList
  | _ => false

/-- Whether a token ends a list of commands. -/
def closes : Token → Bool
  | .finish => true
  | .operator s => s = [')'] || s = [';', ';']
  | .keyword s =>
    let closers : List String := ["do", "done", "elif", "else", "esac", "fi", "then", "\x7d"]
    closers.any fun k => s = k.toList
  | _ => false

end Token

/-- A text that a stream will read, asked for but not reached yet. -/
structure Request where
  number : Nat
  delimiter : Text
  /-- Whether expansions stand for themselves. -/
  verbatim : Bool
  withoutTabs : Bool

/-- The text behind the line that ends a text for a stream, if that is the line at the start. -/
def Request.textBehind? (r : Request) (s : Text) : Option Text :=
  match Text.after? r.delimiter s with
  | some [] => some []
  | some ('\n' :: rest) => some rest
  | _ => none

/-- A script while it is read. -/
structure Source where
  rest : Text
  line : Nat := 1
  /-- A token that was handed back. -/
  unread : Option Token := none
  requests : List Request := []
  /-- The texts read for streams, by their numbers, and the next number. -/
  documents : List (Nat × Word) := []
  next : Nat := 0
  /-- The texts that stand for the first words of commands. -/
  aliases : List (Text × Text) := []
  /-- The aliases whose texts are being read, each with how much is left to read when its text is
  used up. -/
  inUse : List (Text × Nat) := []
  /-- Whether what is being read is a text for a stream. -/
  inDocument : Bool := false
  /-- What asked for that text; without it the text ends with the source. -/
  request : Option Request := none
  /-- What follows that text, when its end has been reached. -/
  beyond : Option Text := none

/-- Reading from a script. -/
abbrev Reader := StateT Source (Except Fault)

namespace Reader

def fail {α : Type} (what : Text) : Reader α := fun s =>
  .error ⟨s.line, "Syntax error: " ++ what⟩

/-- Stops at the end of a script with a quote or an expansion still open. In a text for a stream
quotes are none. -/
def failOpen {α : Type} (inQuotes : Bool) : Reader α := do
  let quotes : Bool := inQuotes && !(← get).inDocument
  fail (if quotes then "Unterminated quoted string" else "Missing '\x7d'")

/-- Stops at a token that does not fit. -/
def unexpected {α : Type} (t : Token) (wanted : Option String) : Reader α :=
  let expecting : Text :=
    match wanted with
    | some s => " (expecting " ++ s.toList ++ ")"
    | none => []
  fail (t.name ++ " unexpected" ++ expecting)

/-- Stops when a script is nested too deep to be read. -/
def tooDeep {α : Type} : Reader α := fail "too deep"

def peek : Reader (Option Char) := do return (← get).rest.head?

def skip (n : Nat) : Reader Unit :=
  modify fun s =>
    { s with rest := s.rest.drop n, line := s.line + (s.rest.take n).count '\n' }

def handBack (t : Token) : Reader Unit := modify fun s => { s with unread := some t }

/-- Takes characters as long as they pass a test. -/
def takeWhile (p : Char → Bool) : Reader Text := do
  let run := (← get).rest.takeWhile p
  skip run.length
  return run

/-- How many characters of blanks, comments and continued lines a text starts with. -/
def blankLength : Text → Nat
  | [] => 0
  | ['\\'] => 0
  | '\\' :: c :: s => if c = '\n' then blankLength s + 2 else 0
  | c :: s =>
    if c = ' ' || c = '\t' then blankLength s + 1
    else if c = '#' then (s.takeWhile (· ≠ '\n')).length + 1
    else 0

def skipBlanks : Reader Unit := do skip (blankLength (← get).rest)

/-- Goes over what separates tokens, and says whether the text of an alias ends there with a blank:
then the next word can be an alias too. -/
def skipToToken : Reader Bool := do
  let before ← get
  skipBlanks
  let after := (← get).rest.length
  let (left, inUse) := before.inUse.partition fun (_, n) => after < n
  modify fun s => { s with inUse }
  return left.any fun (_, n) =>
    n < before.rest.length && isGap before.rest[before.rest.length - n - 1]?
where
  isGap (c : Option Char) : Bool := c = some ' ' || c = some '\t'

/-- Reads the text that a word stands for in its place, and says whether there is one. No alias
stands for something within its own text. -/
def unfoldAlias (w : Word) : Reader Bool := do
  let s ← get
  let found : Option (Text × Text) := do
    let name ← bare? w
    guard (!s.inUse.any (·.1 = name))
    return (name, ← s.aliases.lookup name)
  match found with
  | some (name, text) =>
    let inUse := if text.isEmpty then s.inUse else (name, s.rest.length) :: s.inUse
    set { s with rest := text ++ s.rest, inUse }
    return true
  | none => return false

/-- The text up to the backquote that closes an expansion. Backslashes in front of backslashes,
dollar signs and backquotes are left out, and in double quotes those in front of double quotes. So
are line ends behind backslashes. -/
def backquoted (quoted : Bool) : Text → Option (Text × Nat)
  | [] => none
  | '\x60' :: _ => some ([], 1)
  | ['\\'] => none
  | '\\' :: '\n' :: s => (backquoted quoted s).map fun (inside, n) => (inside, n + 2)
  | '\\' :: c :: s =>
    let kept : Text :=
      if c = '\\' || c = '$' || c = '\x60' || (c = '"' && quoted) then [c] else ['\\', c]
    (backquoted quoted s).map fun (inside, n) => (kept ++ inside, n + 2)
  | c :: s => (backquoted quoted s).map fun (inside, n) => (c :: inside, n + 1)

/-- The word at the start of a text that ends a text for a stream: its characters without their
quotes, whether there were `quotes`, and how many characters it takes up. Nothing is expanded in it.
A `quote` that is open has to be closed. -/
def delimiterOf (quote : Option Char) (quotes : Bool) (s : Text) : Option (Text × Bool × Nat) :=
  let shifted (shown : Text) (taken : Nat) (rest : Option (Text × Bool × Nat)) :
      Option (Text × Bool × Nat) :=
    rest.map fun (word, quotes, n) => (shown ++ word, quotes, n + taken)
  match s, quote with
  | [], none => some ([], quotes, 0)
  | [], some _ => none
  | '\\' :: '\n' :: s, none => shifted [] 2 (delimiterOf none quotes s)
  | '\\' :: c :: s, none => shifted [c] 2 (delimiterOf none true s)
  | '\\' :: c :: s, some '"' =>
    if c = '\n' then shifted [] 2 (delimiterOf quote quotes s)
    else
      let shown : Text := if ("$\"\\" ++ ['\x60'] : Text).contains c then [c] else ['\\', c]
      shifted shown 2 (delimiterOf quote quotes s)
  | c :: s, some q =>
    if c = q then shifted [] 1 (delimiterOf none quotes s)
    else shifted [c] 1 (delimiterOf quote quotes s)
  | c :: s, none =>
    if c = '\'' || c = '"' then shifted [] 1 (delimiterOf (some c) true s)
    else if (" \t\n;&|()<>" : Text).contains c then some ([], quotes, 0)
    else shifted [c] 1 (delimiterOf none quotes s)

/-- A text without the line ends behind backslashes at its start, and how many there are. -/
def withoutContinuations : Text → Text × Nat
  | '\\' :: '\n' :: s =>
    let (rest, n) := withoutContinuations s
    (rest, n + 1)
  | s => (s, 0)

def joinLines : Reader Unit :=
  modify fun s =>
    let (rest, n) := withoutContinuations s.rest
    { s with rest, line := s.line + n }

end Reader

/-- Where a word stands, which decides what ends it and what is special in it. -/
inductive Context where
  | bare
  /-- Between single quotes. -/
  | single
  /-- Between double quotes, perhaps in the braces of an expansion. -/
  | double (inBraces : Bool)
  /-- In the braces of an expansion. -/
  | braces (quoted : Bool)
  /-- Between double quotes in the braces of an expansion that is quoted itself. -/
  | inner
  /-- In an arithmetic expression, with the parentheses that are open. -/
  | arithmetic (depth : Nat)
  /-- In a text for a stream. -/
  | document
  /-- In one in which expansions stand for themselves. -/
  | verbatim
deriving DecidableEq

namespace Context

/-- Whether the characters of a word are quoted. -/
def isQuoted : Context → Bool
  | .bare | .braces false => false
  | _ => true

/-- Whether the characters of a word all stand for themselves. -/
def isVerbatim : Context → Bool
  | .single | .verbatim => true
  | _ => false

/-- The characters that are special in a word. -/
def specials : Context → Text
  | .bare => " \t\n;&|()<>\\'\"$" ++ ['\x60']
  | .single => "'"
  | .double _ => "\\\"$" ++ ['\x60']
  | .braces false => "\\'\"$\x7d" ++ ['\x60']
  | .braces true => "\\\"$\x7d" ++ ['\x60']
  | .inner => "\\\"$" ++ ['\x60']
  | .arithmetic _ => "\\\"$()" ++ ['\x60']
  | .document => "\\$" ++ ['\x60']
  | .verbatim => []

/-- Whether a backslash in front of a character is left out. -/
def escapes (x : Context) (c : Char) : Bool :=
  let isSpecial : Bool := c = '$' || c = '\x60' || c = '\\'
  match x with
  | .bare | .braces false => true
  | .single | .verbatim => false
  | .double false | .arithmetic _ => isSpecial || c = '"'
  | .double true | .braces true | .inner => isSpecial || c = '"' || c = '\x7d'
  | .document => isSpecial

end Context

/-- Parts, last first, and plain characters behind them. Those that are not quoted are one part
together. -/
def withPlain (quoted : Bool) (s : Text) (before : Word) : Word :=
  match s, quoted, before with
  | [], _, _ => before
  | _, false, .plain start false :: before => .plain (start ++ s) false :: before
  | _, _, _ => .plain s quoted :: before

/-- Parts in double quotes, as parts of a word: the places of the quotes are kept, unless they hold
just all arguments. -/
def inDoubleQuotes : Word → Word
  | [.parameter ['@'] .value q] => [.parameter ['@'] .value q]
  | [] => [.plain [] true]
  | w => .plain [] true :: w ++ [.plain [] true]

namespace Reader

/-- Starts a line of a text for a stream, and gives the parts at its start that are read already.
The line that ends the text is gone over, and then nothing is left of it. Behind tabs that are left
out the end of a line stands for itself, also with a backslash in front of it. -/
def startLine (x : Context) : Reader Word := do
  if !x.isVerbatim then joinLines
  let s ← get
  let some r := s.request | return []
  let rest := if r.withoutTabs then s.rest.dropWhile (· = '\t') else s.rest
  match r.textBehind? rest, rest with
  | some beyond, _ =>
    set { s with rest := [], beyond := some beyond, line := s.line + 1 }
    return []
  | none, '\\' :: '\n' :: after =>
    if x.isVerbatim then
      set { s with rest }
      return []
    else
      set { s with rest := after }
      return [.plain (if x.escapes '\n' then ['\n'] else ['\\', '\n']) true]
  | none, _ =>
    set { s with rest }
    return []

/-- A text without the line ends behind backslashes that stand behind the characters of an operator
at its start, and how many there are. -/
def unbrokenOperator (s : Text) : Text × Nat :=
  match s with
  | c :: after =>
    if (";&|<>" : Text).contains c then
      let (rest, m) := withoutContinuations after
      match rest with
      | '<' :: more =>
        let (rest, n) := withoutContinuations more
        if c = '<' then (c :: '<' :: rest, m + n) else (c :: '<' :: more, m)
      | _ => (c :: rest, m)
    else (s, 0)
  | [] => (s, 0)

/-- The same for an operator that may have the number of a stream in front of it. -/
def unbroken (s : Text) : Text × Nat :=
  match s with
  | c :: after =>
    let (rest, m) := withoutContinuations after
    if c.isDigit && rest.head?.any ("<>" : Text).contains then
      let (rest, n) := unbrokenOperator rest
      (c :: rest, m + n)
    else unbrokenOperator s
  | [] => (s, 0)

/-- A text without the line ends behind backslashes among the characters at its start that pass a
test, and how many there are. -/
def unbrokenRun (test : Char → Bool) : Text → Text × Nat
  | '\\' :: '\n' :: s =>
    let (rest, n) := unbrokenRun test s
    (rest, n + 1)
  | c :: s =>
    if test c then
      let (rest, n) := unbrokenRun test s
      (c :: rest, n)
    else (c :: s, 0)
  | [] => ([], 0)

/-- The same for the characters that say what is expanded, behind a dollar sign. -/
def unbrokenExpansion (s : Text) : Text × Nat :=
  let (rest, m) := withoutContinuations s
  let isPart (c : Char) : Bool :=
    match rest.head? with
    | some '\x7b' => isNameRest c || ("\x7b#?$!-*@:=+%" : Text).contains c
    | some '(' => c = '('
    | some start => isNameStart start && isNameRest c
    | none => false
  let (rest, n) := unbrokenRun isPart rest
  (rest, m + n)

/-- The operator at the start of a text that redirects a stream. -/
def arrow? (s : Text) : Option (Nat × Arrow × Nat) :=
  match s with
  | '>' :: '>' :: _ => some (1, .opening .append, 2)
  | '>' :: '|' :: _ => some (1, .opening .replace, 2)
  | '>' :: '&' :: _ => some (1, .copy, 2)
  | '>' :: _ => some (1, .opening .write, 1)
  | '<' :: '<' :: '-' :: _ => some (0, .document true, 3)
  | '<' :: '<' :: _ => some (0, .document false, 2)
  | '<' :: '&' :: _ => some (0, .copy, 2)
  | '<' :: '>' :: _ => some (0, .opening .readWrite, 2)
  | '<' :: _ => some (0, .opening .read, 1)
  | _ => none

/-- The operator at the start of a text. -/
def operator? (s : Text) : Option Text :=
  let all : List String := ["&&", "||", ";;", ";", "|", "&", "(", ")"]
  (all.map String.toList).find? fun op => (Text.after? op s).isSome

/-- The use of a parameter that the characters after its name ask for: how many characters say so,
and what is to be done with the word that follows. -/
def useOf (quoted : Bool) (s : Text) : Option (Nat × Context × (Word → Use)) :=
  let fallback (f : Fallback) (emptyToo : Bool) (n : Nat) :
      Option (Nat × Context × (Word → Use)) :=
    some (n, .braces quoted, .fallback f emptyToo)
  match s with
  | ':' :: '-' :: _ => fallback .instead true 2
  | ':' :: '=' :: _ => fallback .assign true 2
  | ':' :: '?' :: _ => fallback .require true 2
  | ':' :: '+' :: _ => fallback .alternative true 2
  | ':' :: '\x7d' :: _ => some (2, .braces quoted, .ending)
  | '-' :: _ => fallback .instead false 1
  | '=' :: _ => fallback .assign false 1
  | '?' :: _ => fallback .require false 1
  | '+' :: _ => fallback .alternative false 1
  | '%' :: '%' :: _ => some (2, .braces false, .trimmed true true)
  | '#' :: '#' :: _ => some (2, .braces false, .trimmed false true)
  | '%' :: _ => some (1, .braces false, .trimmed true false)
  | '#' :: _ => some (1, .braces false, .trimmed false false)
  | _ => none

/-- Whether a character is a parameter by itself. -/
def isSpecialParameter (c : Char) : Bool := ("#?$!-*@" : Text).contains c

/-- The name of a parameter at the start of a text. -/
def parameterName (s : Text) : Text :=
  match s with
  | c :: _ =>
    if isNameStart c then leadingName s
    else if c.isDigit then s.takeWhile Char.isDigit
    else if isSpecialParameter c then [c]
    else []
  | [] => []

end Reader

end ClasspathProbe.Shell
