import ClasspathProbe.Text

/-!
# Environment files

A file with lines `NAME=value`, as it is kept beside a project. Values may stand in quotes, with
escapes, and refer to earlier values and to the environment. A line that cannot be read is passed
over, but its number is known.
-/

namespace ClasspathProbe.EnvFile

/-- Whether a character is white space within a line. -/
def isInnerSpace (c : Char) : Bool := Text.isSpace c && c ≠ '\r' && c ≠ '\n'

def isBreak (c : Char) : Bool := c = '\r' || c = '\n'

/-- A text without white space of its line at its start. -/
def skipSpace (s : Text) : Text := s.dropWhile isInnerSpace

/-- The text in quotes after the opening one, and what follows the closing one. A quote behind a
backslash does not close, unless no other does; a backslash behind another does not count for the
quote behind it. -/
def quotedValue (quote : Char) : Text → Option (Text × Text)
  | [] => none
  | [c] => if c = quote then some ([], []) else none
  | c :: d :: s =>
    if c = quote then some ([], d :: s)
    else if c = '\\' && d = '\\' then
      (quotedValue quote s).map fun (v, rest) => (c :: d :: v, rest)
    else if c = '\\' && d = quote then
      match quotedValue quote s with
      | some (v, rest) => some (c :: d :: v, rest)
      | none => some ([c], s)
    else (quotedValue quote (d :: s)).map fun (v, rest) => (c :: v, rest)

/-- The character behind a backslash, if it is an escape in double quotes. -/
def escape? : Char → Option Char
  | '\\' => some '\\'
  | '\'' => some '\''
  | '"' => some '"'
  | 'a' => some '\x07'
  | 'b' => some '\x08'
  | 'f' => some '\x0c'
  | 'n' => some '\n'
  | 'r' => some '\r'
  | 't' => some '\t'
  | 'v' => some '\x0b'
  | _ => none

/-- The character behind a backslash, if it is an escape in quotes of a kind. -/
def escapeIn (quote c : Char) : Option Char :=
  if quote = '"' then escape? c else if c = '\\' || c = '\'' then some c else none

def unescaped (quote : Char) : Text → Text
  | '\\' :: c :: s =>
    match escapeIn quote c with
    | some d => d :: unescaped quote s
    | none => '\\' :: unescaped quote (c :: s)
  | c :: s => c :: unescaped quote s
  | [] => []
termination_by s => s.length

/-- A text up to the first comment that white space stands before. -/
def withoutComment : Text → Text
  | [] => []
  | c :: s =>
    if Text.isSpace c && (Text.stripStart s).head? = some '#' then [] else c :: withoutComment s

/-- Reads the value that a text behind an equal sign starts with, and what follows it. White space
in front of it does not belong to it, but tells a comment from a value that starts with `#`: `A=#b`
gives `#b`, and `A= #b` gives nothing. -/
def readValue (s : Text) : Option (Text × Text) :=
  match skipSpace s with
  | [] => some ([], [])
  | c :: r =>
    if c = '\'' || c = '"' then
      (quotedValue c r).map fun (v, rest) => (unescaped c v, rest)
    else
      let line := s.takeWhile fun c => !isBreak c
      some (Text.strip (withoutComment line), s.drop line.length)

/-- What follows the end of a line, after white space and a comment. -/
def skipEnd? (s : Text) : Option Text :=
  let s :=
    match skipSpace s with
    | '#' :: r => r.dropWhile fun c => !isBreak c
    | _ => s
  match skipSpace s with
  | '\r' :: '\n' :: r => some r
  | '\n' :: r => some r
  | '\r' :: r => some r
  | [] => some []
  | _ => none

/-- What a line of the file says: a name with or without a value, nothing, or nothing that can be
read. -/
inductive Statement where
  | binding (name : Text) (value : Option Text)
  | comment
  | unreadable

/-- A line of the file, and what follows it. A value in quotes may go over several lines. -/
structure Line where
  statement : Statement
  rest : Text

/-- What follows the line that a text starts in. -/
def skipLine (s : Text) : Text := (s.dropWhile fun c => !isBreak c).drop 1

def skipExport (s : Text) : Text :=
  match Text.after? "export" s with
  | some r => if (r.head?.map isInnerSpace).getD false then skipSpace r else s
  | none => s

/-- Reads a name, quoted or not; the first result is none at a comment. -/
def readName (s : Text) : Option (Option Text × Text) :=
  match s with
  | '#' :: _ => some (none, s)
  | '\'' :: r =>
    let name := r.takeWhile (· ≠ '\'')
    match name.isEmpty, r.drop name.length with
    | false, '\'' :: rest => some (some name, rest)
    | _, _ => none
  | _ =>
    let name := s.takeWhile fun c => c ≠ '=' && c ≠ '#' && !Text.isSpace c
    if name.isEmpty then none else some (some name, s.drop name.length)

/-- What a line says that has a name or is a comment, and a value or none. -/
def Statement.of (name : Option Text) (value : Option Text) : Statement :=
  match name with
  | some name => .binding name value
  | none => .comment

/-- Reads a line that starts with a visible character. -/
def readLine (s : Text) : Line :=
  let s := skipExport s
  match readName s with
  | none => ⟨.unreadable, skipLine s⟩
  | some (name, s) =>
    match skipSpace s with
    | '=' :: r =>
      match readValue r with
      | none => ⟨.unreadable, skipLine r⟩
      | some (v, rest) =>
        match skipEnd? rest with
        | some rest => ⟨.of name (some v), rest⟩
        | none => ⟨.unreadable, skipLine rest⟩
    | rest =>
      match skipEnd? rest with
      | some rest => ⟨.of name none, rest⟩
      | none => ⟨.unreadable, skipLine rest⟩

/-- The statements of a file, in order, each with the number of the line where the one before it
ends: empty lines in front of a statement count as its own. -/
def statements : (fuel : Nat) → (number : Nat) → Text → List (Nat × Statement)
  | 0, _, _ => []
  | fuel + 1, number, s =>
    let shown := Text.stripStart s
    if shown.isEmpty then []
    else
      let line := readLine shown
      let next := number + (s.countP isBreak - line.rest.countP isBreak)
      (number, line.statement) :: statements fuel next line.rest

/-- A text without a byte order mark at its start. -/
def withoutMark (file : Text) : Text :=
  match file with
  | '\uFEFF' :: s => s
  | s => s

/-- The statements of a file whose lines end in single line ends. -/
def ofText (file : Text) : List (Nat × Statement) :=
  statements (file.length + 1) 1 (withoutMark file)

/-- The numbers of the lines that cannot be read. -/
def unreadable (lines : List (Nat × Statement)) : List Nat :=
  lines.filterMap fun
    | (number, .unreadable) => some number
    | _ => none

/-- A reference to a variable after its dollar sign and brace: its name, the text to use when it is
not set, and what follows. -/
def reference? (s : Text) : Option (Text × Text × Text) :=
  let name := s.takeWhile fun c => c ≠ '\x7d' && c ≠ ':'
  match s.drop name.length with
  | '\x7d' :: rest => some (name, [], rest)
  | ':' :: '-' :: r =>
    let default := r.takeWhile (· ≠ '\x7d')
    match r.drop default.length with
    | '\x7d' :: rest => some (name, default, rest)
    | _ => none
  | _ => none

def resolved (look : Text → Option (Option Text)) : (fuel : Nat) → Text → Text
  | 0, s => s
  | _, [] => []
  | fuel + 1, c :: s =>
    let found? := if c = '$' && s.head? = some '\x7b' then reference? s.tail else none
    match found? with
    | some (name, default, rest) =>
      let value := match look name with | some v => v.getD [] | none => default
      value ++ resolved look fuel rest
    | none => c :: resolved look fuel s

/-- Values with one stored under a name: in the name's place when it is there, else at the end. -/
def store (name : Text) (value : Option Text) :
    List (Text × Option Text) → List (Text × Option Text)
  | [] => [(name, value)]
  | (k, v) :: ps => if k = name then (k, value) :: ps else (k, v) :: store name value ps

/-- The values that statements give: earlier ones and the environment are what references refer to,
earlier ones first; of several values of one name the last counts. -/
def values (environment : List (Text × Text)) (lines : List (Nat × Statement)) :
    List (Text × Option Text) :=
  lines.foldl (fun known line =>
    let look (n : Text) : Option (Option Text) :=
      match known.lookup n with
      | some v => some v
      | none => (environment.lookup n).map some
    match line.2 with
    | .binding name raw => store name (raw.map fun s => resolved look (s.length + 1) s) known
    | _ => known) []

end ClasspathProbe.EnvFile
