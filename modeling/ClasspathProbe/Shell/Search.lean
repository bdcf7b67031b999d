import ClasspathProbe.Machine
import ClasspathProbe.Program.Image
import ClasspathProbe.Shell.Argument
import ClasspathProbe.Shell.Token

/-!
# Finding commands

What a shell takes the name of a command for, where it searches for programs, and which of them it
remembers.
-/

namespace ClasspathProbe.Shell

def isBuiltin (name : Text) : Bool :=
  let all : List String :=
    ["[", "alias", "bg", "cd", "chdir", "command", "echo", "false", "fg", "getopts", "hash", "jobs",
      "kill", "printf", "pwd", "read", "test", "true", "type", "ulimit", "umask", "unalias",
      "wait"]
  isSpecialCommand name || all.any fun s => name = s.toList

/-- What is found under the name of a program. -/
inductive Found where
  | program (path : Text)
  /-- A file that may not be executed. -/
  | denied
  | nothing
deriving DecidableEq

/-- Where programs are searched for that every system has. -/
def systemPath : Text := "/usr/local/sbin:/usr/local/bin:/usr/sbin:/usr/bin:/sbin:/bin"

/-- Where a name stands in a table with a number of rows: the rows come one after the other, and in
each the names in the order in which they came. -/
def tableRow (rows : Nat) (name : Text) : Nat :=
  (name.foldl (fun n c => n + c.toNat) (16 * (name.head?.map Char.toNat).getD 0)) % rows

/-- What a table has in the order of its rows. -/
def inRows {α : Type} (rows : Nat) (entries : List (Text × α)) : List (Text × α) :=
  entries.mergeSort fun a b => tableRow rows a.1 ≤ tableRow rows b.1

/-- The words of the command that `command` is to run, and whether a program is to be searched for
where every system has it. There are none where something is asked about a command. -/
def innerCommand (fromSystem : Bool) : List Text → Option (Bool × List Text)
  | [] => none
  | ['-', '-'] :: rest => if rest.isEmpty then none else some (fromSystem, rest)
  | ('-' :: c :: letters) :: rest =>
    if (c :: letters).all (· = 'p') then innerCommand true rest else none
  | words => some (fromSystem, words)

theorem length_of_innerCommand {fromSystem : Bool} {words : List Text} {found : Bool × List Text}
    (h : innerCommand fromSystem words = some found) : found.2.length ≤ words.length := by
  fun_induction innerCommand fromSystem words with grind

/-- The words of a command without those that `command` is run by. -/
def withoutCommand (words : List Text) : List Text :=
  match words with
  | [] => []
  | name :: args =>
    if name = "command".toList then
      match _ : innerCommand false args with
      | some (_, words) => withoutCommand words
      | none => name :: args
    else name :: args
termination_by words.length
decreasing_by
  have := length_of_innerCommand ‹_ = some _›
  grind

/-- Whether assignments among the arguments of a command are values for variables, which are not cut
into fields. -/
def takesAssignments (name : Text) : Bool :=
  let all : List String := ["alias", "export", "local", "readonly"]
  all.any fun s => name = s.toList

namespace Running

/-! ## Aliases -/

def showAlias (name text : Text) : Running Unit :=
  print (name ++ '=' :: inSingleQuotes text ++ ['\n'])

/-- Says that there is no alias of a name. -/
def denyAlias (command : String) (name : Text) : Running Unit := do
  let _ ← write 2 (command.toList ++ ": " ++ name ++ " not found\n")
  give 1

def defineAliases (args : List Text) : Running Unit := do
  give 0
  if args.isEmpty then
    for (name, text) in inRows 39 (← get).aliases do showAlias name text
  for arg in args do
    let aliases := (← get).aliases
    match binding (arg.drop 1) with
    | (rest, some text) =>
      let name := arg.take 1 ++ rest
      let isKnown : Bool := (aliases.lookup name).isSome
      let changed := aliases.map fun (n, t) => (n, if n = name then text else t)
      modify fun st => { st with aliases := if isKnown then changed else aliases ++ [(name, text)] }
    | (_, none) =>
      match aliases.lookup arg with
      | some text => showAlias arg text
      | none => denyAlias "alias" arg

def dropAliases (args : List Text) : Running Unit := do
  let args? ← argumentsUnless 'a' args
  give 0
  match args? with
  | none => modify fun st => { st with aliases := [] }
  | some names =>
    for name in names do
      let aliases := (← get).aliases
      if (aliases.lookup name).isNone then denyAlias "unalias" name
      modify fun st => { st with aliases := aliases.filter (·.1 ≠ name) }

/-! ## Programs -/

/-- Searches for a program along a path: the first candidate that is a file that may be executed. -/
def search (path name : Text) : Running Found := do
  let st ← get
  let ask (candidate : Text) : Found :=
    match st.traffic.tree.look st.here (Raw.decode candidate) with
    | .ok (_, .file f) => if f.executable then .program candidate else .denied
    | .ok _ => .denied
    | .error _ => .nothing
  let found := (Program.candidates path name).map ask
  let isProgram : Found → Bool
    | .program _ => true
    | _ => false
  return (found.find? isProgram).getD (if found.contains .denied then .denied else .nothing)

/-- Searches for a program along a path that is given, or else finds it where it was found before or
along the path of the shell, and remembers that. -/
def findProgram (path : Option Text) (name : Text) : Running Found := do
  match path, (← get).remembered.lookup name with
  | some path, _ => search path name
  | none, some place => return .program place
  | none, none =>
    let found ← search ((← valueOf "PATH").getD Program.standardPath) name
    match found with
    | .program place =>
      modify fun st => { st with remembered := st.remembered ++ [(name, place)] }
    | _ => pure ()
    return found

/-- Whether a name is that of a function. -/
def isFunction (name : Text) : Running Bool := do
  return ((← get).functions.lookup name).isSome

/-- The name that the words of a command run something by that is built in, as far as they are
known. -/
def builtinName? (words : List Text) : Running (Option Text) := do
  let some name := words.head? | return none
  if ← isFunction name then return none else return (withoutCommand words).head?

/-- Whether a program is built into the shell or one of its functions. -/
def isOwn (name : Text) : Running Bool := do
  return isBuiltin name || (← isFunction name)

/-- Says what a command is, in a word or, at length, in a sentence. Programs are searched for along
a path if one is given. -/
def describe (path : Option Text) (long : Bool) (name : Text) : Running Unit := do
  let say (short sentence : Text) : Running Unit :=
    print ((if long then name ++ sentence else short) ++ ['\n'])
  let st ← get
  let alias? := st.aliases.lookup name
  if Token.keywords.contains name then say name " is a shell keyword"
  else if let some text := alias? then
    say ("alias " ++ name ++ '=' :: inSingleQuotes text) (" is an alias for " ++ text)
  else if ← isFunction name then say name " is a shell function"
  else if isSpecialCommand name then say name " is a special shell builtin"
  else if isBuiltin name then say name " is a shell builtin"
  else
    let found ←
      if name.contains '/' then
        match st.traffic.tree.look st.here (Raw.decode name) with
        | .ok _ => pure (.program name)
        | .error _ => pure .nothing
      else findProgram path name
    match found with
    | .program place =>
      let isKnown : Bool := path.isNone && (st.remembered.lookup name).isSome
      say place ((if isKnown then " is a tracked alias for " else " is ") ++ place)
    | _ =>
      if long then print (name ++ ": not found\n")
      give 127

/-- Says what a command is, when `command` is asked for that. -/
def describeAsked (args : List Text) : Running Unit := do
  let (chosen, args) ← takeOptions "pvV" args
  let has (letter : Char) : Bool := chosen.any (·.1 = letter)
  give 0
  match args with
  | name :: _ =>
    if has 'v' || has 'V' then
      describe (if has 'p' then some systemPath else none) (has 'V') name
  | [] => return

/-- Searches for the programs of a pipeline before it starts, as far as their names say what they
are. -/
def searchAhead (cs : List Command) : Running Unit := do
  for c in cs do
    match c with
    | .simple _ _ (w :: _) _ =>
      match bare? w with
      | some name =>
        if isName name && !(← isOwn name) then
          let _ ← findProgram none name
      | none => pure ()
    | _ => pure ()

/-- Remembers where programs are, forgets them all, or lists what is remembered. -/
def remember (args : List Text) : Running Unit := do
  let (chosen, args) ← takeOptions "r" args
  give 0
  if !chosen.isEmpty then forget
  else if args.isEmpty then
    for (_, place) in inRows 31 (← get).remembered do print (place ++ ['\n'])
  else
    for name in args do
      modify fun st => { st with remembered := st.remembered.filter (·.1 ≠ name) }
      if !(name.contains '/' || (← isOwn name)) then
        match ← findProgram none name with
        | .program _ => pure ()
        | .denied =>
          complain (name ++ ": Permission denied")
          give 1
        | .nothing =>
          complain (name ++ ": not found")
          give 1

end Running

end ClasspathProbe.Shell
