import ClasspathProbe.Shell.Condition
import ClasspathProbe.Shell.Format
import ClasspathProbe.Shell.Glyph
import ClasspathProbe.Shell.Limit
import ClasspathProbe.Shell.Process
import ClasspathProbe.Shell.Search
import ClasspathProbe.Shell.Token

/-!
# Commands of the shell

The built-in commands that only look at the state of the shell and change it. Those that run other
commands are part of running.
-/

namespace ClasspathProbe.Shell

namespace Running

def leaveLoops (again : Bool) (args : List Text) : Running Unit := do
  let n ← countOr 1 args
  if n = 0 then fail ("Illegal number: " ++ (args.head?.getD []))
  let around := (← get).loops
  give 0
  if around ≠ 0 then throw (.loops (min n around) again)

/-- Lists the variables that pass a test, in order, each after a text. -/
def list (lead : Text) (test : Variable → Bool) : Running Unit := do
  let listed := (← get).bound.filter fun (_, v) => test v
  for (name, v) in listed.mergeSort fun a b => Text.le a.1 b.1 do
    let value : Text :=
      match v.value with
      | some s => '=' :: inSingleQuotes s
      | none => []
    print (lead ++ name ++ value ++ ['\n'])

/-- Gives variables values and a mark. -/
def mark (lead : String) (test : Variable → Bool) (change : Variable → Variable)
    (args : List Text) : Running Unit := do
  let args := (← argumentsUnless 'p' args).getD []
  give 0
  if args.isEmpty then list lead.toList test
  for arg in args do
    let (name, value?) := binding arg
    if !isName name then fail (name ++ ": bad variable name")
    match value? with
    | some value => assign name value
    | none => pure ()
    bind name (some (change (← variableOf name)))

/-- Makes variables local to the function that is running, or with a minus sign the options of the
shell. -/
def makeLocal (args : List Text) : Running Unit := do
  if (← get).calls = 0 then fail "not in a function"
  give 0
  for arg in args do
    if arg = ['-'] then
      modify fun st => { st with savedFlags := st.savedFlags.or (some st.flags) }
    else
      let (name, value?) := binding arg
      if !isName name then fail (name ++ ": bad variable name")
      modify fun st => { st with saved := (name, st.bound.lookup name) :: st.saved }
      match value? with
      | some value => assign name value
      | none => pure ()

/-- Takes away variables or functions, as the last option says. -/
def unset (args : List Text) : Running Unit := do
  let (chosen, args) ← takeOptions "vf" args
  give 0
  if chosen.getLast?.any (·.1 = 'f') then
    modify fun st => { st with functions := st.functions.filter fun f => !args.contains f.1 }
  else
    for arg in args do
      let (name, _) := binding arg
      if !isName name then fail (name ++ ": bad variable name")
      drop name

def setOptions (args : List Text) : Running Unit := do
  give 0
  if args.isEmpty then list [] fun v => v.value.isSome
  else
    let choice := Program.options false (← get).flags true [] args
    modify fun st => { st with flags := choice.flags.filter (· ≠ 'm') }
    print choice.shown
    match choice.fault with
    | some what => fail what
    | none => pure ()
    if choice.flags.contains 'm' then complain "can't access tty; job control turned off"
    if !choice.rest.isEmpty || choice.closed then
      modify fun st => { st with arguments := choice.rest, options := (1, 0) }

def shift (args : List Text) : Running Unit := do
  let n ← countOr 1 args
  let arguments := (← get).arguments
  if arguments.length < n then fail "can't shift that many"
  modify fun st => { st with arguments := arguments.drop n, options := (1, 0) }
  give 0

/-! ## Directories -/

/-- A path with its dots and double dots worked out. -/
def straightened (path : Text) : Text :=
  let names := (Text.pieces '/' path).foldl (fun names name =>
    if name.isEmpty || name = ['.'] then names
    else if name = ['.', '.'] then names.dropLast
    else names ++ [name]) []
  '/' :: Text.joined ['/'] names

/-- The path of a place. -/
def pathOf (place : Location) : Text := '/' :: Text.joined ['/'] (place.map Raw.encode)

/-- Whether the last of the options says that links are to be followed. -/
def isPhysical (chosen : List (Char × Text)) : Bool := chosen.getLast?.any (·.1 = 'P')

/-- The directory in the search path for directories that a name leads to, and whether it is to be
shown. -/
def searchedDirectory (target : Text) : Running (Option (Text × Bool)) := do
  let st ← get
  let isDirectory (path : Text) : Bool :=
    match st.traffic.tree.look st.here (Raw.decode path) with
    | .ok (_, .directory _) => true
    | _ => false
  match ← valueOf "CDPATH" with
  | none => return none
  | some entries =>
    let candidates := (Text.pieces ':' entries).map fun entry =>
      (Path.inDirectory entry target, !entry.isEmpty)
    return candidates.find? fun (path, _) => isDirectory path

/-- Goes to another directory: the one that is named, the home directory or with a minus sign the
one before. -/
def enter (args : List Text) : Running Unit := do
  let (chosen, args) ← takeOptions "LP" args
  let st ← get
  let isBack : Bool := args.head? = some ['-']
  let standard ← if isBack then valueOf "OLDPWD" else valueOf "HOME"
  let target := if isBack then standard.getD [] else args.head?.getD (standard.getD [])
  let isDirect : Bool :=
    target.head? = some '/' || [['.'], ['.', '.']].contains (target.takeWhile (· ≠ '/'))
  let found ← if isDirect then pure none
    else searchedDirectory (if target.isEmpty then ['.'] else target)
  let (path, isFound) := found.getD (target, false)
  let full :=
    if path.head? = some '/' then path
    else if path.isEmpty then st.directory
    else st.directory ++ '/' :: path
  let full := if isPhysical chosen then full else straightened full
  match st.traffic.tree.look st.here (Raw.decode full) with
  | .ok (place, .directory _) =>
    let directory := if isPhysical chosen then pathOf place else full
    set { st with here := place, directory }
    assignSeen "OLDPWD" st.directory
    assignSeen "PWD" directory
    give 0
    if isBack || isFound then print (directory ++ ['\n'])
  | _ => fail ("can't cd to " ++ target)

/-! ## Input -/

/-- A line that was read: its glyphs, whether its end was there, and how many characters it took
from which rest. -/
structure ReadLine where
  glyphs : List Glyph
  ended : Bool
  taken : Nat
  rest : Text

/-- The line with some glyphs in front of it, which took more characters. -/
def ReadLine.after (gs : List Glyph) (taken : Nat) (l : ReadLine) : ReadLine :=
  { l with glyphs := gs ++ l.glyphs, taken := taken + l.taken }

/-- Reads a line. A backslash keeps the character behind it as it is, or goes on with the next
line. -/
def readLine (verbatim : Bool) : Text → ReadLine
  | [] => ⟨[], false, 0, []⟩
  | '\n' :: s => ⟨[], true, 1, s⟩
  | '\x00' :: s => (readLine verbatim s).after [] 1
  | [c] => ⟨if c = '\\' && !verbatim then [] else [.loose c], false, 1, []⟩
  | c :: d :: s =>
    if c = '\\' && !verbatim then
      (readLine verbatim s).after (if d = '\n' then [] else [.fixed d]) 2
    else (readLine verbatim (d :: s)).after [.loose c] 1

/-- Gives the variable that a word names up to an equals sign a value. -/
def assignNamed (word value : Text) : Running Unit := do
  let (name, _) := binding word
  if !isName name then fail (name ++ ": bad variable name")
  assign name value

def read (args : List Text) : Running Unit := do
  let (chosen, names) ← takeOptions "p:r" args
  let verbatim := chosen.any (·.1 = 'r')
  if names.isEmpty then fail "arg count"
  let input := (← get).streams.lookup 0
  let line := readLine verbatim (← unread input)
  leave input line.taken line.rest
  let values := Glyph.leadingFields (← separators) names.length line.glyphs
  for (name, i) in names.zipIdx do assignNamed name (Glyph.text (values[i]?.getD []))
  give (if line.ended then 0 else 1)

/-! ## Options of scripts -/

/-- What a search for an option finds. -/
inductive FoundOption where
  | nothing
  | unknown (letter : Char)
  /-- An option whose argument is missing. -/
  | bare (letter : Char)
  /-- An option with its argument, which is empty if it takes none. -/
  | option (letter : Char) (argument : Text)

/-- Whether an option is one of those allowed, and then whether it takes an argument, as a colon
behind its letter says. -/
def takesArgument? (letter : Char) : (allowed : Text) → Option Bool
  | [] => none
  | c :: rest =>
    if c = letter then some (rest.head? = some ':')
    else
      match rest with
      | ':' :: rest => takesArgument? letter rest
      | rest => takesArgument? letter rest

/-- Searches arguments for an option, from the argument of a number on, or from the place in the
argument before it that is not zero. Gives also where the search goes on. -/
def nextOption (allowed : Text) (args : List Text) (next place : Nat) :
    FoundOption × Nat × Nat :=
  let left := if place = 0 then [] else ((args[next - 2]?).getD []).drop place
  let fresh : Text × Nat :=
    match args[next - 1]? with
    | some ['-', '-'] => ([], next + 1)
    | some ('-' :: c :: letters) => (c :: letters, next + 1)
    | _ => ([], next)
  let (left, next) := if left.isEmpty then fresh else (left, next)
  match left with
  | [] => (.nothing, next, 0)
  | letter :: rest =>
    let place := ((args[next - 2]?).getD []).length - rest.length
    match takesArgument? letter allowed with
    | none => (.unknown letter, next, place)
    | some false => (.option letter [], next, place)
    | some true =>
      if !rest.isEmpty then (.option letter rest, next, 0)
      else
        match args[next - 1]? with
        | some argument => (.option letter argument, next + 1, 0)
        | none => (.bare letter, next, 0)

/-- Gives a variable the next option of a script. -/
def getOption (args : List Text) : Running Unit := do
  let allowed :: name :: rest := args | fail "Usage: getopts optstring var [arg...]"
  let st ← get
  let args := if rest.isEmpty then st.arguments else rest
  let (next, place) := if args.length + 1 < st.options.1 then (1, 0) else st.options
  set { st with options := (1, 0) }
  let quiet := allowed.head? = some ':'
  let (found, next, place) := nextOption (if quiet then allowed.tail else allowed) args next place
  let refuse (mark letter : Char) (what : Text) : Running Char := do
    if quiet then
      assign "OPTARG" [letter]
      return mark
    else
      let _ ← write 2 (what ++ ['\n'])
      drop "OPTARG"
      return '?'
  let shown ←
    match found with
    | .nothing => pure '?'
    | .unknown c => refuse '?' c ("Illegal option -" ++ [c])
    | .bare c => refuse ':' c ("No arg for -" ++ [c] ++ " option")
    | .option c argument => do
      assign "OPTARG" argument
      pure c
  store "OPTIND" (Text.ofNat next)
  assignNamed name [shown]
  modify fun st => { st with options := (next, place) }
  give (if found matches .nothing then 1 else 0)

/-! ## All of them -/

def test (args : List Text) : Running Unit := do
  let st ← get
  let x : Condition.Surroundings :=
    { tree := st.traffic.tree, here := st.here, streams := st.streams,
      opened := st.traffic.opened }
  match Condition.decide (args.length + 1) x false args with
  | .ok holds => give (if holds then 0 else 1)
  | .error what => fail what

def printFormat (format : Text) (args : List Text) : Running Unit := do
  let (text, complaints, fault?) := printed format args
  print text
  give (if complaints.isEmpty then 0 else 1)
  for complaint in complaints do complain complaint
  match fault? with
  | some what => fail what
  | none => return

def showDirectory (args : List Text) : Running Unit := do
  let (chosen, _) ← takeOptions "LP" args
  give 0
  let st ← get
  print ((if isPhysical chosen then pathOf st.here else st.directory) ++ ['\n'])

/-- Runs a built-in command of some name, if it is one of those here. -/
def builtin? (name : Text) (args : List Text) : Option (Running Unit) :=
  let is (s : String) : Bool := name = s.toList
  if is ":" || is "true" then some (give 0)
  else if is "false" then some (give 1)
  else if is "echo" then some do
    give 0
    print (echoed args)
  else if is "printf" then some do
    match args with
    | [] | [['-', '-']] => fail "usage: printf format [arg ...]"
    | ['-', '-'] :: format :: rest => printFormat format rest
    | ('-' :: letter :: _) :: _ => fail ("Illegal option -" ++ [letter])
    | format :: rest => printFormat format rest
  else if is "test" then some (test args)
  else if is "[" then some do
    if (args.getLast?.bind List.head?) = some ']' then test args.dropLast else fail "missing ]"
  else if is "pwd" then some (showDirectory args)
  else if is "cd" || is "chdir" then some (enter args)
  else if is "exit" then some do
    let st ← get
    give (← countOr (st.kept.getD st.status) args)
    throw .shell
  else if is "return" then some do
    give (← countOr (← get).status args)
    throw (.function args.isEmpty)
  else if is "break" then some (leaveLoops false args)
  else if is "continue" then some (leaveLoops true args)
  else if is "shift" then some (shift args)
  else if is "set" then some (setOptions args)
  else if is "export" then
    some (mark "export " (·.seen) (fun v => { v with seen := true }) args)
  else if is "readonly" then
    some (mark "readonly " (·.fixed) (fun v => { v with fixed := true }) args)
  else if is "local" then some (makeLocal args)
  else if is "unset" then some (unset args)
  else if is "read" then some (read args)
  else if is "kill" then some (kill args)
  else if is "trap" then some (trap args)
  else if is "getopts" then some (getOption args)
  else if is "hash" then some (remember args)
  else if is "wait" then some (wait args)
  else if is "alias" then some (defineAliases args)
  else if is "unalias" then some (dropAliases args)
  else if is "bg" || is "fg" then some (moveJob args)
  else if is "jobs" then some (showJobs args)
  else if is "times" then some do
    give 0
    print "0m0.000000s 0m0.000000s\n0m0.000000s 0m0.000000s\n"
  else if is "umask" then some (changeMask args)
  else if is "ulimit" then some (changeLimit args)
  else if is "type" then some do
    give 0
    for name in args do describe none true name
  else none

end Running

end ClasspathProbe.Shell
