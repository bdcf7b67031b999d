import ClasspathProbe.Shell.Builtin
import ClasspathProbe.Shell.Tilde

/-!
# Around commands

What the parts of a script do to what is around them: the scopes that functions, loops and
redirections open and close, the values that expansions look up, and where streams are connected.
-/

namespace ClasspathProbe.Shell

/-- How a command stands in a script. -/
structure Mode where
  /-- Its status is looked at, and it may end without success. -/
  tested : Bool := false
  /-- Nothing follows it in its process. -/
  last : Bool := false

/-- How a command stands that something follows in the same place. -/
def Mode.within (mode : Mode) : Mode := { mode with last := false }

/-- How a command stands that is the last one in a new process. -/
def Mode.alone (mode : Mode) : Mode := { mode with last := true }

/-- How a condition stands. -/
def Mode.condition : Mode := { tested := true }

/-- Whether a script may end at a command that has no success. -/
def Command.isSettled : Command → Bool
  | .simple .. | .pipe _ | .nested .. | .background _ => true
  | _ => false

namespace Running

/-- Does something and lets the streams that were redirected for it lead where they led before. -/
def keepingStreams {α : Type} (rs : List Redirection) (x : Running α) : Running α := fun st =>
  let (r, after) := x.run.run st
  let isKept (stream : Nat × Channel) : Bool := rs.any (·.stream = stream.1)
  let streams := st.streams.filter isKept ++ after.streams.filter (!isKept ·)
  (r, { after with streams })

/-- Does something as a built-in command, whose name complaints then have. What it prints is written
when it ends, behind its complaints. -/
def named (name : Text) (x : Running Unit) : Running Unit := fun st =>
  let (r, after) := x.run.run { st with running := some name, printed := [] }
  let (_, after) := (release r.isOk).run.run after
  (r, { after with running := st.running, printed := st.printed })

/-- Does something as a command that may fail without ending the shell. -/
def forgiving (x : Running Unit) : Running Unit :=
  tryCatch x fun
    | .fault => pure ()
    | leave => throw leave

/-- Does something and gives some variables back what they were. -/
def keepingVariables (names : List Text) (x : Running Unit) : Running Unit := fun st =>
  let (r, after) := x.run.run st
  let (_, after) := (restore (names.map fun name => (name, st.bound.lookup name))).run.run after
  (r, after)

/-- How many functions may run one in the other. -/
def mostCalls : Nat := 1000

/-- Runs a function body with its arguments; local variables get back what they were. -/
def inFunction (arguments : List Text) (x : Running Unit) : Running Unit := fun st =>
  let x : Running Unit :=
    if mostCalls ≤ st.calls then
      fail ("Maximum function recursion depth (" ++ Text.ofNat mostCalls ++ ") reached")
    else x
  let (r, after) :=
    x.run.run
      { st with
        arguments, calls := st.calls + 1, saved := [], savedFlags := none, loops := 0,
        options := (1, 0) }
  let saved := after.saved
  let after :=
    { after with
      arguments := st.arguments, calls := st.calls, saved := st.saved,
      flags := after.savedFlags.getD after.flags, savedFlags := st.savedFlags,
      loops := st.loops, options := st.options }
  let (_, after) := (restore saved).run.run after
  match r with
  | .error (.function _) => (.ok (), after)
  | r => (r, after)

/-- Does one turn of a loop, which says whether there is another one. -/
def turn (x : Running Bool) : Running Bool := fun st =>
  let (r, after) := x.run.run { st with loops := st.loops + 1 }
  let after := { after with loops := st.loops }
  match r with
  | .error (.loops count again) =>
    if 1 < count then (.error (.loops (count - 1) again), after) else (.ok again, after)
  | r => (r, after)

/-- Ends the shell if that is what a command without success does here. -/
def settle (tested : Bool) : Running Unit := do
  if !tested && (← isSet 'e') && (← get).status ≠ 0 then throw .shell

/-- The glyphs of a value, in quotes or not. -/
def shown (quoted : Bool) (s : Text) : List Glyph :=
  if quoted then s.map .fixed else s.map .loose ++ [.edge false]

/-- The glyphs of all arguments, each a word of its own. -/
def allArguments (quoted : Bool) : Running (List Glyph) := do
  let arguments := (← get).arguments
  let each (s : Text) : List Glyph := s.map (if quoted then .fixed else .loose)
  let between := if quoted then Glyph.cut else Glyph.gap
  let edge := if quoted && arguments.isEmpty then [] else [Glyph.edge quoted]
  return (List.intersperse [between] (arguments.map each)).flatten ++ edge

/-- All arguments as one text. Where words are cut into fields, the character zero stands between
them, but for blanks between those that are not in quotes while no separators are set. -/
def argumentText (fields quoted : Bool) : Running Text := do
  let st ← get
  let isSet : Bool := (← valueOf "IFS").isSome
  let separators ← separators
  let between : Text := if fields && (quoted || isSet) then ['\x00'] else separators.take 1
  return Text.joined between st.arguments

/-- The glyphs of a text that all arguments have been made one of. -/
def showArguments (quoted : Bool) (s : Text) : Running (List Glyph) := do
  if quoted then
    let glyphs := s.map fun c => if c = '\x00' then Glyph.cut else .fixed c
    return glyphs ++ if (← get).arguments.isEmpty then [] else [.edge true]
  else return shown false s

/-- Whether a parameter stands for all arguments one by one. -/
def ranges (name : Text) (quoted : Bool) : Bool := name = ['@'] || name = ['*'] && !quoted

/-- The glyphs of the value of a parameter. -/
def shownParameter (name : Text) (quoted : Bool) : Running (List Glyph) := do
  if ranges name quoted then allArguments quoted
  else return shown quoted ((← parameter name).getD [])

/-- The value of an arithmetic expression; its assignments change variables. -/
def arithmetic (source : Text) : Running Int := do
  let bound := (← get).bound
  let look (name : Text) : Text := ((bound.lookup name).bind (·.value)).getD []
  let (outcome, after) := (Arithmetic.read source).value.run.run { look }
  for (name, n) in after.assigned.reverse do assign name (Text.ofInt n)
  match outcome with
  | .ok n => return n
  | .error why => fail (why.message source)

/-- The glyphs of plain characters of a word, which may have `ended` with them. -/
def showPlain (place : Tilde.Place) (ended : Bool) (s : Text) : Running (List Glyph) := do
  let plain (s : Text) : List Glyph := s.map (if place.inside then .loose else .active)
  let each (piece : Tilde.Piece) : Running (List Glyph) := do
    match piece with
    | .text s => return plain s
    | .home account =>
      let tree := (← get).traffic.tree
      let home? ← if account.isEmpty then valueOf "HOME" else pure (Tilde.home? tree account)
      match home? with
      | some home => return shown true home
      | none => return plain ('~' :: account)
  return (← (Tilde.pieces ended place s).mapM each).flatten

/-- A redirection whose word has been expanded. -/
inductive Link where
  | file (stream : Nat) (opening : Opening) (name : Text)
  /-- The stream leads where another one leads, or is closed. -/
  | copy (stream : Nat) (source : Option Nat)
  | document (stream number : Nat)

def Link.stream : Link → Nat
  | .file stream _ _ | .copy stream _ | .document stream _ => stream

/-- The copy of a stream that a text stands for; what it is not is noticed where the script has been
read to. -/
def copyOf (stream : Nat) (source : Text) : Running Link := do
  match source with
  | ['-'] => return .copy stream none
  | [c] => if c.isDigit then return .copy stream (some (ofDigits source))
  | _ => pure ()
  modify fun st => { st with line := st.reached }
  fail "Syntax error: Bad fd number"

/-- Connects a stream to a file, and says whether that could be done. -/
def linkFile (stream : Nat) (opening : Opening) (name : Text) : Running Bool := do
  match ← openFile opening name with
  | .ok channel =>
    connect stream (some channel)
    return true
  | .error what =>
    complain what
    give 2
    return false

/-- Lets a stream lead where another one leads, or closes it, and says whether that could be done. A
stream that is put `aside` first is closed when it cannot. -/
def linkStream (aside : Bool) (stream : Nat) (source : Option Nat) : Running Bool := do
  if source = some stream then return true
  let streams := (← get).streams
  let channel := source.bind fun n => streams.lookup n
  if source.isNone || channel.isSome || aside then connect stream channel
  match source, channel with
  | some n, none =>
    complain (Text.ofNat n ++ ": Bad file descriptor")
    give 2
    return false
  | _, _ => return true

/-- Does something with another text as the script that is read. -/
def readingApart (x : Running Unit) : Running Unit := fun st =>
  let (r, after) := x.run.run st
  (r, { after with reached := st.reached })

/-- Becomes a new shell that runs a script under some name. It sees the variables that programs
see, and believes the name it is given for its directory if that leads there. -/
def become (flags zero : Text) (arguments : List Text) : Running Unit := do
  let st ← get
  let given := (← valueOf "PWD").getD []
  let leads : Bool :=
    match st.traffic.tree.look [] (Raw.decode given) with
    | .ok (place, _) => given.head? = some '/' && place = st.here
    | .error _ => false
  let directory := if leads then given else pathOf st.here
  let bound := (st.bound.filter fun (_, v) => v.seen && v.value.isSome).map
    fun (name, v) => (name, { v with fixed := false })
  let passedOver := (st.traps.filter fun (_, action) => action.isEmpty).map (·.1)
  let process :=
    { st.process with shell := st.process.number, deaf := passedOver ++ st.process.deaf }
  set ({ traffic := st.traffic, process, streams := st.streams, here := st.here, bound, zero,
         arguments, flags, directory, mask := st.mask, limits := st.limits } : State)
  let parent := process.ancestors.head?.getD (Process.first.number - 1)
  bind "PPID" (some { ← variableOf "PPID" with value := some (Text.ofNat parent) })
  bind "PWD" (some { value := some directory, seen := true })
  for (name, value) in initialVariables do bind name (some { value := some value.toList })
where
  initialVariables : List (String × String) :=
    [("IFS", " \t\n"), ("OPTIND", "1"), ("PS1", "# "), ("PS2", "> "), ("PS4", "+ ")]

/-- How a shell words why a program could not be started, and the status of that. -/
def startingMessage (why : Refusal) : Text × Nat :=
  match why with
  | .noSuchFile | .notADirectory => ("not found", 127)
  | .tooManyLinks | .nameTooLong => (why.sentence, 127)
  | _ => (why.sentence, 126)

end Running

end ClasspathProbe.Shell
