import ClasspathProbe.Shell.Channel
import ClasspathProbe.Shell.Signal

/-!
# Running shells

What a running shell knows and what it can do at once: its parameters, its numbered streams, its
directory and its options. What is written goes to the output or the errors of the whole program, to
a file, or is captured by an expansion or a pipe. Files that a script writes are seen by that script
alone.
-/

namespace ClasspathProbe.Shell

/-- What all shells of a program share. Written pieces are kept last first. -/
structure Traffic where
  output : List Text := []
  errors : List Text := []
  captures : Array (List Text) := #[]
  /-- What is still to be read of each text that is read. -/
  inputs : Array Text := #[[]]
  /-- The files that have been opened. -/
  opened : Array OpenFile := #[]
  tree : FileTree
  /-- How many processes have been started from others. -/
  started : Nat := 0
  /-- The signals that have been sent and not taken yet, each with the process it is for. -/
  sent : List (Nat × Signal) := []

/-- A variable: its value if it has one, whether programs see it, and whether it is fixed. -/
structure Variable where
  value : Option Text := none
  seen : Bool := false
  fixed : Bool := false
deriving DecidableEq

/-- Where a running shell stands among the processes. -/
structure Process where
  number : Nat
  /-- The process that the script started in. -/
  shell : Nat
  /-- The processes that wait for this one, the nearest first. -/
  ancestors : List Nat := []
  /-- The processes besides those that had not been waited for when this one was started. -/
  others : List Nat := []
  /-- The signals that the process does not take. -/
  deaf : List Signal := []

/-- The process that is there before any other one is started. -/
def Process.first : Process := { number := 4000000, shell := 4000000 }

/-- A process that ended. -/
structure Ended where
  number : Nat
  status : Nat
  /-- The signal that ended it. -/
  signal : Option Signal := none

/-- What a shell knows of a process that it started in the background. -/
structure Job where
  /-- The number of the process. -/
  process : Nat
  /-- How many commands there are between bars. -/
  commands : Nat := 1
  ended : Option Ended := none
  /-- Whether the end of the process has been noticed. -/
  noticed : Bool := false
  /-- Whether the shell has waited for the process. -/
  waited : Bool := false

/-- What a running shell knows by itself. -/
structure Memory where
  process : Process := .first
  streams : List (Nat × Channel) := [(0, .input 0), (1, .output), (2, .errors)]
  bound : List (Text × Variable)
  functions : List (Text × Command) := []
  /-- The texts that stand for the first words of commands. -/
  aliases : List (Text × Text) := []
  /-- Where programs have been found. -/
  remembered : List (Text × Text) := []
  /-- The texts for streams in the script. -/
  documents : List (Nat × Word) := []
  nextDocument : Nat := 0
  /-- The name of the script and its arguments. -/
  zero : Text
  arguments : List Text
  status : Nat := 0
  here : Location
  /-- The directory as it was gone to. -/
  directory : Text
  line : Nat := 1
  /-- The line up to which the script has been read. -/
  reached : Nat := 1
  /-- The built-in command that is running. -/
  running : Option Text := none
  /-- What that command has printed, last first, which is written when it ends. -/
  printed : List Text := []
  /-- The letters of the options. -/
  flags : Text := []
  /-- Whether the end of what was read last was seen and not taken yet. -/
  atEnd : Bool := false
  /-- Whether a command is about to be shown. -/
  showing : Bool := false
  /-- How many loops are around the command that is running. -/
  loops : Nat := 0
  /-- How many functions are running, and what the local variables of the last were before. -/
  calls : Nat := 0
  saved : List (Text × Option Variable) := []
  /-- The options as they were before the function that is running, if it gives them back. -/
  savedFlags : Option Text := none
  /-- What runs when a signal comes, and under 0 what runs when the shell ends. Signals with an
  empty text are passed over. -/
  traps : List (Signal × Text) := []
  /-- The signals that came and have not been attended to, the newest first. -/
  pending : List Signal := []
  /-- What the status was before the trap that is running. -/
  kept : Option Nat := none
  /-- The jobs with their numbers, the newest first, and the process of the last one that there
  was. -/
  jobs : List (Nat × Job) := []
  background : Option Nat := none
  /-- The permissions that new files do not get. -/
  mask : Nat := 0o022
  /-- The limits that have been changed: what counts, and up to where that can be raised. -/
  limits : List (Char × Option Nat × Option Nat) := []
  /-- Where the search for options in the arguments stands: the next argument, and if it is not zero
  a place in the one before it. -/
  options : Nat × Nat := (1, 0)
  /-- The status of the last expansion of a command. -/
  substituted : Option Nat := none

/-- A process in the background that has not come to run yet. -/
structure Idle where
  memory : Memory
  command : Command
  /-- The signals that do nothing to it. -/
  deaf : List Signal
  /-- The signal that it will end by as soon as it runs. -/
  doom : Option Signal := none

/-- A running shell. -/
structure State extends Memory where
  traffic : Traffic
  /-- The processes in the background that it has started and that have not come to run. -/
  idle : List Idle := []

/-- What breaks off a command. -/
inductive Leave where
  /-- Some loops end; the last of them may go on with its next turn. -/
  | loops (count : Nat) (again : Bool)
  /-- The function ends; when `bare` is set, without a status of its own. -/
  | function (bare : Bool)
  /-- A fault; it ends the shell, unless the command that failed is one that may. -/
  | fault
  /-- The shell ends. -/
  | shell
  /-- A signal ends the process, and nothing more runs in it. -/
  | killed (signal : Signal)

/-- Something that a shell does. -/
abbrev Running := ExceptT Leave (StateM State)

namespace Running

/-- Sets the status. -/
def give (status : Nat) : Running Unit := modify fun st => { st with status }

/-- Writes to a channel, if something can be written there. -/
def send (s : Text) (t : Traffic) : Channel → Option Traffic
  | .output => some { t with output := s :: t.output }
  | .errors => some { t with errors := s :: t.errors }
  | .capture level => some { t with captures := t.captures.modify level (s :: ·) }
  | .input _ | .full => none
  | .opened number => do
    let o ← t.opened[number]?
    if o.opening = .read then none
    match t.tree.node? o.place with
    | some (.file f) =>
      let (bytes, position) := o.written f.bytes (Raw.toBytes s)
      some { t with
        tree := t.tree.insert o.place (.file { f with bytes })
        opened := t.opened.setIfInBounds number { o with position } }
    | _ => some t
  | .nowhere => some t

/-- Writes to where a stream leads or led, and says whether that could be done. -/
def writeTo (channel : Option Channel) (s : Text) : Running Bool := do
  let st ← get
  match channel.bind (send s st.traffic) with
  | some traffic =>
    set { st with traffic }
    return true
  | none => return false

/-- Writes to a stream, and says whether that could be done. -/
def write (stream : Nat) (s : Text) : Running Bool := do
  writeTo ((← get).streams.lookup stream) s

/-- Writes a complaint, with the name of the script, the line and the command. -/
def complain (s : Text) : Running Unit := do
  let st ← get
  let command : Text :=
    match st.running with
    | some name => name ++ ": "
    | none => []
  let _ ← write 2 (st.zero ++ ": " ++ Text.ofNat st.line ++ ": " ++ command ++ s ++ ['\n'])

/-- Complains and gives up. -/
def fail {α : Type} (s : Text) : Running α := do
  complain s
  give 2
  throw .fault

/-- Prints something, which goes to the output when the command that is running ends. -/
def print (s : Text) : Running Unit := modify fun st => { st with printed := s :: st.printed }

/-- Writes what has been printed; with `complaining` the command complains if that cannot be
done. -/
def release (complaining : Bool) : Running Unit := do
  let st ← get
  let text := st.printed.reverse.flatten
  if !text.isEmpty && !(← write 1 text) && complaining then
    complain (st.running.getD [] ++ ": I/O error")
    give (st.status ||| 1)

def isSet (flag : Char) : Running Bool := do return (← get).flags.contains flag

/-! ## Variables -/

/-- A variable, one without a value if there is none of that name. -/
def variableOf (name : Text) : Running Variable := do
  return ((← get).bound.lookup name).getD {}

/-- Puts a variable in place. -/
def bind (name : Text) (v : Option Variable) : Running Unit :=
  modify fun st =>
    let others := st.bound.filter (·.1 ≠ name)
    { st with bound := match v with | some v => (name, v) :: others | none => others }

def forget : Running Unit := modify fun st => { st with remembered := [] }

/-- Gives a variable a value. -/
def store (name value : Text) : Running Unit := do
  let v ← variableOf name
  if v.fixed then fail (name ++ ": is read only")
  let seen := v.seen || (← isSet 'a')
  bind name (some { v with value := some value, seen })

/-- What a value of a variable means to the shell: that of `OPTIND` is where the search for options
goes on, and with a new `PATH` programs are searched for anew. -/
def heed (name value : Text) : Running Unit := do
  if name = "OPTIND".toList then
    if value.isEmpty || !value.all Char.isDigit then fail ("Illegal number: " ++ value)
    modify fun st => { st with options := (max (ofDigits value) 1, 0) }
  if name = "PATH".toList then forget

/-- Gives a variable a value, which the shell heeds. -/
def assign (name value : Text) : Running Unit := do
  if !(← variableOf name).fixed then heed name value
  store name value

/-- Gives a variable a value, which programs see. -/
def assignSeen (name value : Text) : Running Unit := do
  assign name value
  bind name (some { ← variableOf name with seen := true })

def drop (name : Text) : Running Unit := do
  if (← variableOf name).fixed then fail (name ++ ": is read only")
  heed name []
  bind name none

def restore (saved : List (Text × Option Variable)) : Running Unit := do
  for (name, v) in saved do
    let value := (v.bind (·.value)).getD []
    if name ≠ "OPTIND".toList || !value.isEmpty then heed name value
    bind name v

def valueOf (name : Text) : Running (Option Text) := do return (← variableOf name).value

def separators : Running Text := do return (← valueOf "IFS").getD " \t\n"

/-- The letters of the options that are set, in the order in which they are shown. -/
def shownFlags (flags : Text) : Text := ("pubaCEVvxsnmiIfe" : Text).filter flags.contains

def parameter (name : Text) : Running (Option Text) := do
  let st ← get
  match name with
  | ['#'] => return some (Text.ofNat st.arguments.length)
  | ['?'] => return some (Text.ofNat st.status)
  | ['$'] => return some (Text.ofNat st.process.shell)
  | ['!'] => return st.background.map Text.ofNat
  | ['-'] => return some (shownFlags st.flags)
  | ['@'] | ['*'] => return some (Text.joined ((← separators).take 1) st.arguments)
  | _ =>
    if name.all Char.isDigit then
      let n := ofDigits name
      return if n = 0 then some st.zero else st.arguments[n - 1]?
    else valueOf name

/-! ## Streams -/

/-- Lets a stream lead somewhere, or closes it. -/
def connect (stream : Nat) (channel : Option Channel) : Running Unit :=
  modify fun st =>
    let others := st.streams.filter (·.1 ≠ stream)
    { st with streams := match channel with | some c => (stream, c) :: others | none => others }

/-- A new input with a text to read. -/
def newInput (s : Text) : Running Channel := do
  let st ← get
  set { st with traffic.inputs := st.traffic.inputs.push s }
  return .input st.traffic.inputs.size

/-- What can still be read from where a stream leads. -/
def unread (channel : Option Channel) : Running Text := do
  let t := (← get).traffic
  match channel with
  | some (.input n) => return (t.inputs[n]?).getD []
  | some (.opened n) =>
    let some o := t.opened[n]? | return []
    match t.tree.node? o.place with
    | some (.file f) => return Raw.ofBytes (o.unread f.bytes)
    | _ => return []
  | _ => return []

/-- Takes some bytes from where a stream leads, and leaves the rest of what can be read. -/
def leave (channel : Option Channel) (taken : Nat) (rest : Text) : Running Unit := do
  let st ← get
  let t := st.traffic
  match channel with
  | some (.input n) => set { st with traffic.inputs := t.inputs.setIfInBounds n rest }
  | some (.opened n) =>
    let moved := t.opened.modify n fun o => { o with position := o.position + taken }
    set { st with traffic.opened := moved }
  | _ => return

/-- Takes all that can still be read from where a stream leads. -/
def readAll (channel : Option Channel) : Running Text := do
  let s ← unread channel
  leave channel s.length []
  return s

/-- How a shell words why a file could not be opened. -/
def openingMessage (writing : Bool) (why : Refusal) : Text :=
  match why with
  | .noSuchFile | .notADirectory => if writing then "Directory nonexistent" else "No such file"
  | _ => why.sentence

def newFile (place : Location) (opening : Opening) : Running Channel := do
  let st ← get
  let number := st.traffic.opened.size
  set { st with traffic.opened := st.traffic.opened.push { place, opening } }
  return .opened number

/-- Opens what is at a place; to be written, a file is emptied, unless it must not be written
over. -/
def openPlace (opening : Opening) (place : Location) (node : Node) :
    Running (Except Refusal Channel) := do
  let st ← get
  match node with
  | .file f =>
    if opening = .write && st.flags.contains 'C' then return .error .fileExists
    if opening = .write || opening = .replace then
      set { st with traffic.tree := st.traffic.tree.insert place (.file { f with bytes := [] }) }
    return .ok (← newFile place opening)
  | _ => if opening = .read then return .ok (← newInput []) else return .error .isADirectory

/-- Opens a device; the other results are that there is none of that name, or that it cannot be
opened. -/
def openDevice (opening : Opening) (path : Text) : Running (Option (Except Refusal Channel)) := do
  let isOneOf (names : List String) : Bool := names.any fun s => path = "/dev/".toList ++ s.toList
  if isOneOf ["full"] && opening ≠ .read then return some (.ok .full)
  else if isOneOf ["null"] && opening = .read then return some (.ok (← newInput []))
  else if isOneOf ["null", "random", "urandom", "zero"] && opening ≠ .read then
    return some (.ok .nowhere)
  else if isOneOf ["tty"] then return some (.error .noSuchDevice)
  else
    let some n := Channel.named? path | return none
    let st ← get
    match st.streams.lookup n with
    | none => return some (.error .noSuchFile)
    | some (.opened k) =>
      let some o := st.traffic.opened[k]? | return some (.error .noSuchFile)
      let some node := st.traffic.tree.node? o.place | return some (.error .noSuchFile)
      return some (← openPlace opening o.place node)
    | some channel => return some (.ok channel)

/-- Opens a file for a stream, or says why it cannot be opened. -/
def openFile (opening : Opening) (name : Text) : Running (Except Text Channel) := do
  let st ← get
  let tree := st.traffic.tree
  let path := Raw.decode name
  let found ←
    match ← openDevice opening path with
    | some found => pure found
    | none =>
      if opening = .read then
        match tree.look st.here path with
        | .ok (place, node) => openPlace opening place node
        | .error why => pure (.error why)
      else
        match tree.locate st.here .output path with
        | .ok (.found place node) => openPlace opening place node
        | .ok (.free directory name) =>
          let place := directory ++ [name]
          set { st with traffic.tree := tree.insert place (.file ⟨[], false, 0⟩) }
          pure (.ok (← newFile place opening))
        | .error why => pure (.error why)
  match found with
  | .ok channel => return .ok channel
  | .error why =>
    let lead : Text := if opening = .read then "cannot open " else "cannot create "
    return .error (lead ++ name ++ ": " ++ openingMessage (opening ≠ .read) why)

end Running

end ClasspathProbe.Shell
