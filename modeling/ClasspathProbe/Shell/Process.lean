import ClasspathProbe.Shell.Argument

/-!
# Processes

Shells start other processes, wait for them and hear how they ended. A process that a shell waits
for runs to its end as soon as it is started. One in the background comes to run when the shell that
started it waits for any process or ends, and then runs to its end. What a process tells those that
wait for it reaches them when it has ended: a signal that a process is not ready for ends it then,
and one that it is ready for is left to be attended to.
-/

namespace ClasspathProbe.Shell

namespace Running

/-! ## Signals -/

/-- Whether a shell passes a signal over. -/
def ignores (st : State) (n : Signal) : Bool :=
  !Signal.isFinal n && (st.process.deaf.contains n || st.traps.lookup n = some [])

def receive (n : Signal) : Running Unit := do
  let st ← get
  if n = 0 || ignores st n then return
  match if Signal.isFinal n then none else st.traps.lookup n with
  | some _ => if !st.pending.contains n then set { st with pending := n :: st.pending }
  | none => if !Signal.isHarmless n then throw (.killed n)

/-- Takes the signals that were sent to the process while it waited. -/
def wake : Running Unit := do
  let st ← get
  let (own, others) := st.traffic.sent.partition fun (number, _) => number = st.process.number
  set { st with traffic.sent := others }
  for (_, n) in own do receive n

/-- Whether something is to run when signals come or when the shell ends. -/
def isPrepared (st : State) : Bool := st.traps.any fun (_, action) => !action.isEmpty

/-! ## Jobs -/

/-- The least number that no job has which the shell must still be able to wait for. -/
def freeNumber (jobs : List (Nat × Job)) : Nat :=
  let isFree (n : Nat) : Bool := !jobs.any fun (number, job) => number = n && !job.waited
  ((List.range' 1 (jobs.length + 1)).find? isFree).getD 1

/-- Makes place for a job, and gives its number. -/
def newNumber : Running Nat := do
  let st ← get
  let n := freeNumber st.jobs
  set { st with jobs := st.jobs.filter (·.1 ≠ n) }
  return n

def changeJob (number : Nat) (change : Job → Job) : Running Unit :=
  modify fun st =>
    { st with jobs := st.jobs.map fun (n, job) => (n, if n = number then change job else job) }

/-- Whether a process has ended and that has not been noticed. -/
def isNews (job : Job) : Bool := job.ended.isSome && !job.noticed

/-- Notices the ends of all processes. -/
def noticeAll : Running Unit :=
  modify fun st =>
    { st with jobs := st.jobs.map fun (n, job) => (n, { job with noticed := job.ended.isSome }) }

/-- The job that a word behind a percent sign stands for, or what is wrong with it. -/
def findJob (jobs : List (Nat × Job)) (s : Text) : Except Text (Nat × Job) :=
  let found (missing : Text) : Option (Nat × Job) → Except Text (Nat × Job)
    | some job => .ok job
    | none => .error missing
  match s with
  | ['%'] | ['%', '+'] | ['%', '%'] => found "No current job" jobs.head?
  | ['%', '-'] => found "No previous job" jobs.tail.head?
  | '%' :: name =>
    let isNumber : Bool := !name.isEmpty && name.all Char.isDigit
    let numbered := jobs.find? fun (n, _) => isNumber && n = ofDigits name
    found ("No such job: " ++ s) numbered
  | _ => .error ("No such job: " ++ s)

/-- The job that a word behind a percent sign stands for. -/
def jobNamed (s : Text) : Running (Nat × Job) := do
  match findJob (← get).jobs s with
  | .ok found => return found
  | .error what => fail what

def jobOf? (jobs : List (Nat × Job)) (process : Nat) : Option (Nat × Job) :=
  jobs.find? fun (_, job) => job.process = process

/-- Whether there is a process running that a shell waits for when it waits for some jobs, or for
all of them if none is named. -/
def awaits (jobs : List (Nat × Job)) (names : List Text) : Bool :=
  let isRunning (found : Nat × Job) : Bool := found.2.ended.isNone
  if names.isEmpty then jobs.any isRunning
  else
    names.any fun s =>
      match s with
      | '%' :: _ => (findJob jobs s).toOption.any isRunning
      | _ => s.all Char.isDigit && (jobOf? jobs (ofDigits s)).any isRunning

/-! ## Starting processes -/

/-- A new process, which knows what the shell knows. Nothing is prepared there, but the signals that
are passed over still are. -/
def newProcess : Running Memory := do
  let st ← get
  let number := Process.first.number + st.traffic.started + 1
  let ancestors := st.process.number :: st.process.ancestors
  let unnoticed := st.jobs.filter fun (_, job) => !job.noticed
  let others := unnoticed.map (·.2.process) ++ st.process.others
  set { st with traffic.started := st.traffic.started + 1 }
  return { st.toMemory with
    process := { st.process with number, ancestors, others }
    traps := st.traps.filter fun (_, action) => action.isEmpty
    pending := []
    jobs := [] }

/-- Does something in another process. -/
def inside (memory : Memory) (x : Running Unit) : Running Ended := do
  let st ← get
  let number := memory.process.number
  let (r, after) := x.run.run { toMemory := memory, traffic := st.traffic }
  set { st with traffic := after.traffic }
  match r with
  | .error (.killed n) => return { number, status := Signal.status n, signal := some n }
  | _ => return { number, status := after.status % 256 }

/-- Runs something in a process of its own: what it does to its own state is forgotten, what it
wrote and read is not. -/
def forked (x : Running Unit) : Running Ended := do inside (← newProcess) x

/-- Says which signal ended a process that the shell has waited for. -/
def announce (e : Ended) : Running Unit := do
  match e.signal with
  | some n =>
    if !Signal.isSilent n then
      let _ ← write 2 (Signal.sentence n ++ ['\n'])
  | none => return

/-- Goes on after other processes have ended. -/
def resume : Running Unit := do
  let _ ← newNumber
  noticeAll
  receive Signal.childEnded
  wake

/-- Runs something in a process of its own, and waits for it. -/
def apart (x : Running Unit) : Running Unit := do
  let e ← forked x
  announce e
  give e.status
  resume

/-- Does something, and gives what it writes to an output that leads nowhere else. -/
def capturing {α : Type} (x : (channel : Channel) → Running α) : Running (α × Text) := do
  let level := (← get).traffic.captures.size
  modify fun st => { st with traffic.captures := st.traffic.captures.push [] }
  let a ← x (.capture level)
  let st ← get
  set { st with traffic.captures := st.traffic.captures.pop }
  return (a, ((st.traffic.captures[level]?).getD []).reverse.flatten)

/-- Runs something in a process of its own, and gives how it ended and what it wrote to its
output. -/
def forkedAndRead (x : Running Unit) : Running (Ended × Text) :=
  capturing fun channel => forked do
    connect 1 (some channel)
    x

/-- Runs something in a process of its own, waits for it, and gives what it wrote to its output. -/
def captured (x : Running Unit) : Running Text := do
  let (e, text) ← forkedAndRead x
  announce e
  give e.status
  resume
  return text

def inBackground (command : Command) : Running Unit := do
  let number ← newNumber
  let memory ← newProcess
  let process := memory.process.number
  let commands := command.size
  modify fun st =>
    let deaf := st.process.deaf ++ st.traps.map (·.1)
    { st with
      idle := st.idle ++ [{ memory, command, deaf }]
      jobs := (number, { process, commands }) :: st.jobs
      background := some process }
  give 0

/-- Lets a process in the background do something, and gives how it ended. -/
def finish (p : Idle) (x : Running Unit) : Running Ended := do
  match p.doom with
  | some n => return { number := p.memory.process.number, status := Signal.status n, signal := n }
  | none =>
    inside p.memory do
      modify fun st =>
        { st with process.deaf := Signal.interrupt :: Signal.quit :: st.process.deaf }
      connect 0 (some (← newInput []))
      x

/-- Takes note of how a process in the background ended. -/
def note (e : Ended) : Running Unit :=
  modify fun st =>
    { st with
      jobs := st.jobs.map fun (n, job) =>
        (n, if job.process = e.number then { job with ended := some e } else job) }

/-! ## Commands -/

/-- Hears how a process ended that it has been waited for. -/
def hear (number : Nat) (job : Job) : Running Unit := do
  let some e := job.ended | return
  if !job.noticed then announce e
  changeJob number fun job => { job with noticed := true, waited := true }
  give e.status
  if !job.noticed then receive Signal.childEnded

/-- Hears how processes in the background ended; without arguments, all of them. A process that is
not known is passed over. When a signal came instead that is to be attended to, that is the
status. -/
def wait (args : List Text) : Running Unit := do
  let args ← plainArguments args
  let jobs := (← get).jobs
  if let n :: _ := (← get).pending then give (Signal.status n)
  else if args.isEmpty then
    give 0
    modify fun st => { st with jobs := jobs.map fun (n, job) => (n, { job with waited := true }) }
    if jobs.any (isNews ·.2) then receive Signal.childEnded
    noticeAll
  else
    give 127
    for arg in args do
      if arg.head? = some '%' then
        let (number, job) ← jobNamed arg
        hear number job
      else
        match jobOf? (← get).jobs (← count arg) with
        | some (number, job) => hear number job
        | none => pure ()

/-- How a process ended, if it did. -/
def outcome : Option Ended → Text
  | none => "Running"
  | some e =>
    match e.signal with
    | some n => Signal.sentence n
    | none => if e.status = 0 then "Done" else "Done(" ++ Text.ofNat e.status ++ ")"

/-- The line that shows a job, with a mark for the newest one and the one before it. -/
def jobLine (jobs : List (Nat × Job)) (withProcess : Bool) (number : Nat) (job : Job) : Text :=
  let isAt (jobs : List (Nat × Job)) : Bool := jobs.head?.any (·.1 = number)
  let mark := if isAt jobs then '+' else if isAt jobs.tail then '-' else ' '
  let shown := ['['] ++ Text.ofNat number ++ "] " ++ [mark, ' ']
  let shown := if withProcess then shown ++ Text.ofNat job.process ++ [' '] else shown
  let shown := shown ++ outcome job.ended
  let bars := (List.replicate (job.commands - 1) " | ".toList).flatten
  shown ++ List.replicate (max (33 - shown.length) 1) ' ' ++ bars ++ ['\n']

/-- Shows a job, which is forgotten if it has ended, or just its process. -/
def showJob (option : Option Char) (number : Nat) (job : Job) : Running Unit := do
  if option = some 'p' then print (Text.ofNat job.process ++ ['\n'])
  else
    print (jobLine (← get).jobs (option = some 'l') number job)
    if job.ended.isSome then
      modify fun st => { st with jobs := st.jobs.filter (·.1 ≠ number) }

def showJobs (args : List Text) : Running Unit := do
  let (chosen, args) ← takeOptions "lp" args
  give 0
  let option := chosen.getLast?.map (·.1)
  if args.isEmpty then
    if (← get).jobs.any (isNews ·.2) then receive Signal.childEnded
    noticeAll
    for (number, job) in (← get).jobs do showJob option number job
  else
    for arg in args do
      let (number, job) ← jobNamed arg
      showJob option number job

/-- Takes a job to the foreground or the background, which only a shell with a terminal can do. -/
def moveJob (args : List Text) : Running Unit := do
  let args ← plainArguments args
  let _ ← jobNamed (args.head?.getD ['%'])
  fail ("job " ++ args.head?.getD "(null)" ++ " not created under job control")

/-- Sends a signal to a process, and says whether there is one of that number. -/
def signalTo (n : Signal) (number : Nat) : Running Bool := do
  let st ← get
  if number = st.process.number then
    receive n
    return true
  else if st.process.ancestors.contains number then
    set { st with traffic.sent := st.traffic.sent ++ [(number, n)] }
    return true
  else
    let doomed (p : Idle) : Idle :=
      let isHit : Bool := p.memory.process.number = number && n ≠ 0 && p.doom.isNone &&
        !Signal.isHarmless n && (Signal.isFinal n || !p.deaf.contains n)
      if isHit then { p with doom := some n } else p
    set { st with idle := st.idle.map doomed }
    let isUnnoticed : Bool := st.jobs.any fun (_, job) => job.process = number && !job.noticed
    return isUnnoticed || st.process.others.contains number

def sendSignal (n : Signal) (targets : List Text) : Running Unit := do
  give 0
  for target in targets do
    let done ←
      match target with
      | '%' :: _ => do
        let _ ← jobNamed target
        pure false
      | '-' :: digits => do
        let _ ← count digits
        pure false
      | _ => signalTo n (← count target)
    if !done then
      complain "No such process\n"
      give 1

/-- Lists all signals, or the one that a number or a status stands for. -/
def listSignals (args : List Text) : Running Unit := do
  give 0
  match args with
  | [] =>
    for n in List.range (Signal.last + 1) do
      print ((if n = 0 then ['0'] else Signal.name n) ++ ['\n'])
  | arg :: _ =>
    let n ← count arg
    let n := if Signal.status 0 < n then n - Signal.status 0 else n
    if n = 0 || Signal.last < n then fail ("invalid signal number or exit status: " ++ arg)
    print (Signal.name n ++ ['\n'])

/-- Sends a signal to processes, or lists signals. -/
def kill (args : List Text) : Running Unit := do
  let usage {α : Type} : Running α :=
    fail ("Usage: kill [-s sigspec | -signum | -sigspec] [pid | job]... or\n" ++
      "kill -l [exitstatus]")
  let direct : Option Signal :=
    match args with
    | ('-' :: s) :: _ => Signal.ofText? 1 s
    | _ => none
  let (signal, listing, targets) ←
    match direct with
    | some n => pure (some n, false, args.tail)
    | none => do
      let (found, rest) ← takeOptions "ls:" args
      let mut signal : Option Signal := none
      for (letter, name) in found do
        if letter = 's' then
          let some n := Signal.ofText? 1 name | fail ("invalid signal number or name: " ++ name)
          signal := some n
      pure (signal, found.any (·.1 = 'l'), rest)
  if listing then
    if signal.isSome && !targets.isEmpty then usage else listSignals targets
  else if targets.isEmpty then usage
  else sendSignal (signal.getD Signal.terminate) targets

/-- Says what runs when signals come and when the shell ends. One argument alone is a signal to be
no longer ready for, and so are all when the first is a number. -/
def trap (args : List Text) : Running Unit := do
  let args ← plainArguments args
  give 0
  match args with
  | [] =>
    for n in List.range (Signal.last + 1) do
      match (← get).traps.lookup n with
      | some action =>
        print ("trap -- " ++ inSingleQuotes action ++ ' ' :: Signal.name n ++ ['\n'])
      | none => pure ()
  | first :: rest =>
    let isNumber : Bool := first.all Char.isDigit && (Signal.ofText? 0 first).isSome
    let (action, signals) :=
      if rest.isEmpty || isNumber then (none, args)
      else if first = ['-'] then (none, rest)
      else (some first, rest)
    for s in signals do
      match Signal.ofText? 0 s with
      | none =>
        let _ ← write 2 ("trap: " ++ s ++ ": bad trap\n")
        give 1
        return
      | some n =>
        modify fun st =>
          let others := st.traps.filter (·.1 ≠ n)
          { st with traps := action.toList.map (n, ·) ++ others }

end Running

end ClasspathProbe.Shell
