import ClasspathProbe.Shell.Pattern
import ClasspathProbe.Shell.Scope
import ClasspathProbe.Shell.Script
import ClasspathProbe.Shell.Trim

/-!
# Running shell scripts

What a script writes to its two output streams. The programs that a script can start are the scripts
in the tree and the shell itself, and its input is empty. Every step uses up fuel, so that a script
that would never end stops as if killed.
-/

namespace ClasspathProbe.Shell

namespace Running

mutual

/-- The glyphs that the parts of a word expand to. -/
def expandParts : (fuel : Nat) → Tilde.Place → Word → Running (List Glyph)
  | 0, _, _ => throw .shell
  | _, _, [] => return []
  | fuel + 1, place, p :: w => do
    let gs ← expandPart fuel place w.isEmpty p
    if p.endsWord then return gs
    return gs ++ (← expandParts fuel { place with start := false } w)

/-- The glyphs that a part of a word expands to, which may have `ended` with it. -/
def expandPart : (fuel : Nat) → Tilde.Place → (ended : Bool) → Part → Running (List Glyph)
  | 0, _, _, _ => throw .shell
  | fuel + 1, place, ended, p => do
    match p with
    | .plain s true => return if s.isEmpty then [.quotes] else shown true s
    | .plain s false => showPlain place ended s
    | .parameter name use quoted => expandParameter fuel place name use quoted
    | .output c quoted =>
      runIdle fuel
      let before := (← get).status
      let text ← captured (ending fuel (perform fuel (Mode.alone {}) c))
      modify fun st => { st with substituted := some st.status, status := before }
      let text := text.filter (· ≠ '\x00')
      return shown quoted (text.reverse.dropWhile (· = '\n')).reverse
    | .arithmetic w quoted =>
      let source ← flat fuel { start := false } w
      return shown quoted (Text.ofInt (← arithmetic source))

/-- The glyphs that a parameter and its use expand to. -/
def expandParameter : (fuel : Nat) → Tilde.Place → (name : Text) → Use → (quoted : Bool) →
    Running (List Glyph)
  | 0, _, _, _, _ => throw .shell
  | fuel + 1, place, name, use, quoted => do
    let value ← parameter name
    let demand (isMissing : Bool) : Running Unit := do
      if isMissing && (← isSet 'u') then fail (name ++ ": parameter not set")
    match use with
    | .value =>
      demand value.isNone
      shownParameter name quoted
    | .ending w =>
      demand (value.getD []).isEmpty
      return (← shownParameter name quoted) ++ (← expandParts fuel { place with start := false } w)
    | .length =>
      demand value.isNone
      let digits := Text.ofNat (value.getD []).length
      if ranges name quoted then showArguments quoted digits else return shown quoted digits
    | .trimmed atEnd longest pattern =>
      demand value.isNone
      if value.isNone then return shown quoted []
      let gs ← expandParts fuel {} pattern
      let gs := Glyph.joined (← separators) gs
      let s ← if ranges name quoted then argumentText place.fields quoted else pure (value.getD [])
      if place.fields && ranges name quoted then
        let marked := MarkedText.ofText quoted s
        let trimmed := if atEnd then marked.trimEnd longest gs else marked.trimStart longest gs
        showArguments quoted trimmed.text
      else
        let p := Pattern.ofWord gs
        let trimmed := if atEnd then p.trimEnd longest s else p.trimStart longest s
        if ranges name quoted then showArguments quoted trimmed else return shown quoted trimmed
    | .unknown => fail "Bad substitution"
    | .fallback f emptyToo w =>
      let missing := value.isNone || (emptyToo && value = some [])
      match f, missing with
      | .alternative, true => return shown quoted []
      | .alternative, false | .instead, true => 
        expandParts fuel { place with inside := !quoted, start := true } w
      | .assign, true =>
        let s ← flat fuel {} w
        if !isName name then fail (name ++ ": bad variable name")
        assign name s
        return shown quoted s
      | .require, true =>
        let s ← flat fuel {} w
        let what : Text :=
          if w.isEmpty then "parameter not set" ++ if emptyToo then " or null" else ""
          else s
        fail (name ++ ": " ++ what)
      | _, false => shownParameter name quoted

/-- A word as one text, not cut into fields. -/
def flat : (fuel : Nat) → Tilde.Place → Word → Running Text
  | 0, _, _ => throw .shell
  | fuel + 1, place, w => do
    let gs ← expandParts fuel place w
    return Glyph.line (← separators) gs

/-- The fields that a word expands to. -/
def fields : (fuel : Nat) → Word → Running (List Text)
  | 0, _ => throw .shell
  | fuel + 1, w => do
    let gs ← expandParts fuel { fields := true } w
    let found := Glyph.fields (← separators) gs
    let st ← get
    if st.flags.contains 'f' then return found.map Glyph.text
    else return found.flatMap (Pattern.paths st.traffic.tree st.here)

/-- The fields that words expand to. -/
def allFields : (fuel : Nat) → List Word → Running (List Text)
  | 0, _ => throw .shell
  | _, [] => return []
  | fuel + 1, w :: ws => do return (← fields fuel w) ++ (← allFields fuel ws)

/-- The words that those of a command expand to, behind some that were expanded before. Behind the
name of a command that takes assignments one of those is not cut into fields. -/
def expand : (fuel : Nat) → (before : List Text) → List Word → Running (List Text)
  | 0, _, _ => throw .shell
  | _, before, [] => return before
  | fuel + 1, before, w :: ws => do
    let assigns : Bool := (← builtinName? before).any takesAssignments
    let found ←
      match assigns, assignment? w with
      | true, some (name, value) => do
        let s ← flat fuel { colons := true } value
        pure [name ++ '=' :: s]
      | _, _ => fields fuel w
    expand fuel (before ++ found) ws

/-- Connects streams as redirections say, and says whether that could be done. All words are
expanded before the first stream is connected. With `aside` each stream is put aside first. -/
def redirect : (fuel : Nat) → (aside : Bool) → List Redirection → Running Bool
  | 0, _, _ => throw .shell
  | fuel + 1, aside, rs => do
    link fuel (if aside then rs.map (·.stream) else []) (← expandLinks fuel rs)

def expandLinks : (fuel : Nat) → List Redirection → Running (List Link)
  | 0, _ => throw .shell
  | _, [] => return []
  | fuel + 1, r :: rs => do
    let l ←
      match r with
      | .file stream opening w => do pure (.file stream opening (← flat fuel {} w))
      | .copy stream w => do copyOf stream (← flat fuel {} w)
      | .document stream number => pure (.document stream number)
    return l :: (← expandLinks fuel rs)

/-- Connects streams one after the other, as far as that can be done, of which some are put aside
when they are connected first. -/
def link : (fuel : Nat) → (aside : List Nat) → List Link → Running Bool
  | 0, _, _ => throw .shell
  | _, _, [] => return true
  | fuel + 1, aside, l :: ls => do
    let done ←
      match l with
      | .file stream opening name => linkFile stream opening name
      | .copy stream source => linkStream (aside.contains stream) stream source
      | .document stream number =>
        tryCatch (do
          let w := ((← get).documents.lookup number).getD []
          let text ← flat fuel { start := false } w
          connect stream (some (← newInput text))
          return true) fun
        | .fault => pure false
        | leave => throw leave
    if done then link fuel (aside.filter (· ≠ l.stream)) ls else return false

/-- Makes assignments, from first to last, and gives the values. With `seen` programs see the
variables. -/
def assignAll : (fuel : Nat) → (seen : Bool) → List (Text × Word) → Running (List (Text × Text))
  | 0, _, _ => throw .shell
  | _, _, [] => return []
  | fuel + 1, seen, (name, w) :: rest => do
    let s ← flat fuel { colons := true } w
    if seen then assignSeen name s else assign name s
    return (name, s) :: (← assignAll fuel seen rest)

/-- Runs a command, and attends to the signals that came before it and while it ran. -/
def perform : (fuel : Nat) → Mode → Command → Running Unit
  | 0, _, _ => throw .shell
  | fuel + 1, mode, c => do
    attend fuel
    if ← isSet 'n' then return
    obey fuel mode c
    attend fuel
    if c.isSettled then settle mode.tested

/-- Does what a command says. -/
def obey : (fuel : Nat) → Mode → Command → Running Unit
  | 0, _, _ => throw .shell
  | fuel + 1, mode, c => do
    match c with
    | .nothing => return
    | .simple line as ws rs => runSimple fuel mode line as ws rs
    | .sequence a b =>
      perform fuel mode.within a
      perform fuel mode b
    | .both a b =>
      perform fuel .condition a
      if (← get).status = 0 then perform fuel mode b
    | .either a b =>
      perform fuel .condition a
      if (← get).status ≠ 0 then perform fuel mode b
    | .negated a =>
      perform fuel .condition a
      give (if (← get).status = 0 then 1 else 0)
    | .pipe cs =>
      searchAhead cs
      runIdle fuel
      runPipe fuel mode none cs
      resume
    | .background a => inBackground a
    | .branch condition yes no =>
      perform fuel .condition condition
      if (← get).status = 0 then perform fuel mode yes
      else
        match no with
        | .nothing => give 0
        | _ => perform fuel mode no
    | .loop until_ condition body => repeatBody fuel mode.within until_ condition body 0
    | .each line name words body =>
      modify fun st => { st with line }
      let values ←
        match words with
        | some ws => allFields fuel ws
        | none => do pure (← get).arguments
      if values.isEmpty then give 0 else eachValue fuel mode.within name values body
    | .choice line subject clauses =>
      modify fun st => { st with line }
      let s ← flat fuel {} subject
      choose fuel mode s clauses
    | .redirected line a [] =>
      modify fun st => { st with line }
      perform fuel mode a
    | .redirected line a rs =>
      modify fun st => { st with line }
      keepingStreams rs do
        if ← redirect fuel true rs then perform fuel mode.within a
    | .nested line a rs =>
      modify fun st => { st with line }
      if mode.last && !isPrepared (← get) then
        if ← redirect fuel false rs then perform fuel mode a
        throw .shell
      else
        runIdle fuel
        apart do
          if ← redirect fuel false rs then ending fuel (perform fuel mode.alone a)
    | .define name body =>
      modify fun st =>
        { st with functions := (name, body) :: st.functions.filter (·.1 ≠ name) }
      give 0

/-- Attends to the signals that came: each runs what there is for it, and the status is what it was
before, unless a return with a status ends it. -/
def attend : (fuel : Nat) → Running Unit
  | 0 => throw .shell
  | fuel + 1 => do
    let st ← get
    if st.pending.isEmpty then return
    let status := st.kept.getD st.status
    set { st with pending := [], kept := some status }
    runTraps fuel status (st.pending.mergeSort (· ≤ ·))
    modify fun after => { after with kept := st.kept }

/-- Runs what there is for some signals. When one of them leaves a loop or a function, the others
are left to be attended to. -/
def runTraps : (fuel : Nat) → (status : Nat) → List Signal → Running Unit
  | 0, _, _ => throw .shell
  | _, _, [] => return
  | fuel + 1, status, n :: signals => do
    let before := (← get).kept
    match (← get).traps.lookup n with
    | none | some [] => pure ()
    | some action =>
      tryCatch (runText fuel {} false action) fun leave => do
        match leave with
        | .loops .. | .function true => give status
        | _ => pure ()
        if leave matches .loops .. || leave matches .function _ then
          modify fun st => { st with pending := signals ++ st.pending, kept := before }
        throw leave
      give status
    runTraps fuel status signals

/-- Does something, and then what runs when the shell ends. The status stays what it was before
that, unless the shell is ended once more. When a signal ends the shell nothing runs but what is in
the background. -/
def ending : (fuel : Nat) → Running Unit → Running Unit
  | 0, _ => throw .shell
  | fuel + 1, x => do
    let ended : Running Unit := do
      tryCatch x fun
        | .killed n => throw (.killed n)
        | .function true => do
          let st ← get
          give (st.kept.getD st.status)
        | _ => pure ()
      let st ← get
      match st.traps.lookup 0 with
      | none | some [] => return
      | some action =>
        let traps := st.traps.filter (·.1 ≠ 0)
        set { st with traps, running := none, kept := some st.status }
        tryCatch (do runText fuel {} false action; give st.status) fun
          | .fault | .shell => pure ()
          | .killed n => throw (.killed n)
          | _ => give st.status
    tryCatch ended fun leave => do
      runIdle fuel
      throw leave
    runIdle fuel

/-- Runs the processes in the background that have not come to run, in the order in which they were
started. -/
def runIdle : (fuel : Nat) → Running Unit
  | 0 => throw .shell
  | fuel + 1 => do
    let p :: idle := (← get).idle | return
    modify fun st => { st with idle }
    note (← finish p (ending fuel (perform fuel { last := true } p.command)))
    runIdle fuel

/-- Waits for what is in the background to run, and takes the signals from there. -/
def awaken : (fuel : Nat) → Running Unit
  | 0 => throw .shell
  | fuel + 1 => do
    runIdle fuel
    wake

/-- Runs commands of which each reads what the one before it writes. -/
def runPipe : (fuel : Nat) → Mode → (input : Option Channel) → List Command → Running Unit
  | 0, _, _, _ => throw .shell
  | _, _, _, [] => return
  | fuel + 1, mode, input, c :: cs => do
    let x : Running Unit := do
      if input.isSome then connect 0 input
      ending fuel (perform fuel mode.alone c)
    if cs.isEmpty then
      let e ← forked x
      announce e
      give e.status
    else
      let (e, text) ← forkedAndRead x
      announce e
      runPipe fuel mode (some (← newInput text)) cs

/-- Runs a loop that has a condition; `status` is that of the last turn. -/
def repeatBody : (fuel : Nat) → Mode → (until_ : Bool) → (condition body : Command) →
    (status : Nat) → Running Unit
  | 0, _, _, _, _, _ => throw .shell
  | fuel + 1, mode, until_, condition, body, status => do
    let more ← turn do
      perform fuel .condition condition
      if ((← get).status = 0) = (until_ = false) then
        perform fuel mode body
        return true
      else
        give status
        return false
    if more then repeatBody fuel mode until_ condition body (← get).status

/-- Runs the body of a loop for each of some values. -/
def eachValue : (fuel : Nat) → Mode → (name : Text) → (values : List Text) →
    (body : Command) → Running Unit
  | 0, _, _, _, _ => throw .shell
  | _, _, _, [], _ => return
  | fuel + 1, mode, name, v :: vs, body => do
    assign name v
    let more ← turn do
      perform fuel mode body
      return true
    if more then eachValue fuel mode name vs body

/-- Runs the first clause that has a pattern a text matches. -/
def choose : (fuel : Nat) → Mode → (subject : Text) →
    List (List Word × Command) → Running Unit
  | 0, _, _, _ => throw .shell
  | _, _, _, [] => give 0
  | fuel + 1, mode, s, (patterns, body) :: rest => do
    if ← matchesAny fuel s patterns then
      match body with
      | .nothing => give 0
      | _ => perform fuel mode body
    else choose fuel mode s rest

/-- Whether a text matches one of some patterns. -/
def matchesAny : (fuel : Nat) → (subject : Text) → List Word → Running Bool
  | 0, _, _ => throw .shell
  | _, _, [] => return false
  | fuel + 1, s, w :: ws => do
    let gs ← expandParts fuel {} w
    let pattern := Pattern.ofWord (Glyph.joined (← separators) gs)
    if pattern.accepts s then return true else matchesAny fuel s ws

/-- Runs a simple command: its words are expanded, then its streams are connected, then its
assignments are made. -/
def runSimple : (fuel : Nat) → Mode → (line : Nat) → List (Text × Word) → List Word →
    List Redirection → Running Unit
  | 0, _, _, _, _, _ => throw .shell
  | fuel + 1, mode, line, as, ws, rs => do
    modify fun st => { st with line, substituted := none }
    let words ← expand fuel [] ws
    let errors := (← get).streams.lookup 2
    match words with
    | [] =>
      keepingStreams rs do
        if ← redirect fuel true rs then
          showIf fuel errors (← assignAll fuel false as) []
          give ((← get).substituted.getD 0)
    | name :: args =>
      let special := isSpecialCommand name
      let connected : Running Unit := do
        if ← redirect fuel true rs then
          showIf fuel errors (← assignAll fuel (!special) as) words
          call fuel mode name args
        else if special then throw .fault
      let kept : List Redirection :=
        if (← builtinName? words) = some "exec".toList then [] else rs
      keepingStreams kept
        (if special then connected else keepingVariables (as.map (·.1)) connected)

/-- Shows a command before it runs, if that is wanted, where its own redirections do not count. -/
def showIf : (fuel : Nat) → (errors : Option Channel) → List (Text × Text) → (words : List Text) →
    Running Unit
  | 0, _, _, _ => throw .shell
  | fuel + 1, errors, pairs, words => do
    if (← isSet 'x') && !(← get).showing then
      let st ← get
      set { st with showing := true }
      let lead ← showingLead fuel
      modify fun after => { after with showing := false, status := st.status }
      let shown := pairs.map (fun (name, value) => name ++ '=' :: value) ++ words
      let _ ← writeTo errors (lead ++ Text.joined [' '] shown ++ ['\n'])

/-- What stands in front of a command that is shown: a text that is expanded, if it can be. -/
def showingLead : (fuel : Nat) → Running Text
  | 0 => throw .shell
  | fuel + 1 => do
    let text := (← valueOf "PS4").getD []
    let st ← get
    let source : Source :=
      { rest := text, unread := if st.atEnd then some .finish else none,
        documents := st.documents, next := st.nextDocument, aliases := st.aliases }
    let expanded : Running Text := do
      match source.readDocument with
      | .error fault =>
        set { st with atEnd := false }
        fail fault.what
      | .ok (w, after) =>
        set { st with
          documents := after.documents, nextDocument := after.next, atEnd := after.unread.isSome }
        flat fuel { start := false } w
    tryCatch expanded fun
      | .fault => return text
      | leave => throw leave

/-- Runs the command that a name stands for: a special one, a function, a built-in one or a
program. -/
def call : (fuel : Nat) → Mode → (name : Text) → (args : List Text) → Running Unit
  | 0, _, _, _ => throw .shell
  | fuel + 1, mode, name, args => do
    if isSpecialCommand name then special fuel mode name args
    else
      match (← get).functions.lookup name with
      | some body => inFunction args (perform fuel mode.within body)
      | none => plainly fuel mode none (name :: args)

/-- Runs a command that is special to shells. A return is looked at where it stands, before the call
that it returns from. -/
def special : (fuel : Nat) → Mode → (name : Text) → (args : List Text) →
    Running Unit
  | 0, _, _, _ => throw .shell
  | fuel + 1, mode, name, args => do
    if name = "eval".toList then
      named name (runText fuel mode.within false (Text.joined [' '] args))
    else if name = ['.'] then
      named name do
        match ← plainArguments args with
        | [] => give 0
        | file :: _ => runFile fuel file
    else if name = "exec".toList then
      match args with
      | [] => give 0
      | program :: args =>
        named name (launch fuel true none program args)
        throw .shell
    else
      match builtin? name args with
      | some x =>
        tryCatch (named name x) fun leave => do
          if leave matches .function _ then settle mode.tested
          throw leave
      | none => give 0

/-- Runs a command that is neither special nor a function; programs are searched for along a path if
one is given. Behind `command` functions are left out, and a fault in a special command does not end
the shell. -/
def plainly : (fuel : Nat) → Mode → (path : Option Text) → (words : List Text) → Running Unit
  | 0, _, _, _ => throw .shell
  | fuel + 1, mode, path, words => do
    let name :: args := words | give 0
    if name = "command".toList then
      match innerCommand false args with
      | some (fromSystem, inner) =>
        let path := if fromSystem then some systemPath else path
        if inner.head?.any isSpecialCommand then
          forgiving (special fuel mode (inner.head?.getD []) inner.tail)
        else plainly fuel mode path inner
      | none => forgiving (named name (describeAsked args))
    else
      if name = "wait".toList && awaits (← get).jobs args then awaken fuel
      match builtin? name args with
      | some x => forgiving (named name x)
      | none => launch fuel (mode.last && !isPrepared (← get)) path name args

/-- Runs the commands of a file in this shell. -/
def runFile : (fuel : Nat) → (file : Text) → Running Unit
  | 0, _ => throw .shell
  | fuel + 1, file => do
    let st ← get
    let isFile (candidate : Text) : Bool :=
      match st.traffic.tree.look st.here (Raw.decode candidate) with
      | .ok (_, .file _) => true
      | _ => false
    let path := (← valueOf "PATH").getD Program.standardPath
    let found :=
      if file.contains '/' then some file else (Program.candidates path file).find? isFile
    let some file := found | fail (file ++ ": not found")
    match ← openFile .read file with
    | .ok channel =>
      tryCatch (named file (runText fuel {} true (← readAll (some channel)))) fun
        | .function _ => pure ()
        | leave => throw leave
    | .error what => fail what

/-- Starts a program and waits for it, or becomes it. -/
def launch : (fuel : Nat) → (becoming : Bool) → (path : Option Text) → (name : Text) →
    (args : List Text) → Running Unit
  | 0, _, _, _, _ => throw .shell
  | fuel + 1, becoming, path, name, args => do
    let st ← get
    let found ←
      if name.contains '/' then pure (.program name)
      else findProgram path name
    match found with
    | .nothing =>
      complain (name ++ ": not found")
      give 127
    | .denied =>
      complain (name ++ ": Permission denied")
      give 127
    | .program path =>
      let tree := st.traffic.tree
      match Program.load tree st.here Program.mostInterpreters path name args with
      | .ok image => start fuel becoming image
      | .error .notAnExecutable =>
        start fuel becoming (Program.shellImage name (path :: args))
      | .error why =>
        let (what, status) := startingMessage why
        complain (name ++ ": " ++ what)
        give status

/-- Runs a program that has been found. When the process becomes that program, nothing follows
it. -/
def start : (fuel : Nat) → (becoming : Bool) → Program.Image → Running Unit
  | 0, _, _ => throw .shell
  | fuel + 1, becoming, image => do
    match image with
    | .complaint zero what =>
      let _ ← write 2 (zero ++ ": 0: " ++ what ++ ['\n'])
      give 2
    | .reading none flags zero arguments =>
      let script ← readAll ((← get).streams.lookup 0)
      start fuel becoming (.shell true flags script zero arguments)
    | .reading (some file) flags zero arguments =>
      match ← openFile .read file with
      | .ok channel =>
        start fuel becoming (.shell true flags (← readAll (some channel)) file arguments)
      | .error what => start fuel becoming (.complaint zero what)
    | .shell read flags script zero arguments =>
      let x : Running Unit := do
        become (flags.filter (· ≠ 'm')) zero arguments
        if flags.contains 'i' || flags.contains 'm' then
          let _ ← write 2 (zero ++ ": 0: can't access tty; job control turned off\n")
        ending fuel (runText fuel {} read script)
      if becoming then
        awaken fuel
        x
        throw .shell
      else
        runIdle fuel
        apart x

/-- Runs a text as commands, a line at a time. With `read` it is read from somewhere, and shown
when that is wanted. -/
def runText : (fuel : Nat) → Mode → (read : Bool) → Text → Running Unit
  | 0, _, _, _ => throw .shell
  | fuel + 1, mode, read, text => readingApart (runLines fuel mode read false { rest := text })

/-- Runs what is left of a text. A text without any command, of which nothing `ran`, ends well. -/
def runLines : (fuel : Nat) → Mode → (read ran : Bool) → Source → Running Unit
  | 0, _, _, _, _ => throw .shell
  | fuel + 1, mode, read, ran, source => do
    let st ← get
    let reveal (rest : Text) : Running Unit := do
      if read && (← isSet 'v') then
        let _ ← write 2 (source.rest.take (source.rest.length - rest.length))
    let aliases := st.aliases
    let known := { source with documents := st.documents, next := st.nextDocument, aliases }
    match known.readLine with
    | .error fault =>
      reveal []
      modify fun st => { st with line := fault.line }
      fail fault.what
    | .ok (none, _) =>
      reveal []
      modify fun st => { st with atEnd := true }
      if !ran then give 0
    | .ok (some c, after) =>
      reveal after.rest
      modify fun st =>
        { st with
          documents := after.documents, nextDocument := after.next, reached := after.line,
          atEnd := after.unread.isSome }
      perform fuel mode c
      let blank := match c with | .nothing => true | _ => false
      runLines fuel mode read (ran || !blank) after

end

end Running

/-- How many steps deep a script may go. -/
def depth : Nat := 40000

/-- What a program writes to its two streams that is started in a directory with some variables. -/
def streams (tree : FileTree) (here : Location) (environment : List (Text × Text))
    (image : Program.Image) : Text × Text :=
  let bound := environment.map fun (name, value) =>
    (name, ({ value := some value, seen := true } : Variable))
  let st : State :=
    { traffic := { tree }, bound, zero := [], arguments := [], here,
      directory := Running.pathOf here }
  let (_, after) := (Running.start depth true image).run.run st
  (after.traffic.output.reverse.flatten, after.traffic.errors.reverse.flatten)

end ClasspathProbe.Shell
