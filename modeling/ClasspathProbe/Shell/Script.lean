import ClasspathProbe.Shell.Token

/-!
# Reading shell scripts

The grammar of scripts. A script is read one complete command at a time, up to the end of its line,
because the commands before a fault still run.
-/

namespace ClasspathProbe.Shell

/-- How far a list of commands goes. -/
inductive Extent where
  /-- To the end of a line. -/
  | line
  /-- To a closing token, with at least one command. -/
  | some
  /-- To a closing token, perhaps with no command. -/
  | any
deriving DecidableEq

def Command.andThen (first second : Command) : Command :=
  match first with
  | .nothing => second
  | _ => .sequence first second

namespace Reader

mutual

/-- Reads the parts of a word up to what ends it; `before` has the parts so far, last first. -/
def readParts : (fuel : Nat) → Context → (before : Word) → Reader Word
  | 0, _, _ => tooDeep
  | fuel + 1, x, before => do
    let inLines := (← get).request.isSome
    let run ← takeWhile fun c => !x.specials.contains c && !(inLines && c = '\n')
    if inLines && (← peek) = some '\n' then
      skip 1
      let start ← startLine x
      return ← readParts fuel x (start ++ withPlain x.isQuoted (run ++ ['\n']) before)
    let before := withPlain x.isQuoted run before
    let some c ← peek |
      match x with
      | .bare | .document | .verbatim => return before.reverse
      | .single | .double _ | .inner => failOpen true
      | .braces quoted => failOpen quoted
      | .arithmetic _ => fail "Missing '))'"
    if c = '\\' then
      skip 1
      let some d ← peek | readParts fuel x (.plain ['\\'] true :: before)
      if d = '\n' then
        skip 1
        readParts fuel x before
      else
        skip 1
        readParts fuel x (.plain (if x.escapes d then [d] else ['\\', d]) true :: before)
    else if c = '\'' then
      skip 1
      match x with
      | .single => return before.reverse
      | _ =>
        let inside ← readParts fuel .single []
        readParts fuel x (inside.reverse ++ .plain [] true :: before)
    else if c = '"' then
      skip 1
      match x with
      | .double _ => return before.reverse
      | .arithmetic _ => readParts fuel x (.plain [c] true :: before)
      | .braces true => readParts fuel .inner before
      | .inner => readParts fuel (.braces true) before
      | _ =>
        let inBraces := match x with | .braces _ => true | _ => false
        let inside ← readParts fuel (.double inBraces) []
        readParts fuel x ((inDoubleQuotes inside).reverse ++ before)
    else if c = '$' then
      skip 1
      match ← readExpansion fuel x.isQuoted with
      | .plain s quoted => readParts fuel x (withPlain quoted s before)
      | p => readParts fuel x (p :: before)
    else if c = '\x60' then
      skip 1
      let s ← get
      match backquoted x.isQuoted s.rest with
      | none =>
        skip s.rest.length
        fail "EOF in backquote substitution"
      | some (inside, n) =>
        let inUse := s.inUse.map fun (name, _) => (name, 0)
        set { s with
          rest := inside, line := 1, requests := [], inUse, inDocument := false, request := none }
        let command ← readList fuel .any true .nothing
        modify fun after =>
          { s with unread := none, documents := after.documents, next := after.next }
        skip n
        readParts fuel x (.output command x.isQuoted :: before)
    else if c = '\x7d' then
      skip 1
      return before.reverse
    else
      match x with
      | .arithmetic depth =>
        skip 1
        if c = '(' then readParts fuel (.arithmetic (depth + 1)) (.plain [c] true :: before)
        else if depth ≠ 0 then
          readParts fuel (.arithmetic (depth - 1)) (.plain [c] true :: before)
        else if (← peek) = some ')' then
          skip 1
          return before.reverse
        else readParts fuel x (.plain [c] true :: before)
      | _ => return before.reverse

/-- Reads an expansion after its dollar sign; a dollar sign that starts none stands for itself. -/
def readExpansion : (fuel : Nat) → (quoted : Bool) → Reader Part
  | 0, _ => tooDeep
  | fuel + 1, quoted => do
    let (rest, continued) := unbrokenExpansion (← get).rest
    modify fun s => { s with rest, line := s.line + continued }
    match rest with
    | '(' :: '(' :: _ =>
      skip 2
      return .arithmetic (← readParts fuel (.arithmetic 0) []) quoted
    | '(' :: _ =>
      skip 1
      let s ← get
      set { s with requests := [], inDocument := false, request := none }
      let command ← readList fuel .any true .nothing
      let t ← readToken fuel true false true
      modify fun after =>
        { after with requests := s.requests, inDocument := s.inDocument, request := s.request }
      if t.isOperator ")" then return .output command quoted else unexpected t (some "\")\"")
    | '\x7b' :: rest =>
      skip 1
      match rest with
      | '#' :: after =>
        let name := parameterName after
        if !name.isEmpty && after[name.length]? = some '\x7d' then
          skip (name.length + 2)
          return .parameter name .length quoted
        else if name.isEmpty && after.head? ≠ some '\x7d' && after[1]? = some '\x7d' then
          skip 2
          readUnknown fuel quoted 0
        else readUse fuel quoted
      | _ => readUse fuel quoted
    | c :: rest =>
      let name := if c.isDigit then [c] else parameterName (c :: rest)
      if name.isEmpty then return .plain ['$'] quoted
      else
        skip name.length
        return .parameter name .value quoted
    | [] => return .plain ['$'] quoted

/-- Reads the name of a parameter and its use, up to the closing brace. -/
def readUse : (fuel : Nat) → (quoted : Bool) → Reader Part
  | 0, _ => tooDeep
  | fuel + 1, quoted => do
    let name := parameterName (← get).rest
    skip name.length
    if name.isEmpty then readUnknown fuel quoted 1
    else if (← peek) = some '\x7d' then
      skip 1
      return .parameter name .value quoted
    else
      match useOf quoted (← get).rest with
      | some (n, x, use) =>
        skip n
        return .parameter name (use (← readParts fuel x [])) quoted
      | none => readUnknown fuel quoted (if (← peek) = some ':' then 2 else 1)

/-- Reads a use of a parameter that the language does not have: some characters that say which, but
not the end of it, and a word. -/
def readUnknown : (fuel : Nat) → (quoted : Bool) → (n : Nat) → Reader Part
  | 0, _, _ => tooDeep
  | fuel + 1, quoted, n => do
    modify fun s => { s with rest := if s.rest.head? = some '\x7d' then s.rest else s.rest.drop n }
    let _ ← readParts fuel (.braces quoted) []
    return .parameter [] .unknown quoted

/-- Reads the texts for streams that have been asked for. -/
def readDocuments : (fuel : Nat) → Reader Unit
  | 0 => tooDeep
  | fuel + 1 => do
    let s ← get
    match s.requests with
    | [] => return
    | r :: requests =>
      set { s with requests := [], inDocument := true, request := some r }
      let x : Context := if r.verbatim then .verbatim else .document
      let word ← readParts fuel x (← startLine x)
      modify fun after =>
        { after with
          rest := after.beyond.getD after.rest, beyond := none, requests
          inDocument := s.inDocument, request := s.request
          documents := (r.number, word) :: after.documents }
      readDocuments fuel

/-- Reads a token. With `keywords` a word may be a keyword, with `newlines` line ends in front of
the token are gone over, and with `aliases` a word may stand for a text. -/
def readToken : (fuel : Nat) → (keywords newlines aliases : Bool) → Reader Token
  | 0, _, _, _ => tooDeep
  | fuel + 1, keywords, newlines, aliases => do
    let s ← get
    let (t, follows) ←
      match s.unread with
      | some t => do
        set { s with unread := none }
        pure (t, false)
      | none => do
        let follows ← skipToToken
        pure (← readNewToken fuel, follows)
    match t with
    | .newline =>
      if newlines then
        readDocuments fuel
        readToken fuel keywords newlines aliases
      else return t
    | .word w =>
      let t := if keywords then t.asKeyword else t
      if t matches .keyword _ then return t
      let unfolds ← if aliases || follows then unfoldAlias w else pure false
      if unfolds then readToken fuel keywords newlines true else return t
    | _ => return t

/-- Reads the token that a text starts with. -/
def readNewToken : (fuel : Nat) → Reader Token
  | 0 => tooDeep
  | fuel + 1 => do
    let (rest, continued) := unbroken (← get).rest
    modify fun s => { s with rest, line := s.line + continued }
    match rest with
    | [] => return .finish
    | '\n' :: _ =>
      skip 1
      return .newline
    | c :: after =>
      match arrow? rest, arrow? after with
      | some (stream, a, n), _ =>
        skip n
        return .arrow stream a
      | none, numbered =>
        match numbered, c.isDigit, operator? rest with
        | some (_, a, n), true, _ =>
          skip (n + 1)
          return .arrow (c.toNat - '0'.toNat) a
        | _, _, some op =>
          skip op.length
          return .operator op
        | _, _, none => return .word (← readParts fuel .bare [])

def readList : (fuel : Nat) → Extent → (first : Bool) → (before : Command) → Reader Command
  | 0, _, _, _ => tooDeep
  | fuel + 1, extent, first, before => do
    let t ← readToken fuel true (extent ≠ .line) true
    match t with
    | .newline =>
      readDocuments fuel
      return before
    | .finish =>
      handBack t
      return before
    | _ =>
      handBack t
      if t.closes && (extent = .any || (extent = .some && !first)) then return before
      let c ← readTied fuel
      let t ← readToken fuel false false false
      let c := if t.isOperator "&" then .background c else c
      let before := before.andThen c
      match t with
      | .finish =>
        handBack t
        return before
      | .newline =>
        handBack t
        readList fuel extent false before
      | _ =>
        if t.isOperator "&" || t.isOperator ";" then readList fuel extent false before
        else if extent = .line then unexpected t none
        else
          handBack t
          return before

/-- Reads commands tied by `&&` and `||`, from left to right. -/
def readTied : (fuel : Nat) → Reader Command
  | 0 => tooDeep
  | fuel + 1 => do readMoreTied fuel (← readPipe fuel false)

/-- Goes on reading commands tied to what has been read. -/
def readMoreTied : (fuel : Nat) → Command → Reader Command
  | 0, _ => tooDeep
  | fuel + 1, before => do
    let t ← readToken fuel false false false
    if t.isOperator "&&" then readMoreTied fuel (.both before (← readPipe fuel true))
    else if t.isOperator "||" then readMoreTied fuel (.either before (← readPipe fuel true))
    else
      handBack t
      return before

/-- Reads commands between bars, perhaps after an exclamation mark. -/
def readPipe : (fuel : Nat) → (newlines : Bool) → Reader Command
  | 0, _ => tooDeep
  | fuel + 1, newlines => do
    let t ← readToken fuel true newlines true
    let negated := t.isKeyword "!"
    if !negated then handBack t
    let first ← readCommand fuel false
    let rest ← readPiped fuel
    let c := if rest.isEmpty then first else .pipe (first :: rest)
    return if negated then .negated c else c

def readPiped : (fuel : Nat) → Reader (List Command)
  | 0 => tooDeep
  | fuel + 1 => do
    let t ← readToken fuel false false false
    if t.isOperator "|" then
      let c ← readCommand fuel true
      return c :: (← readPiped fuel)
    else
      handBack t
      return []

def expect : (fuel : Nat) → (keyword : String) → Reader Unit
  | 0, _ => tooDeep
  | fuel + 1, keyword => do
    let t ← readToken fuel true true true
    if t.isKeyword keyword then return else unexpected t (some ("\"" ++ keyword ++ "\""))

def readCommand : (fuel : Nat) → (newlines : Bool) → Reader Command
  | 0, _ => tooDeep
  | fuel + 1, newlines => do
    let line := (← get).line
    let t ← readToken fuel true newlines true
    match t with
    | .word _ | .arrow .. =>
      handBack t
      readSimple fuel (← get).line [] [] []
    | .operator ['('] => do
      let c ← readList fuel .some true .nothing
      let t ← readToken fuel true true true
      if !t.isOperator ")" then unexpected t (some "\")\"")
      return .nested line c (← readRedirections fuel true)
    | .keyword k =>
      if k = ['\x7b'] then
        let c ← readList fuel .some true .nothing
        expect fuel "\x7d"
        return .redirected line c (← readRedirections fuel true)
      else if k = "if".toList then
        let c ← readBranches fuel
        expect fuel "fi"
        return .redirected line c (← readRedirections fuel true)
      else if k = "while".toList || k = "until".toList then
        let condition ← readList fuel .some true .nothing
        expect fuel "do"
        let body ← readList fuel .some true .nothing
        expect fuel "done"
        let c := .loop (k = "until".toList) condition body
        return .redirected line c (← readRedirections fuel true)
      else if k = "for".toList then
        let t ← readToken fuel false false false
        let name? : Option Text :=
          match t with
          | .word w => bare? w
          | _ => none
        let some name := name? | fail "Bad for loop variable"
        if !isName name then fail "Bad for loop variable"
        let t ← readToken fuel true true true
        let words ←
          if t.isKeyword "in" then pure (some (← readWords fuel))
          else do
            if !t.isOperator ";" then handBack t
            pure none
        expect fuel "do"
        let body ← readList fuel .some true .nothing
        expect fuel "done"
        return .redirected line (.each line name words body) (← readRedirections fuel true)
      else if k = "case".toList then
        let t ← readToken fuel false false false
        let .word subject := t | unexpected t (some "word")
        expect fuel "in"
        let clauses ← readClauses fuel
        return .redirected line (.choice line subject clauses) (← readRedirections fuel true)
      else unexpected t none
    | _ => unexpected t none

/-- Reads a conditional after its first keyword and up to its last. -/
def readBranches : (fuel : Nat) → Reader Command
  | 0 => tooDeep
  | fuel + 1 => do
    let condition ← readList fuel .some true .nothing
    expect fuel "then"
    let yes ← readList fuel .some true .nothing
    let t ← readToken fuel true true true
    if t.isKeyword "elif" then return .branch condition yes (← readBranches fuel)
    else if t.isKeyword "else" then
      return .branch condition yes (← readList fuel .some true .nothing)
    else
      handBack t
      return .branch condition yes .nothing

/-- Reads the words of a loop over words, and what ends them. -/
def readWords : (fuel : Nat) → Reader (List Word)
  | 0 => tooDeep
  | fuel + 1 => do
    let t ← readToken fuel false false false
    match t with
    | .word w => return w :: (← readWords fuel)
    | .newline => return []
    | _ => if t.isOperator ";" then return [] else unexpected t none

/-- Reads the clauses of a choice, and its last keyword. -/
def readClauses : (fuel : Nat) → Reader (List (List Word × Command))
  | 0 => tooDeep
  | fuel + 1 => do
    let t ← readToken fuel true true false
    if t.isKeyword "esac" then return []
    if !t.isOperator "(" then handBack t
    let patterns ← readPatterns fuel
    let body ← readList fuel .any true .nothing
    let t ← readToken fuel true true false
    if t.isKeyword "esac" then return [(patterns, body)]
    else if t.isOperator ";;" then return (patterns, body) :: (← readClauses fuel)
    else unexpected t (some "\";;\"")

/-- Reads the patterns of a clause, and the parenthesis behind them. -/
def readPatterns : (fuel : Nat) → Reader (List Word)
  | 0 => tooDeep
  | fuel + 1 => do
    let t ← readToken fuel false false false
    let w : Word :=
      match t with
      | .word w => w
      | .keyword k => [.plain k false]
      | _ => []
    let t ← readToken fuel false false false
    if t.isOperator "|" then return w :: (← readPatterns fuel)
    else if t.isOperator ")" then return [w]
    else unexpected t (some "\")\"")

def readRedirection : (fuel : Nat) → (stream : Nat) → Arrow → Reader Redirection
  | 0, _, _ => tooDeep
  | fuel + 1, stream, a => do
    match a with
    | .document withoutTabs =>
      skipBlanks
      match (← get).rest with
      | c :: after =>
        if c.isDigit && (arrow? after).isSome then
          unexpected (.arrow 0 a) none
      | [] => pure ()
      let some (delimiter, verbatim, n) := delimiterOf none false (← get).rest |
        skip (← get).rest.length
        fail "Unterminated quoted string"
      if n = 0 then
        let t ← readToken fuel false false false
        unexpected t none
      skip n
      let number := (← get).next
      modify fun s =>
        let request : Request := { number, delimiter, verbatim, withoutTabs }
        { s with next := number + 1, requests := s.requests ++ [request] }
      return .document stream number
    | .opening o =>
      let t ← readToken fuel false false false
      let .word w := t | unexpected t none
      return .file stream o w
    | .copy =>
      let t ← readToken fuel false false false
      let .word w := t | unexpected t none
      return .copy stream w

def readRedirections : (fuel : Nat) → (keywords : Bool) → Reader (List Redirection)
  | 0, _ => tooDeep
  | fuel + 1, keywords => do
    let t ← readToken fuel keywords false keywords
    match t with
    | .arrow stream a =>
      let r ← readRedirection fuel stream a
      return r :: (← readRedirections fuel false)
    | _ =>
      handBack t
      return []

/-- Reads a simple command: assignments, words and redirections in the order they come. A word with
a pair of parentheses behind it is the name of a function. -/
def readSimple : (fuel : Nat) → (line : Nat) → (assignments : List (Text × Word)) →
    (words : List Word) → (redirections : List Redirection) → Reader Command
  | 0, _, _, _, _ => tooDeep
  | fuel + 1, line, as, ws, rs => do
    let t ← readToken fuel false false ws.isEmpty
    match t with
    | .word w =>
      match ws, assignment? w with
      | [], some a => readSimple fuel line (as ++ [a]) ws rs
      | _, _ => readSimple fuel line as (ws ++ [w]) rs
    | .arrow stream a =>
      let r ← readRedirection fuel stream a
      readSimple fuel line as ws (rs ++ [r])
    | _ =>
      match t.isOperator "(", as, ws, rs with
      | true, [], [w], [] =>
        let t ← readToken fuel false false false
        if !t.isOperator ")" then unexpected t (some "\")\"")
        match bare? w with
        | some name =>
          if isName name && !isSpecialCommand name then
            return .define name (← readCommand fuel true)
          else fail "Bad function name"
        | none => fail "Bad function name"
      | _, _, _, _ =>
        handBack t
        return .simple line as ws rs

end

end Reader

/-- How many steps reading a source takes at most. -/
def Source.size (s : Source) : Nat :=
  let aliases := s.aliases.foldl (fun n (_, text) => n + text.length + 1) 0
  8 * s.rest.length * (aliases + 1) + 64

/-- Reads a whole source as a text for a stream. -/
def Source.readDocument (s : Source) : Except Fault (Word × Source) :=
  (Reader.readParts s.size .document []).run { s with inDocument := true }

/-- Reads the commands up to the end of a line, and gives what follows it; at the end of a script
there are none. -/
def Source.readLine (s : Source) : Except Fault (Option Command × Source) := do
  let fuel := s.size
  let (t, s) ← (Reader.readToken fuel true false true).run s
  match t with
  | .finish => return (none, s)
  | _ =>
    let (c, s) ← (Reader.readList fuel .line true .nothing).run { s with unread := some t }
    return (some c, s)

end ClasspathProbe.Shell
