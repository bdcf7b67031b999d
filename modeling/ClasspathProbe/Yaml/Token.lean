import ClasspathProbe.Failure

/-!
# Tokens of a YAML document

A document is cut into tokens from left to right. In block context the indentation opens and closes
collections, and a text on one line becomes a key when a colon follows it: the key's token is put in
front of what was read meanwhile, which is why places where a key may have begun are remembered. The
whole stream is cut at once; when it cannot be cut to its end, the tokens before that place end in
the fault.
-/

namespace ClasspathProbe.Yaml

/-- Why a text is no document with values. -/
inductive Fault where
  /-- The text breaks the rules of the format. -/
  | malformed
  /-- A scalar looks like one of its kind but has no value. -/
  | scalar (fault : ScalarFault)
deriving DecidableEq

/-- A token. -/
inductive Token where
  | version (major : Nat)
  | tagHandle (handle leading : Text)
  | otherDirective
  | documentStart
  | documentEnd
  | blockSequenceStart
  | blockMappingStart
  | blockEnd
  | flowSequenceStart
  | flowMappingStart
  | flowSequenceEnd
  | flowMappingEnd
  | key
  | value
  | blockEntry
  | flowEntry
  | alias (name : Text)
  | anchor (name : Text)
  | tag (handle : Option Text) (suffix_ : Text)
  | scalar (text : Text) (plain : Bool)
  /-- The stream cannot be cut further. -/
  | fault (f : Fault)
deriving DecidableEq

/-! ## Characters -/

/-- Whether a character may stand in a stream. -/
def isAllowed (c : Char) : Bool :=
  let n := c.toNat
  n = 0x09 || n = 0x0a || n = 0x0d || (0x20 ≤ n && n ≤ 0x7e) || n = 0x85 ||
    (0xa0 ≤ n && n ≤ 0xd7ff) || (0xe000 ≤ n && n ≤ 0xfffd) || 0x10000 ≤ n

def isBreak (c : Char) : Bool :=
  c = '\r' || c = '\n' || c = '\u0085' || c = '\u2028' || c = '\u2029'

/-- Whether a character ends a line, or there is none. -/
def endsLine : Option Char → Bool
  | none => true
  | some c => isBreak c

/-- Whether a character is a space or ends a line, or there is none. -/
def endsWord : Option Char → Bool
  | some ' ' => true
  | c => endsLine c

/-- Whether a character is a blank or ends a line, or there is none. -/
def isGap : Option Char → Bool
  | some '\t' => true
  | c => endsWord c

/-- Whether a character can stand in the name of an anchor, a directive or a tag handle. -/
def isNameChar (c : Char) : Bool := c.isAlphanum || c = '-' || c = '_'

/-- Whether a character can stand in a tag. -/
def isTagChar (c : Char) : Bool := c.isAlphanum || ("-;/?:@&=+$,_.!~*'()[]%" : Text).contains c

def hexDigit? (c : Char) : Option Nat :=
  if c.isDigit then some (c.toNat - '0'.toNat)
  else if 'a' ≤ c && c ≤ 'f' then some (c.toNat - 'a'.toNat + 10)
  else if 'A' ≤ c && c ≤ 'F' then some (c.toNat - 'A'.toNat + 10)
  else none

/-- The number of some hexadecimal digits, if all are. -/
def hexNumber? (digits : Text) : Option Nat :=
  digits.foldl (fun n? c => do return (← n?) * 16 + (← hexDigit? c)) (some 0)

/-! ## The state of cutting -/

/-- A place where a key may have begun: the number of its token, whether it must be a key, and where
it is. -/
structure KeyPlace where
  token : Nat
  required : Bool
  index : Nat
  line : Nat
  column : Nat

/-- A stream that has been cut up to a place. -/
structure Scan where
  rest : Text
  /-- The length of the whole stream, which bounds how far anything in it goes. -/
  size : Nat
  index : Nat := 0
  line : Nat := 0
  column : Nat := 0
  /-- How many flow collections are open. -/
  flow : Nat := 0
  /-- The column of the innermost block collection, and those around it. -/
  indent : Int := -1
  indents : List Int := []
  /-- Whether a key may begin here. -/
  keyAllowed : Bool := true
  /-- The place where a key may have begun, for each depth of flow collections. -/
  keys : List (Nat × KeyPlace) := []
  tokens : Array Token := #[]

/-- Whether a place is too far away for a key: on another line, or more than 1024 characters
back. -/
def Scan.isStale (s : Scan) (k : KeyPlace) : Bool := k.line ≠ s.line || 1024 < s.index - k.index

/-- Something that cuts off a part of a stream. -/
abbrev Scanner := StateT Scan (Except Fault)

namespace Scanner

def refuse {α : Type} : Scanner α := throw .malformed

def peek (n : Nat) : Scanner (Option Char) := do return (← get).rest[n]?

/-- A scan after its next character. -/
def stepped (s : Scan) : Scan :=
  match s.rest with
  | [] => s
  | c :: rest =>
    if isBreak c && !(c = '\r' && rest.head? = some '\n') then
      { s with rest, index := s.index + 1, line := s.line + 1, column := 0 }
    else if c = '\uFEFF' then { s with rest, index := s.index + 1 }
    else { s with rest, index := s.index + 1, column := s.column + 1 }

def advance : Nat → Scanner Unit
  | 0 => return ()
  | n + 1 => do
    modify stepped
    advance n

/-- Cuts off the characters that pass a test. -/
def takeWhile (p : Char → Bool) : Scanner Text := do
  let s := (← get).rest.takeWhile p
  advance s.length
  return s

/-- Cuts off a line end, and gives what it stands for. -/
def lineBreak : Scanner Text := do
  match (← get).rest with
  | '\r' :: '\n' :: _ => advance 2; return ['\n']
  | c :: _ =>
    if c = '\u2028' || c = '\u2029' then advance 1; return [c]
    else if isBreak c then advance 1; return ['\n']
    else return []
  | [] => return []

/-- Whether a line that starts here starts or ends a document. -/
def atDocumentMark : Scanner Bool := do
  let rest := (← get).rest
  let mark := rest.take 3
  return (mark = "---".toList || mark = "...".toList) && isGap rest[3]?

def emit (t : Token) : Scanner Unit := modify fun s => { s with tokens := s.tokens.push t }

/-- Puts a token in front of the `n`-th one. -/
def emitAt (n : Nat) (t : Token) : Scanner Unit :=
  modify fun s => { s with tokens := s.tokens.insertIdxIfInBounds n t }

/-! ## Keys and indentation -/

def allowKey (allowed : Bool) : Scanner Unit := modify fun s => { s with keyAllowed := allowed }

/-- Forgets the place where a key may have begun at this depth; one that must be a key refuses. -/
def forgetKey : Scanner Unit := do
  let s ← get
  match s.keys.lookup s.flow with
  | some k =>
    if k.required then refuse
    set { s with keys := s.keys.filter (·.1 ≠ s.flow) }
  | none => return ()

def rememberKey : Scanner Unit := do
  let s ← get
  if s.keyAllowed then
    forgetKey
    let place : KeyPlace :=
      ⟨s.tokens.size, s.flow = 0 && s.indent = s.column, s.index, s.line, s.column⟩
    modify fun s => { s with keys := (s.flow, place) :: s.keys }

/-- Forgets the places that are too far away for a key. -/
def forgetStale : Scanner Unit := do
  let s ← get
  if s.keys.any fun k => s.isStale k.2 && k.2.required then refuse
  set { s with keys := s.keys.filter fun k => !s.isStale k.2 }

/-- Closes the block collections that are further in than a column. -/
def closeTo (column : Int) : (open_ : List Int) → Scanner Unit
  | [] => return ()
  | outer :: more => do
    let s ← get
    if s.flow = 0 && column < s.indent then
      set { s with indent := outer, indents := more, tokens := s.tokens.push .blockEnd }
      closeTo column more

/-- Closes the block collections that are further in than a column. -/
def unwind (column : Int) : Scanner Unit := do closeTo column (← get).indents

/-- Opens a block collection at a column, if none is open there. -/
def opens (column : Int) : Scanner Bool := do
  let s ← get
  if s.indent < column then
    set { s with indent := column, indents := s.indent :: s.indents }
    return true
  else return false

/-! ## Spaces, directives, names -/

def skipComment : Scanner Unit := do
  let _ ← takeWhile (· = ' ')
  if (← peek 0) = some '#' then
    let _ ← takeWhile fun c => !isBreak c

def skipToToken : (fuel : Nat) → Scanner Unit
  | 0 => return ()
  | fuel + 1 => do
    skipComment
    let ended ← lineBreak
    if ended.isEmpty then return ()
    if (← get).flow = 0 then allowKey true
    skipToToken fuel

/-- Passes over the rest of a line, which must hold nothing but a comment. -/
def skipLineEnd : Scanner Unit := do
  skipComment
  if !endsLine (← peek 0) then refuse
  let _ ← lineBreak

def number : Scanner Nat := do
  let digits := (← get).rest.takeWhile Char.isDigit
  if digits.isEmpty then refuse
  if Number.maxDigits < digits.length then throw (.scalar (.longInteger digits.length))
  advance digits.length
  return digits.foldl (fun n c => n * 10 + (c.toNat - '0'.toNat)) 0

/-- Cuts off the bytes that percent signs spell. -/
def escapedBytes : (fuel : Nat) → Scanner (List UInt8)
  | 0 => return []
  | fuel + 1 => do
    match (← get).rest with
    | '%' :: a :: b :: _ =>
      match hexNumber? [a, b] with
      | some n =>
        advance 3
        return n.toUInt8 :: (← escapedBytes fuel)
      | none => refuse
    | '%' :: _ => refuse
    | _ => return []

/-- Cuts off the characters of a tag; percent signs spell bytes. -/
def tagText : (fuel : Nat) → Scanner Text
  | 0 => return []
  | fuel + 1 => do
    let chunk ← takeWhile fun c => isTagChar c && c ≠ '%'
    if (← peek 0) = some '%' then
      let bytes ← escapedBytes (← get).size
      match Utf8.decodeStrict bytes with
      | .ok s => return chunk ++ s ++ (← tagText fuel)
      | .error _ => refuse
    else return chunk

/-- Cuts off the characters of a tag, of which there must be some. -/
def someTagText : Scanner Text := do
  let s ← tagText ((← get).size + 1)
  if s.isEmpty then refuse
  return s

/-- Cuts off a tag handle: one or two exclamation marks, with a name between two. -/
def handle : Scanner Text := do
  if (← peek 0) ≠ some '!' then refuse
  advance 1
  if (← peek 0) = some ' ' then return ['!']
  let name ← takeWhile isNameChar
  if (← peek 0) = some '!' then
    advance 1
    return '!' :: name ++ ['!']
  else refuse

def directive : Scanner Unit := do
  advance 1
  let name ← takeWhile isNameChar
  if name.isEmpty || !endsWord (← peek 0) then refuse
  if name = "YAML".toList then
    let _ ← takeWhile (· = ' ')
    let major ← number
    if (← peek 0) ≠ some '.' then refuse
    advance 1
    let _ ← number
    if !endsWord (← peek 0) then refuse
    emit (.version major)
  else if name = "TAG".toList then
    let _ ← takeWhile (· = ' ')
    let h ← handle
    if (← peek 0) ≠ some ' ' then refuse
    let _ ← takeWhile (· = ' ')
    let leading ← someTagText
    if !endsWord (← peek 0) then refuse
    emit (.tagHandle h leading)
  else
    let _ ← takeWhile fun c => !isBreak c
    emit .otherDirective
  skipLineEnd

/-- Cuts off the name behind the mark of an anchor or an alias. -/
def anchorName : Scanner Text := do
  advance 1
  let name ← takeWhile isNameChar
  if name.isEmpty then refuse
  let next ← peek 0
  if !isGap next && !(next.any fun c => ("?:,]\x7d%@\x60" : Text).contains c) then refuse
  return name

def tag : Scanner Token := do
  let next ← peek 1
  let t ←
    if next = some '<' then
      advance 2
      let s ← someTagText
      if (← peek 0) ≠ some '>' then refuse
      advance 1
      pure (Token.tag none s)
    else if isGap next then
      advance 1
      pure (Token.tag none ['!'])
    else
      let word := ((← get).rest.drop 1).takeWhile fun c => !endsWord (some c)
      let h ← if word.contains '!' then handle else do advance 1; pure ['!']
      let s ← someTagText
      pure (Token.tag (some h) s)
  if !endsWord (← peek 0) then refuse
  return t

/-! ## Block scalars -/

/-- Cuts off the marks behind the mark of a block scalar: what becomes of line ends at its end, and
by how much it is indented. -/
def blockMarks : Scanner (Option Bool × Option Nat) := do
  let sign : Scanner (Option Bool) := do
    match ← peek 0 with
    | some '+' => advance 1; return some true
    | some '-' => advance 1; return some false
    | _ => return none
  let digit : Scanner (Option Nat) := do
    match ← peek 0 with
    | some c =>
      if c.isDigit then
        if c = '0' then refuse
        advance 1
        return some (c.toNat - '0'.toNat)
      else return none
    | none => return none
  let keep ← sign
  let increment ← digit
  let keep ← if keep.isNone && increment.isSome then sign else pure keep
  if !endsWord (← peek 0) then refuse
  return (keep, increment)

/-- Cuts off empty lines before a block scalar whose indentation is not given, and gives their ends
and the widest indentation among them and of the line after them. -/
def leadingBreaks : (fuel : Nat) → (widest : Nat) → Scanner (Text × Nat)
  | 0, widest => return ([], widest)
  | fuel + 1, widest => do
    match ← peek 0 with
    | some ' ' =>
      advance 1
      leadingBreaks fuel (max widest (← get).column)
    | c =>
      if c.any isBreak then
        let b ← lineBreak
        let (bs, widest) ← leadingBreaks fuel widest
        return (b ++ bs, widest)
      else return ([], widest)

def skipIndent (indent : Int) : (fuel : Nat) → Scanner Unit
  | 0 => return ()
  | fuel + 1 => do
    if (← get).column < indent && (← peek 0) = some ' ' then
      advance 1
      skipIndent indent fuel

/-- Cuts off empty lines within a block scalar, and gives their ends. -/
def innerBreaks (indent : Int) : (fuel : Nat) → Scanner (List Text)
  | 0 => return []
  | fuel + 1 => do
    skipIndent indent (← get).size
    if (← peek 0).any isBreak then
      let b ← lineBreak
      return b :: (← innerBreaks indent fuel)
    else return []

/-- Cuts off the lines of a block scalar from its first one on. -/
def blockLines (folded : Bool) (keep : Option Bool) (indent : Int) :
    (fuel : Nat) → (breaks : List Text) → Scanner Text
  | 0, _ => return []
  | fuel + 1, breaks => do
    let startsBlank := (← peek 0).any fun c => c = ' ' || c = '\t'
    let line ← takeWhile fun c => !isBreak c
    let ended ← lineBreak
    let inner ← innerBreaks indent ((← get).size + 1)
    let next ← peek 0
    if ((← get).column : Int) = indent && next.isSome then
      let nextBlank := next.any fun c => c = ' ' || c = '\t'
      let between : Text :=
        if folded && ended = ['\n'] && !startsBlank && !nextBlank then
          if inner.isEmpty then [' '] else []
        else ended
      return breaks.flatten ++ line ++ between ++ (← blockLines folded keep indent fuel inner)
    else
      let last := if keep = some false then [] else ended
      let trailing := if keep = some true then inner.flatten else []
      return breaks.flatten ++ line ++ last ++ trailing

def blockScalar (folded : Bool) : Scanner Text := do
  let parent := (← get).indent
  advance 1
  let (keep, increment) ← blockMarks
  skipLineEnd
  let least : Int := max 1 (parent + 1)
  let fuel := (← get).size + 1
  let (breaks, indent) ←
    match increment with
    | none => do
      let (breaks, widest) ← leadingBreaks fuel 0
      pure ([breaks], max least widest)
    | some n => do
      let indent := least + n - 1
      pure (← innerBreaks indent fuel, indent)
  let s ← get
  if (s.column : Int) = indent && !s.rest.isEmpty then blockLines folded keep indent fuel breaks
  else return if keep = some true then breaks.flatten else []

/-! ## Quoted scalars -/

/-- The character behind a backslash and a letter. -/
def escape? : Char → Option Char
  | '0' => some '\x00'
  | 'a' => some '\x07'
  | 'b' => some '\x08'
  | 't' | '\t' => some '\t'
  | 'n' => some '\n'
  | 'v' => some '\x0b'
  | 'f' => some '\x0c'
  | 'r' => some '\r'
  | 'e' => some '\x1b'
  | ' ' => some ' '
  | '"' => some '"'
  | '\\' => some '\\'
  | '/' => some '/'
  | 'N' => some '\u0085'
  | '_' => some '\u00a0'
  | 'L' => some '\u2028'
  | 'P' => some '\u2029'
  | _ => none

/-- How many hexadecimal digits follow a backslash and a letter. -/
def escapeDigits? : Char → Option Nat
  | 'x' => some 2
  | 'u' => some 4
  | 'U' => some 8
  | _ => none

/-- Cuts off line ends and the blanks around them within a quoted scalar. -/
def quotedBreaks : (fuel : Nat) → Scanner (List Text)
  | 0 => return []
  | fuel + 1 => do
    if ← atDocumentMark then refuse
    let _ ← takeWhile fun c => c = ' ' || c = '\t'
    if (← peek 0).any isBreak then
      let b ← lineBreak
      return b :: (← quotedBreaks fuel)
    else return []

/-- What a line end within a scalar stands for, when more of them follow. -/
def foldedBreak (first : Text) (more : List Text) : Text :=
  (if first ≠ ['\n'] then first else if more.isEmpty then [' '] else []) ++ more.flatten

/-- Cuts off a quoted scalar after its opening quote. -/
def quoted (double : Bool) : (fuel : Nat) → Scanner Text
  | 0 => refuse
  | fuel + 1 => do
    match (← get).rest with
    | [] => refuse
    | '\'' :: rest =>
      if double then advance 1; return '\'' :: (← quoted double fuel)
      else if rest.head? = some '\'' then advance 2; return '\'' :: (← quoted double fuel)
      else advance 1; return []
    | '"' :: _ =>
      advance 1
      if double then return [] else return '"' :: (← quoted double fuel)
    | '\\' :: rest =>
      advance 1
      if !double then return '\\' :: (← quoted double fuel)
      let some c := rest.head? | refuse
      if let some e := escape? c then
        advance 1
        return e :: (← quoted double fuel)
      else if let some n := escapeDigits? c then
        let digits := rest.tail.take n
        let some code := (if digits.length = n then hexNumber? digits else none) | refuse
        if 0x110000 ≤ code then throw (.scalar (.character (decide (0x80000000 ≤ code))))
        advance (n + 1)
        let e := if 0xd800 ≤ code && code < 0xe000 then '\uFFFD' else Char.ofNat code
        return e :: (← quoted double fuel)
      else if isBreak c then
        let _ ← lineBreak
        let breaks ← quotedBreaks ((← get).size + 1)
        return breaks.flatten ++ (← quoted double fuel)
      else refuse
    | c :: _ =>
      if c = ' ' || c = '\t' || isBreak c then
        let blanks ← takeWhile fun c => c = ' ' || c = '\t'
        match ← peek 0 with
        | none => refuse
        | some d =>
          if isBreak d then
            let first ← lineBreak
            let breaks ← quotedBreaks ((← get).size + 1)
            return foldedBreak first breaks ++ (← quoted double fuel)
          else return blanks ++ (← quoted double fuel)
      else
        let chunk ← takeWhile fun c =>
          !(c = '\'' || c = '"' || c = '\\' || c = ' ' || c = '\t' || isBreak c)
        return chunk ++ (← quoted double fuel)

/-! ## Plain scalars -/

/-- The characters of a plain scalar up to the next blank. -/
def plainChunk (inFlow : Bool) : Text → Text
  | [] => []
  | c :: s =>
    let next := s.head?
    let flowMark := next.any fun d => (",[]\x7b\x7d" : Text).contains d
    let colonEnds := c = ':' && (isGap next || (inFlow && flowMark))
    if isGap (some c) || colonEnds || (inFlow && (",?[]\x7b\x7d" : Text).contains c) then []
    else c :: plainChunk inFlow s

/-- Cuts off line ends and spaces within a plain scalar; none when a document starts or ends. -/
def plainBreaks : (fuel : Nat) → Scanner (Option (List Text))
  | 0 => return some []
  | fuel + 1 => do
    match ← peek 0 with
    | some ' ' => advance 1; plainBreaks fuel
    | c =>
      if c.any isBreak then
        let b ← lineBreak
        if ← atDocumentMark then return none
        return (← plainBreaks fuel).map (b :: ·)
      else return some []

/-- Cuts off what may stand between two chunks of a plain scalar; empty when the scalar ends. -/
def plainSpaces : Scanner Text := do
  let spaces ← takeWhile (· = ' ')
  if (← peek 0).any isBreak then
    let first ← lineBreak
    allowKey true
    if ← atDocumentMark then return []
    match ← plainBreaks ((← get).size + 1) with
    | none => return []
    | some breaks => return foldedBreak first breaks
  else return spaces

/-- Cuts off a plain scalar, `spaces` standing before its next chunk. -/
def plain (indent : Int) : (fuel : Nat) → (spaces : Text) → Scanner Text
  | 0, _ => return []
  | fuel + 1, spaces => do
    let s ← get
    let inFlow := s.flow ≠ 0
    let chunk := if s.rest.head? = some '#' then [] else plainChunk inFlow s.rest
    if chunk.isEmpty then return []
    allowKey false
    advance chunk.length
    let next ← plainSpaces
    let s ← get
    if next.isEmpty || s.rest.head? = some '#' || (!inFlow && (s.column : Int) < indent) then
      return spaces ++ chunk
    else return spaces ++ chunk ++ (← plain indent fuel next)

/-! ## Tokens -/

/-- Cuts off a mark at the start or the end of a flow collection. -/
def flowStart (t : Token) : Scanner Unit := do
  rememberKey
  modify fun s => { s with flow := s.flow + 1, keyAllowed := true }
  advance 1
  emit t

/-- Cuts off a mark at the end of a flow collection. -/
def flowEnd (t : Token) : Scanner Unit := do
  forgetKey
  modify fun s => { s with flow := s.flow - 1, keyAllowed := false }
  advance 1
  emit t

/-- Cuts off a mark that starts or ends a document. -/
def documentMark (t : Token) : Scanner Unit := do
  unwind (-1)
  forgetKey
  allowKey false
  advance 3
  emit t

/-- Cuts off the mark of an entry or a key in block context, or of a key in flow context. -/
def blockMark (opening t : Token) (keyAfter : Bool) : Scanner Unit := do
  let s ← get
  if s.flow = 0 then
    if !s.keyAllowed then refuse
    if ← opens s.column then emit opening
  allowKey keyAfter
  forgetKey
  advance 1
  emit t

/-- Cuts off the mark of a value. What may have begun as a key before it is one. -/
def valueMark : Scanner Unit := do
  let s ← get
  match s.keys.lookup s.flow with
  | some place =>
    set { s with keys := s.keys.filter (·.1 ≠ s.flow) }
    emitAt place.token .key
    if s.flow = 0 then
      if ← opens place.column then emitAt place.token .blockMappingStart
    allowKey false
    advance 1
    emit .value
  | none => blockMark .blockMappingStart .value (s.flow = 0)

/-- Whether a plain scalar can start with these characters. -/
def startsPlain (inFlow : Bool) (c : Char) (next : Option Char) : Bool :=
  !(isGap (some c) || ("-?:,[]\x7b\x7d#&*!|>'\"%@\x60" : Text).contains c) ||
    (!isGap next && (c = '-' || (!inFlow && (c = '?' || c = ':'))))

/-- Cuts off the next token; the result says whether there may be more. -/
def token : Scanner Bool := do
  skipToToken ((← get).size + 1)
  forgetStale
  unwind (← get).column
  let s ← get
  let inFlow := s.flow ≠ 0
  let next := s.rest[1]?
  let fuel := s.size + 1
  let scalar (x : Scanner Text) (plain : Bool) : Scanner Unit := do
    rememberKey
    allowKey false
    emit (.scalar (← x) plain)
  match s.rest with
  | [] =>
    unwind (-1)
    forgetKey
    return false
  | c :: _ =>
    let marked := s.column = 0 && (← atDocumentMark)
    if c = '%' && s.column = 0 then
      unwind (-1)
      forgetKey
      allowKey false
      directive
    else if c = '-' && marked then documentMark .documentStart
    else if c = '.' && marked then documentMark .documentEnd
    else if c = '[' then flowStart .flowSequenceStart
    else if c = '\x7b' then flowStart .flowMappingStart
    else if c = ']' then flowEnd .flowSequenceEnd
    else if c = '\x7d' then flowEnd .flowMappingEnd
    else if c = ',' then
      allowKey true
      forgetKey
      advance 1
      emit .flowEntry
    else if c = '-' && isGap next then blockMark .blockSequenceStart .blockEntry true
    else if c = '?' && (inFlow || isGap next) then
      blockMark .blockMappingStart .key (s.flow = 0)
    else if c = ':' && (inFlow || isGap next) then valueMark
    else if c = '*' then
      rememberKey
      allowKey false
      emit (.alias (← anchorName))
    else if c = '&' then
      rememberKey
      allowKey false
      emit (.anchor (← anchorName))
    else if c = '!' then
      rememberKey
      allowKey false
      emit (← tag)
    else if (c = '|' || c = '>') && !inFlow then
      allowKey true
      forgetKey
      emit (.scalar (← blockScalar (c = '>')) false)
    else if c = '\'' || c = '"' then
      scalar (do advance 1; quoted (c = '"') fuel) false
    else if startsPlain inFlow c next then scalar (plain (s.indent + 1) fuel []) true
    else refuse
    return true

end Scanner

/-- The tokens that can be taken while the stream cannot be cut further: those before the first one
that may still turn out to begin a key. -/
def settled (s : Scan) : List Token :=
  let open_ := s.keys.filter fun k => !s.isStale k.2
  s.tokens.toList.take ((open_.map (·.2.token)).foldl min s.tokens.size)

/-- The tokens of a scan, with a fault at the end when the stream cannot be cut to its end. -/
def cut : (fuel : Nat) → Scan → List Token
  | 0, s => s.tokens.toList ++ [.fault .malformed]
  | fuel + 1, s =>
    match Scanner.token.run s with
    | .ok (true, s) => cut fuel s
    | .ok (false, s) => s.tokens.toList
    | .error f => settled s ++ [.fault f]

def tokens (stream : Text) : List Token :=
  if stream.all isAllowed then
    let start : Scan := { rest := stream, size := stream.length }
    let start :=
      if stream.head? = some '\uFEFF' then Scanner.stepped start else start
    cut (2 * stream.length + 2) start
  else [.fault .malformed]

end ClasspathProbe.Yaml
