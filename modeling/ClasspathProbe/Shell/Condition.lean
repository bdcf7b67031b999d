import ClasspathProbe.Shell.Arithmetic
import ClasspathProbe.Shell.Channel

/-!
# Conditions

What `test` finds out: whether texts are empty or equal, how numbers compare, what files are, and
combinations of these. Reading a condition goes along its words, and at each step stands at the last
word used.
-/

namespace ClasspathProbe.Shell.Condition

/-- The kinds of words that have a meaning in a condition. -/
inductive Kind where
  | unary
  | binary
  | negation
  | and
  | or
  | opening
  | closing
deriving DecidableEq

def kind? (w : Text) : Option Kind :=
  let isOneOf (all : List String) : Bool := all.any fun s => w = s.toList
  if w = ['!'] then some .negation
  else if w = ['('] then some .opening
  else if w = [')'] then some .closing
  else if isOneOf ["-a"] then some .and
  else if isOneOf ["-o"] then some .or
  else if isOneOf ["=", "!=", "<", ">", "-eq", "-ne", "-lt", "-le", "-gt", "-ge", "-nt", "-ot",
      "-ef"] then some .binary
  else
    match w with
    | ['-', c] => if ("rwxefdcbpugkstznhOGLS" : Text).contains c then some .unary else none
    | _ => none

/-- What a condition is decided by: the files, the directory in which names are read, and the
streams. -/
structure Surroundings where
  tree : FileTree
  here : Location
  streams : List (Nat × Channel)
  opened : Array OpenFile

namespace Surroundings

/-- Whether a name is that of a device. -/
def isDevice (name : Text) : Bool :=
  let all : List String := ["full", "null", "random", "tty", "urandom", "zero"]
  all.any fun s => name = "/dev/".toList ++ s.toList

/-- Whether what is at a place in the tree passes a test. -/
def nodePasses (test : Char) (node : Node) : Bool :=
  match test, node with
  | 'e', _ | 'r', _ | 'w', _ | 'O', _ | 'G', _ => true
  | 'f', .file _ | 'd', .directory _ | 'x', .directory _ | 's', .directory _ => true
  | 'x', .file f => f.executable
  | 's', .file f => !f.bytes.isEmpty
  | _, _ => false

/-- Whether what a stream leads to passes a test. -/
def channelPasses (x : Surroundings) (test : Char) (channel : Channel) : Bool :=
  match channel with
  | .opened n =>
    let node? := x.opened[n]?.bind fun o => x.tree.node? o.place
    node?.any (nodePasses test)
  | .nowhere | .full => ("cerwOG" : Text).contains test
  | _ => ("perwOG" : Text).contains test

def passes (x : Surroundings) (test : Char) (name : Text) : Bool :=
  let path := Raw.decode name
  let stream? := (Channel.named? path).bind (List.lookup · x.streams)
  if isDevice name then ("cerwOG" : Text).contains test
  else if test = 'h' || test = 'L' then
    match x.tree.locate x.here .entry path with
    | .ok (.found _ (.link _)) => true
    | _ => stream?.isSome
  else
    match stream?, x.tree.look x.here path with
    | some channel, _ => x.channelPasses test channel
    | none, .ok (_, node) => nodePasses test node
    | none, .error _ => false

/-- Whether two files are there, and the first has the later time. -/
def isNewer (x : Surroundings) (a b : Text) : Bool :=
  match x.tree.modified x.here (Raw.decode a), x.tree.modified x.here (Raw.decode b) with
  | .ok s, .ok t => t < s
  | _, _ => false

/-- Whether two names lead to the same place. -/
def isSame (x : Surroundings) (a b : Text) : Bool :=
  match x.tree.look x.here (Raw.decode a), x.tree.look x.here (Raw.decode b) with
  | .ok (p, _), .ok (q, _) => p = q
  | _, _ => false

end Surroundings

/-- The number that a word writes in decimal digits. -/
def number (w : Text) : Except Text Int :=
  match Arithmetic.whole? false w with
  | some n => .ok n
  | none => .error ("Illegal number: " ++ w)

def compare (x : Surroundings) (a op b : Text) : Except Text Bool := do
  if op = "=".toList then return a = b
  else if op = "!=".toList then return a ≠ b
  else if op = "<".toList then return a ≠ b && Text.le a b
  else if op = ">".toList then return a ≠ b && Text.le b a
  else if op = "-nt".toList then return x.isNewer a b
  else if op = "-ot".toList then return x.isNewer b a
  else if op = "-ef".toList then return x.isSame a b
  else
    let m ← number a
    let n ← number b
    if op = "-eq".toList then return m = n
    else if op = "-ne".toList then return m ≠ n
    else if op = "-lt".toList then return m < n
    else if op = "-le".toList then return m ≤ n
    else if op = "-gt".toList then return n < m
    else return n ≤ m

/-- The kind of the first of some words. A unary operator that nothing follows, or that stands
before a binary one, is an operand; so is an opening parenthesis at the end. -/
def first? (ws : List Text) : Option Kind :=
  match ws with
  | [] => none
  | w :: rest =>
    match kind? w, rest with
    | some .unary, [] => none
    | some .unary, [_] => some .unary
    | some .unary, next :: _ => if kind? next = some .binary then none else some .unary
    | some .opening, [] => none
    | k, _ => k

mutual

/-- Decides alternatives. -/
def either : (fuel : Nat) → Surroundings → List Text → Except Text (Bool × List Text)
  | 0, _, ws => .ok (false, ws)
  | fuel + 1, x, ws => do
    let (a, ws) ← both fuel x ws
    if first? ws.tail = some .or then
      let (b, ws) ← either fuel x (ws.drop 2)
      return (a || b, ws)
    else return (a, ws)

/-- Decides conditions that all have to hold. -/
def both : (fuel : Nat) → Surroundings → List Text → Except Text (Bool × List Text)
  | 0, _, ws => .ok (false, ws)
  | fuel + 1, x, ws => do
    let (a, ws) ← negated fuel x ws
    if first? ws.tail = some .and then
      let (b, ws) ← both fuel x (ws.drop 2)
      return (a && b, ws)
    else return (a, ws)

/-- Decides a condition behind exclamation marks. -/
def negated : (fuel : Nat) → Surroundings → List Text → Except Text (Bool × List Text)
  | 0, _, ws => .ok (false, ws)
  | fuel + 1, x, ws => do
    if first? ws = some .negation then
      let (a, rest) ← negated fuel x ws.tail
      return (!a, if ws.tail.isEmpty then ws else rest)
    else primary fuel x ws

/-- Decides one condition. -/
def primary : (fuel : Nat) → Surroundings → List Text → Except Text (Bool × List Text)
  | 0, _, ws => .ok (false, ws)
  | fuel + 1, x, ws => do
    match ws, first? ws with
    | [], _ => return (false, ws)
    | _ :: rest, some .opening =>
      if first? rest = some .closing then return (false, rest)
      let (a, rest) ← either fuel x rest
      if first? rest.tail = some .closing then return (a, rest.tail)
      else throw ("closing paren expected" : Text)
    | op :: rest, some .unary =>
      match rest with
      | [] => throw (op ++ ": argument expected")
      | w :: _ =>
        let test := (op[1]?).getD ' '
        if test = 'z' then return (w.isEmpty, rest)
        else if test = 'n' then return (!w.isEmpty, rest)
        else if test = 't' then
          let _ ← number w
          return (false, rest)
        else return (x.passes test w, rest)
    | a :: rest, _ =>
      match rest, first? rest with
      | op :: after, some .binary =>
        match after with
        | [] => throw (op ++ ": argument expected")
        | b :: _ => return (← compare x a op b, after)
      | _, _ => return (!a.isEmpty, ws)

end

/-- Decides the words of a condition, or says what is wrong with them. Up to four words go by their
number; of the exclamation marks before such words only one counts. -/
def decide : (fuel : Nat) → Surroundings → (turned : Bool) → List Text → Except Text Bool
  | 0, _, _, _ => .ok false
  | fuel + 1, x, turned, ws => do
    match ws with
    | [] => return turned
    | [a, op, b] =>
      if kind? op = some .binary then return (← compare x a op b) != turned
      else if a = ['('] && b = [')'] then general fuel x turned [op]
      else if a = ['!'] then decide fuel x true [op, b]
      else general fuel x turned ws
    | [a, b, c, d] =>
      if a = ['('] && d = [')'] then general fuel x turned [b, c]
      else if a = ['!'] then decide fuel x true [b, c, d]
      else general fuel x turned ws
    | _ => general fuel x turned ws
where
  general (fuel : Nat) (x : Surroundings) (turned : Bool) (ws : List Text) : Except Text Bool := do
    let (a, rest) ← either (4 * fuel + 8) x ws
    match rest with
    | w :: _ :: _ => throw ((if w.isEmpty then w else w ++ ": ") ++ "unexpected operator")
    | _ => return a != turned

end ClasspathProbe.Shell.Condition
