import ClasspathProbe.FileTree
import ClasspathProbe.Text.Raw

/-!
# Program images

What starting a file means: it is a shell, or a script whose first line names its interpreter.
Names, arguments and contents are raw texts.
-/

namespace ClasspathProbe.Program

/-- Where the shell may be. -/
def shellPlaces : List Location :=
  [["bin", "sh"], ["usr", "bin", "sh"], ["bin", "dash"], ["usr", "bin", "dash"]]

/-- A program that has been found, ready to run. -/
inductive Image where
  /-- A shell that runs a script, with the letters of its options, a name and arguments. It is given
  the text of the script, or reads it. -/
  | shell (read : Bool) (flags script zero : Text) (arguments : List Text)
  /-- A shell that cannot start, and says so. -/
  | complaint (zero what : Text)
  /-- A shell that runs what it reads, from a file or else from its input. -/
  | reading (file : Option Text) (flags zero : Text) (arguments : List Text)

/-- The names of the options of a shell in the order in which they are listed, with their letters.
Two have no letter that can be asked for. -/
def namedFlags : List (String × Char) :=
  [("errexit", 'e'), ("noglob", 'f'), ("ignoreeof", 'I'), ("interactive", 'i'), ("monitor", 'm'),
    ("noexec", 'n'), ("stdin", 's'), ("xtrace", 'x'), ("verbose", 'v'), ("vi", 'V'),
    ("emacs", 'E'), ("noclobber", 'C'), ("allexport", 'a'), ("notify", 'b'), ("nounset", 'u'),
    ("privileged", 'p'), ("nolog", '\x01'), ("debug", '\x02')]

def isFlag (c : Char) : Bool := c.isAlpha && namedFlags.any (·.2 = c)

/-- The letter of an option that is given by its name. -/
def flagNamed? (name : Text) : Option Char :=
  (namedFlags.find? fun (long, _) => name = long.toList).map (·.2)

/-- Flags with one of them set or cleared. -/
def setFlag (flags : Text) (on : Bool) (c : Char) : Text :=
  let others := flags.filter (· ≠ c)
  if on then c :: others else others

/-- Flags with one of them set or cleared by its letter. One of the two editors excludes the
other. -/
def chooseFlag (flags : Text) (on : Bool) (c : Char) : Text :=
  let excluded := if c = 'V' then 'E' else if c = 'E' then 'V' else c
  setFlag (if on then flags.filter (· ≠ excluded) else flags) on c

/-- The list of all options: as they are, or as the commands that set them. -/
def listedFlags (asTheyAre : Bool) (flags : Text) : Text :=
  let line : String × Char → Text := fun (name, c) =>
    let on := flags.contains c
    if asTheyAre then
      name.toList ++ List.replicate (16 - name.length) ' ' ++ (if on then "on" else "off") ++ ['\n']
    else (if on then "set -o " else "set +o ") ++ name.toList ++ ['\n']
  (if asTheyAre then "Current option settings\n" else "") ++ namedFlags.flatMap line

/-- What the options at the start of some arguments say. -/
structure Choice where
  flags : Text
  /-- The arguments behind the options. -/
  rest : List Text
  /-- Whether the options end with two minus signs. -/
  closed : Bool := false
  /-- The lists of options that are asked for. -/
  shown : Text := []
  /-- What is wrong with an option; those before it count. -/
  fault : Option Text := none

/-- Reads the options at the start of some arguments, behind letters that are `left` to read and set
flags or clear them. They are those of a shell that is `starting`, or change the flags of a running
one. -/
def options (starting : Bool) : (flags : Text) → (on : Bool) → (left : Text) → List Text → Choice
  | flags, _, [], [] => { flags, rest := [] }
  | flags, _, [], arg :: rest =>
    match arg with
    | ['-'] =>
      let kept := flags.filter fun c => c ≠ 'x' && c ≠ 'v'
      { flags := if starting then flags else kept, rest }
    | ['-', '-'] => { flags, rest, closed := true }
    | '-' :: letters => options starting flags true letters rest
    | '+' :: letters => options starting flags false letters rest
    | _ => { flags, rest := arg :: rest }
  | flags, on, c :: letters, args =>
    if c = 'c' && starting then options starting (setFlag flags true c) on letters args
    else if c = 'l' && starting then options starting flags on letters args
    else if c = 'o' then
      match args with
      | [] =>
        let after := options starting flags on letters []
        { after with shown := listedFlags on flags ++ after.shown }
      | name :: rest =>
        match flagNamed? name with
        | some c => options starting (setFlag flags on c) on letters rest
        | none => { flags, rest, fault := some ("Illegal option -o " ++ name) }
    else if isFlag c then options starting (chooseFlag flags on c) on letters args
    else { flags, rest := args, fault := some ("Illegal option -" ++ [c]) }
termination_by _ _ left args => (args.length, left.length)

/-- What a shell does that is started under some name with some arguments: it runs the text behind
`-c`, or a file, or what it reads. -/
def shellImage (zero : Text) (arguments : List Text) : Image :=
  let choice := options true [] true [] arguments
  let flags := choice.flags
  let rest := choice.rest
  match choice.fault with
  | some what => .complaint zero what
  | none =>
    if flags.contains 'c' then
      match rest with
      | [] => .complaint zero "-c requires an argument"
      | script :: rest =>
        .shell false (setFlag flags false 'c') script (rest.head?.getD zero) rest.tail
    else if flags.contains 's' then .reading none flags zero rest
    else
      match rest with
      | [] => .reading none (setFlag flags true 's') zero []
      | file :: rest => .reading (some file) flags zero rest

/-- How many characters of a file are read to learn what starts it. -/
def headSize : Nat := 256

/-- Whether a character separates the words of a first line. -/
def isGap (c : Char) : Bool := c = ' ' || c = '\t'

/-- Whether a character ends the name of an interpreter. -/
def endsName (c : Char) : Bool := isGap c || c = '\x00'

/-- The first line of a script, without its mark and the gaps around it: what stands before the line
end in the head of the file. A shorter file is filled up with zeros; without a line end the whole
head is the line, unless the name in it may go on behind the head. -/
def firstLine? (content : Text) : Option Text := do
  let head := content.take headSize ++ List.replicate (headSize - content.length) '\x00'
  let body ← Text.after? "#!" head
  let line := body.takeWhile fun c => c ≠ '\n' && c ≠ '\x00'
  let isWhole := (body.drop line.length).head? = some '\n'
  if !isWhole then guard ((body.dropWhile isGap).any endsName)
  let line := if isWhole then line else body.dropLast
  let line := ((line.reverse.dropWhile isGap).reverse).dropWhile isGap
  guard (!line.isEmpty)
  return line

/-- The interpreter that a script names in its first line, and the argument for it. -/
def interpreter? (content : Text) : Option (Text × Option Text) := do
  let line ← firstLine? content
  let name := line.takeWhile fun c => !endsName c
  let behind := line.drop name.length
  let argument := (behind.dropWhile isGap).takeWhile (· ≠ '\x00')
  return (name, if behind.head?.any isGap then some argument else none)

/-- The program at a path, started with some words, interpreters followed. -/
def load (t : FileTree) (here : Location) :
    (fuel : Nat) → (name zero : Text) → (arguments : List Text) → Except Refusal Image
  | 0, _, _, _ => .error .tooManyLinks
  | fuel + 1, name, zero, arguments =>
    match t.look here (Raw.decode name) with
    | .error why => .error why
    | .ok (_, .directory _) | .ok (_, .link _) => .error .denied
    | .ok (place, .file f) =>
      if !f.executable then .error .denied
      else if shellPlaces.contains place then .ok (shellImage zero arguments)
      else
        match interpreter? (Raw.ofBytes f.bytes) with
        | none => .error .notAnExecutable
        | some ([], _) => .error .denied
        | some (interpreter, argument) =>
          load t here fuel interpreter interpreter (argument.toList ++ name :: arguments)

/-- How many interpreters are followed. -/
def mostInterpreters : Nat := 6

end ClasspathProbe.Program
