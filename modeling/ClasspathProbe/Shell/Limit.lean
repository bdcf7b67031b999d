import ClasspathProbe.Shell.Argument

/-!
# Limits

What a shell lets the programs that it starts do: the permissions that new files get, and how much
of something a process may use up. Permissions are three groups of three bits, for the owner, the
group and all others.
-/

namespace ClasspathProbe.Shell

namespace Permissions

def all : Nat := 0o777

/-- The permissions that a mask takes away, or the mask that takes away permissions. -/
def masked (bits : Nat) : Nat := all ^^^ (bits &&& all)

/-- A change of permissions while it is read: whose they are, what is done with them and which they
are, and the permissions as changed so far. -/
structure Change where
  whose : Nat := 0
  action : Option Char := none
  which : Nat := 0
  bits : Nat

/-- The change with its action carried out, for all where nobody is named. -/
def Change.done (c : Change) : Change :=
  let whose := if c.whose = 0 then 0o111 else c.whose
  let which := (c.which &&& 7) * whose
  match c.action with
  | none => c
  | some '-' => { c with whose, bits := c.bits &&& masked which }
  | some '=' => { c with whose, bits := which ||| (c.bits &&& masked (whose * 7)) }
  | some _ => { c with whose, bits := c.bits ||| which }

/-- Whom a letter names. -/
def whose? : Char → Option Nat
  | 'u' => some 0o100
  | 'g' => some 0o010
  | 'o' => some 0o001
  | 'a' => some 0o111
  | _ => none

/-- The permissions that a letter names, where there are some already. -/
def which? (before : Nat) : Char → Option Nat
  | 'r' => some 4
  | 'w' => some 2
  | 'x' => some 1
  | 'X' => some (if before &&& 0o111 = 0 then 0 else 1)
  | 's' => some 0
  | 'u' => some (before >>> 6)
  | 'g' => some (before >>> 3)
  | 'o' => some before
  | _ => none

/-- Reads a change of permissions: clauses with commas between them, each with letters for whom it
is, and actions with letters for permissions. -/
def change? (before : Nat) (c : Change) : Text → Option Nat
  | [] => some c.done.bits
  | letter :: rest =>
    if ("+-=" : Text).contains letter then
      change? before { c.done with action := some letter, which := 0 } rest
    else if c.action.isNone then
      match whose? letter with
      | some whose => change? before { c with whose := c.whose ||| whose } rest
      | none => none
    else if letter = ',' then change? before { bits := c.done.bits } rest
    else
      match which? before letter with
      | some which => change? before { c with which := c.which ||| which } rest
      | none => none

def shown (bits : Nat) : Text :=
  let letters (bits : Nat) : Text :=
    [('r', 4), ('w', 2), ('x', 1)].filterMap fun (letter, bit) =>
      if bits &&& bit = 0 then none else some letter
  "u=" ++ letters (bits >>> 6) ++ ",g=" ++ letters (bits >>> 3) ++ ",o=" ++ letters bits

end Permissions

/-- Something that a process may only use up so much of: its letter, its name, the size of the
pieces in which it is counted, and how many bytes or seconds there are of it before anything is
said. -/
structure Resource where
  letter : Char
  name : String
  piece : Nat := 1
  start : Option Nat := none

namespace Resource

def all : List Resource :=
  [⟨'t', "time(seconds)", 1, none⟩, ⟨'f', "file(blocks)", 512, none⟩,
    ⟨'d', "data(kbytes)", 1024, none⟩, ⟨'s', "stack(kbytes)", 1024, some 8388608⟩,
    ⟨'c', "coredump(blocks)", 512, some 0⟩, ⟨'m', "memory(kbytes)", 1024, none⟩,
    ⟨'l', "locked memory(kbytes)", 1024, some 8388608⟩, ⟨'p', "process", 1, none⟩,
    ⟨'n', "nofiles", 1, some 1048576⟩, ⟨'v', "vmemory(kbytes)", 1024, none⟩,
    ⟨'w', "locks", 1, none⟩, ⟨'r', "rtprio", 1, some 0⟩]

/-- The limit of a resource as it is shown. -/
def shownLimit (r : Resource) : Option Nat → Text
  | some n => Text.ofNat (n / r.piece)
  | none => "unlimited"

end Resource

namespace Running

/-- Shows or changes the permissions that new files do not get. -/
def changeMask (args : List Text) : Running Unit := do
  let (chosen, args) ← takeOptions "S" args
  give 0
  let mask := (← get).mask
  let bits := Permissions.masked mask
  match args with
  | [] =>
    let octal := Text.padStart '0' 4 (Nat.toDigits 8 mask)
    print ((if chosen.isEmpty then octal else Permissions.shown bits) ++ ['\n'])
  | arg :: _ =>
    let isOctal (c : Char) : Bool := c.isDigit && c.toNat < '8'.toNat
    if arg.head?.any Char.isDigit then
      if !arg.all isOctal then fail ("Illegal number: " ++ arg)
      let mask := arg.foldl (fun n c => (8 * n + (c.toNat - '0'.toNat)) &&& Permissions.all) 0
      modify fun st => { st with mask }
    else
      match Permissions.change? bits { bits } arg with
      | some bits => modify fun st => { st with mask := Permissions.masked bits }
      | none => fail ("Illegal mode: " ++ arg)

/-- Shows or changes limits. Each has two values: the one that counts, and the one up to which that
can be raised. -/
def changeLimit (args : List Text) : Running Unit := do
  let letters := Resource.all.map (·.letter)
  let (chosen, args) ← takeOptions ("HSa" ++ letters) args
  give 0
  let has (c : Char) : Bool := chosen.any (·.1 = c)
  let onlyHard : Bool := (chosen.filter fun o => o.1 = 'H' || o.1 = 'S').getLast?.any (·.1 = 'H')
  let onlySoft : Bool := (chosen.filter fun o => o.1 = 'H' || o.1 = 'S').getLast?.any (·.1 = 'S')
  let limits := (← get).limits
  let current (r : Resource) : Option Nat × Option Nat :=
    (limits.lookup r.letter).getD (r.start, r.start)
  let shown (r : Resource) : Text :=
    r.shownLimit (if onlyHard then (current r).2 else (current r).1)
  let letter := ((chosen.map (·.1)).filter letters.contains).getLast?.getD 'f'
  let some r := Resource.all.find? (·.letter = letter) | return
  match args with
  | [] =>
    if has 'a' then
      for r in Resource.all do
        let gap := List.replicate (20 - r.name.length) ' '
        print (r.name.toList ++ gap ++ ' ' :: shown r ++ ['\n'])
    else print (shown r ++ ['\n'])
  | arg :: rest =>
    if has 'a' || !rest.isEmpty then fail "too many arguments"
    let value ←
      if arg = "unlimited".toList then pure none
      else if arg.all Char.isDigit then pure (some (ofDigits arg * r.piece))
      else fail "bad number"
    let soft := if onlyHard then (current r).1 else value
    let hard := if onlySoft then (current r).2 else value
    let fits : Bool :=
      match soft, hard with
      | _, none => true
      | none, some _ => false
      | some m, some n => m ≤ n
    if !fits then fail "error setting limit: Invalid argument"
    let others := limits.filter (·.1 ≠ letter)
    modify fun st => { st with limits := (letter, soft, hard) :: others }

end Running

end ClasspathProbe.Shell
