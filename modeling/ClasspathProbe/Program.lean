import ClasspathProbe.Machine
import ClasspathProbe.Shell.Run

/-!
# Processes

Starting a program in a directory and reading what it writes. Its exit status does not matter, and
its output is read as UTF-8 with replacement characters. This is the machine at hand; resolution
itself rests on none of it.
-/

namespace ClasspathProbe

namespace Program

/-- Loads the first of some candidates that can be loaded. Of the refusals the first counts that
says more than that there is no such file, else the last. -/
def loadFirst (w : World) (here : Location) (zero : Text) (arguments : List Text) :
    (candidates : List Text) → (seen : Option Refusal) → Except Refusal Image
  | [], seen => .error (seen.getD .noSuchFile)
  | name :: rest, seen =>
    match load w.tree here mostInterpreters name zero arguments with
    | .ok image => .ok image
    | .error why =>
      let telling (r : Refusal) : Bool := r ≠ .noSuchFile && r ≠ .notADirectory
      loadFirst w here zero arguments rest (if seen.any telling then seen else some why)

/-- Runs a command in a directory and reads its output and its errors. -/
def run (w : World) (command : List Text) (directory : Path) : Except Failure (Text × Text) := do
  let zero :: _ := command | throw .emptyCommand
  if command.any (·.contains '\x00') || directory.toText.contains '\x00' then throw .embeddedNul
  let here ←
    match w.tree.look w.here directory.toText with
    | .ok (place, .directory _) => .ok place
    | .ok _ => .error (.system (.refused .notADirectory (.directory directory)))
    | .error why => .error (.system (.refused why (.directory directory)))
  let path := (w.variableText? "PATH").getD standardPath
  let raw := command.map Raw.encode
  let found := loadFirst w here (raw.head?.getD []) raw.tail
    ((candidates path zero).map Raw.encode) none
  match found with
  | .error why => throw (.refused why zero)
  | .ok image =>
    let environment := w.environment.map fun (name, value) => (Raw.encode name, Raw.encode value)
    let (output, errors) := Shell.streams w.tree here environment image
    return (Raw.decode output, Raw.decode errors)

end Program

/-- The machine at hand: not Windows, with the search path of the environment, and with processes
that really run. -/
def Machine.standard : Machine where
  isWindows := false
  which := Program.find?
  run := Program.run

end ClasspathProbe
