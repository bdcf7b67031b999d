import ClasspathProbe.Json

/-!
# Writing JSON

Documents as ASCII text: on one line, or with every item of a list and every member of an object on
a line of its own.
-/

namespace ClasspathProbe.Json

def escapedUnit (n : Nat) : Text := '\\' :: 'u' :: Text.hex 4 n

/-- A character inside a quoted text: quotes and backslashes after a backslash, the common control
characters by their letters, and everything outside ASCII by its 16-bit units. -/
def escaped (c : Char) : Text :=
  if c = '"' then "\\\""
  else if c = '\\' then "\\\\"
  else if c = '\n' then "\\n"
  else if c = '\r' then "\\r"
  else if c = '\t' then "\\t"
  else if c = '\x0c' then "\\f"
  else if c = '\x08' then "\\b"
  else if 0x20 ≤ c.toNat && c.toNat < 0x7f then [c]
  else if c.toNat < 0x10000 then escapedUnit c.toNat
  else
    let n := c.toNat - 0x10000
    escapedUnit (0xd800 + n / 0x400) ++ escapedUnit (0xdc00 + n % 0x400)

def writtenText (s : Text) : Text := '"' :: s.flatMap escaped ++ ['"']

/-- A floating point number; those that JSON has no form for are spelled as their names. -/
def writtenFloat (bits : UInt64) : Text :=
  if bits = Number.infinity then "Infinity"
  else if bits = Number.infinity ||| 0x8000000000000000 then "-Infinity"
  else if Number.classify bits = .notANumber then "NaN"
  else Number.shown bits

/-- How the parts of a list or an object are set apart. -/
structure Layout where
  /-- What stands before the first part, between two parts after the comma, and after the last
  part, at each depth. -/
  lineAt : Nat → Text
  /-- What stands between two parts on one line. -/
  gap : Text

def onOneLine : Layout := ⟨fun _ => [], " "⟩

/-- Every part on a line of its own, two columns further in than what it is part of. -/
def onLines : Layout := ⟨fun depth => '\n' :: List.replicate (2 * depth) ' ', []⟩

/-- Parts between an opening and a closing mark. -/
def bracketed (layout : Layout) (depth : Nat) (opening closing : Char) (parts : List Text) : Text :=
  if parts.isEmpty then [opening, closing]
  else
    opening :: layout.lineAt (depth + 1) ++
      Text.joined (',' :: layout.gap ++ layout.lineAt (depth + 1)) parts ++
      layout.lineAt depth ++ [closing]

mutual

/-- A document in a layout, at a depth. -/
def written (layout : Layout) (depth : Nat) : Json → Text
  | .null => "null"
  | .bool b => if b then "true" else "false"
  | .int n => Text.ofInt n
  | .float bits => writtenFloat bits
  | .text s => writtenText s
  | .list vs => bracketed layout depth '[' ']' (writtenItems layout (depth + 1) vs)
  | .object ms => bracketed layout depth '\x7b' '\x7d' (writtenMembers layout (depth + 1) ms)

def writtenItems (layout : Layout) (depth : Nat) : List Json → List Text
  | [] => []
  | v :: vs => written layout depth v :: writtenItems layout depth vs

def writtenMembers (layout : Layout) (depth : Nat) : List (Text × Json) → List Text
  | [] => []
  | (k, v) :: ms =>
    (writtenText k ++ ": " ++ written layout depth v) :: writtenMembers layout depth ms

end

def compact (v : Json) : Text := written onOneLine 0 v

/-- A document with its parts on lines of their own. -/
def indented (v : Json) : Text := written onLines 0 v

end ClasspathProbe.Json
