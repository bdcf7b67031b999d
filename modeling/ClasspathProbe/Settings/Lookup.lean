import ClasspathProbe.Failure

/-!
# How settings are looked for

The values of the fields of a section can come with values under names that start with `_`, which
no field has. They tell how the fields without a value are looked for: how their variables are
called, which environment files there are and how they are written, and what an empty text or a
certain word in a variable stands for.
-/

namespace ClasspathProbe

def usualEnvFile : Path := .ofText ".env"

/-- How the fields of a section are looked for outside a program. -/
structure Lookup where
  /-- What the names of the section's variables start with. -/
  start : Text
  /-- The environment files, of which a later one counts more than an earlier one. -/
  files : List Path := [usualEnvFile]
  /-- How the environment files are written. -/
  encoding : Except Failure Encoding := .ok .utf8
  /-- Whether names count only as they are spelled, and not in any case. -/
  isExact : Bool := false
  /-- Whether a variable with an empty text is as if it was not there. -/
  skipsEmpty : Bool := false
  /-- The text that stands for null. -/
  nullWord : Option Text := none

namespace Lookup

/-- A name in the form in which names are compared. -/
def form (x : Lookup) (name : Text) : Text := if x.isExact then name else Text.asciiLower name

/-- The value stored under a name, the last of several. -/
def last? {α : Type} (x : Lookup) (name : Text) (pairs : List (Text × α)) : Option α :=
  (pairs.reverse.find? fun p => x.form p.1 = x.form name).map (·.2)

/-- The value that the text of a variable stands for. -/
def valueOf (x : Lookup) (s : Text) : Value := if x.nullWord = some s then .null else .text s

/-- The value given under the name of a field: spelled so, or else the first in another case. -/
def given? (x : Lookup) (fields : Fields) (name : Text) : Option Value :=
  match fields.lookup name with
  | some v => some v
  | none => (fields.find? fun p => x.form p.1 = name).map (·.2)

def path : Value → Except Failure Path
  | .text s => .ok (.ofText s)
  | v => .error (.pathKind v.kindName)

/-- The paths that a value holds: one, or each in a collection, or none. -/
def paths : Value → Except Failure (List Path)
  | .null => .ok []
  | .text s => .ok [.ofText s]
  | .list vs | .set vs => vs.mapM path
  | .pair v w => [v, w].mapM path
  | .mapping ps => ps.mapM fun p => path p.1
  | .bytes bs => bs.mapM fun b => path (.int b.toNat)
  | v => .error (.pathsKind v.kindName)

/-- The encoding that a value names; one that says nothing leaves the common one. It is needed only
when there is a file to read. -/
def encodingFrom (v : Value) : Except Failure Encoding :=
  if !v.saysSomething then .ok .utf8
  else
    match v with
    | .text s => (Encoding.named? s).elim (.error (.encodingName s)) .ok
    | v => .error (.encodingKind v.kindName)

/-- How a section is looked for whose first field and the usual start of whose variables are given,
as the values beside those of its fields tell. -/
def ofFields (start firstField : Text) (fields : Fields) : Except Failure Lookup := do
  let usual : Lookup := { start }
  let told? (name : Text) : Option Value := fields.lookup name
  let told (name : Text) : Value := (told? name).getD .null
  let files ← ((told? "_env_file").map paths).getD (.ok usual.files)
  let start ←
    match told "_env_prefix" with
    | .null => .ok start
    | .text s => .ok s
    | _ => .error (.variableName firstField)
  let nullWord :=
    match told "_env_parse_none_str" with
    | .text s => some s
    | _ => none
  return {
    start, files, nullWord
    encoding := encodingFrom (told "_env_file_encoding")
    isExact := (told "_case_sensitive").saysSomething
    skipsEmpty := (told "_env_ignore_empty").saysSomething }

end Lookup

end ClasspathProbe
