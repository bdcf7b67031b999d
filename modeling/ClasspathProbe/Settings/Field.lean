import ClasspathProbe.Failure
import ClasspathProbe.Settings
import ClasspathProbe.Text
import ClasspathProbe.Text.Uppercase

/-!
# Fields of settings

How a value of a document, an argument or a variable becomes the value of a setting. A value that
does not fit is a complaint about its field; a few kinds of values break the reading off at once.
-/

namespace ClasspathProbe

namespace Value

/-- The least number that has more digits than are written. -/
def longInteger : Nat := Nat.pow 10 Number.maxDigits

mutual

/-- Whether the text for a value would have to hold an integer with more digits than are written. -/
def isTooLong : Value → Bool
  | .int n => longInteger ≤ n.natAbs
  | .list vs | .set vs => isAnyTooLong vs
  | .pair k v => isTooLong k || isTooLong v
  | .mapping ps => isAnyPairTooLong ps
  | _ => false

def isAnyTooLong : List Value → Bool
  | [] => false
  | v :: vs => isTooLong v || isAnyTooLong vs

def isAnyPairTooLong : List (Value × Value) → Bool
  | [] => false
  | (k, v) :: ps => isTooLong k || isTooLong v || isAnyPairTooLong ps

end

end Value

/-- Reads the value of a field, complains about it, or breaks off. -/
abbrev Reading (α : Type) := Value → Except Failure (Except Complaint α)

namespace Reading

/-- The name of an executable: the value as text without outer blanks, which must leave
something. A value that is too long has no text. -/
def executable : Reading Text := fun v =>
  if v.isTooLong then .ok (.error .longInteger)
  else if !v.saysSomething || v.toText.isBlank then .ok (.error .emptyName)
  else .ok (.ok v.toText.strip)

/-- A text; bytes are read as UTF-8. -/
def text : Reading Text
  | .text s => .ok (.ok s)
  | .bytes bs =>
    match Utf8.decodeStrict bs with
    | .ok s => .ok (.ok s)
    | .error _ => .ok (.error .undecodableText)
  | _ => .ok (.error .notText)

/-- The names of levels that can be set. -/
def levels : List Text := ["DEBUG", "INFO", "WARNING", "ERROR", "CRITICAL"]

/-- The name of a level in any case, in capitals. -/
def level : Reading Text
  | .text s =>
    let capitals := Text.upper s
    if levels.contains capitals then .ok (.ok capitals) else .ok (.error (.unknownLevel s))
  | .bytes bs => .ok (.error (.unknownLevel (Text.quotedBytes bs)))
  | v => .error (.levelKind v.kindName)

/-- The path of a file, or none for null and the empty text. -/
def file : Reading (Option Path)
  | .null | .text [] => .ok (.ok none)
  | .text s => .ok (.ok (some (.ofText s)))
  | v => .error (.pathKind v.kindName)

/-- The truth value that a word stands for, in any case. -/
def truthWord (s : Text) : Except Complaint Bool :=
  let word := Text.asciiLower s
  let yes : List Text := ["1", "true", "t", "yes", "y", "on"]
  let no : List Text := ["0", "false", "f", "no", "n", "off"]
  if yes.contains word then .ok true
  else if no.contains word then .ok false
  else .error .unreadableTruthValue

/-- The truth value that a number stands for. -/
def truthNumber (n : Int) : Except Complaint Bool :=
  if n = 0 then .ok false else if n = 1 then .ok true else .error .unreadableTruthValue

/-- The least whole number that is too great to be taken for a truth value at all. -/
def numberBound : Int := Int.pow 2 63

/-- A truth value: as such, as a word, or as one of the numbers zero and one. Of numbers with a
fraction those that are whole will do. -/
def truth : Reading Bool
  | .bool b => .ok (.ok b)
  | .text s => .ok (truthWord s)
  | .bytes bs =>
    match Utf8.decodeStrict bs with
    | .ok s => .ok (truthWord s)
    | .error _ => .ok (.error .unreadableTruthValue)
  | .int n =>
    .ok (if -numberBound ≤ n && n < numberBound then truthNumber n else .error .notTruthValue)
  | .float bits =>
    match Number.whole? bits with
    | some n =>
      .ok (if -numberBound < n && n < numberBound then truthNumber n else .error .notTruthValue)
    | none => .ok (.error .notTruthValue)
  | _ => .ok (.error .notTruthValue)

end Reading

/-- What reading the fields of a section has come to: what is wrong so far. -/
abbrev Issues := StateT (List Issue) (Except Failure)

namespace Issues

/-- Reads a field from the value it was given, or leaves the default; a complaint is noted. -/
def field {α : Type} (name : Text) (reading : Reading α) (default : α) (value? : Option Value) :
    Issues α := do
  match value? with
  | none => return default
  | some v =>
    match ← reading v with
    | .ok a => return a
    | .error complaint =>
      modify (· ++ [⟨[name], complaint⟩])
      return default

/-- What was read, unless something was wrong. -/
def finish {α : Type} (x : Issues α) : Except Failure α := do
  match ← x.run [] with
  | (a, []) => return a
  | (_, issues) => throw (.invalid issues)

end Issues

namespace LoggingSettings

/-- What the names of its variables start with. -/
def variableStart : Text := "CLASSPATH_LOGGING_"

def fieldNames : List Text := ["level", "format", "file", "use_rich"]

/-- The settings that given values make; a field without a value has its default. -/
def ofValues (given : Text → Option Value) : Except Failure LoggingSettings :=
  let standard : LoggingSettings := {}
  Issues.finish do
    let level ← Issues.field "level" Reading.level standard.level (given "level")
    let format ← Issues.field "format" Reading.text standard.format (given "format")
    let file ← Issues.field "file" Reading.file standard.file (given "file")
    let useRich ← Issues.field "use_rich" Reading.truth standard.useRich (given "use_rich")
    return { level, format, file, useRich }

end LoggingSettings

namespace GradleSettings

/-- What the names of its variables start with. -/
def variableStart : Text := "CLASSPATH_GRADLE_"

def fieldNames : List Text :=
  ["command", "wrapper", "windows_wrapper", "console_flag", "temp_prefix", "temp_suffix"]

/-- The settings that given values make; a field without a value has its default. -/
def ofValues (given : Text → Option Value) : Except Failure GradleSettings :=
  let standard : GradleSettings := {}
  Issues.finish do
    let command ← Issues.field "command" Reading.executable standard.command (given "command")
    let wrapper ← Issues.field "wrapper" Reading.executable standard.wrapper (given "wrapper")
    let windowsWrapper ←
      Issues.field "windows_wrapper" Reading.executable standard.windowsWrapper
        (given "windows_wrapper")
    let consoleFlag ←
      Issues.field "console_flag" Reading.text standard.consoleFlag (given "console_flag")
    let tempPrefix ←
      Issues.field "temp_prefix" Reading.text standard.tempPrefix (given "temp_prefix")
    let tempSuffix ←
      Issues.field "temp_suffix" Reading.text standard.tempSuffix (given "temp_suffix")
    return { command, wrapper, windowsWrapper, consoleFlag, tempPrefix, tempSuffix }

end GradleSettings

end ClasspathProbe
