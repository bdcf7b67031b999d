import ClasspathProbe.Text

/-!
# What a build says on its error stream

A build that failed says so in a fixed sentence and may say where; a build that went through may
still have printed lines that speak of errors. Either is turned into warnings.
-/

namespace ClasspathProbe.BuildReport

def failedMarker : Text := "FAILURE: Build failed"

/-- What a line holds that speaks of an error. -/
def errorMarker : Text := "ERROR: "

/-- Whether the build failed. -/
def failed (errors : Text) : Bool := Text.occurs failedMarker errors

/-- Whether a character ends a line of the place where a build failed. -/
def isBreak (c : Char) : Bool := c = '\r' || c = '\n'

/-- Reads the heading of the place of a failure at the start of a text, and gives the line below
it when that starts with a visible character. -/
def placeAt? (s : Text) : Option Text := do
  let blanks ← Text.after? "*" s
  guard ((blanks.head?.map Text.isSpace).getD false)
  let breaks ← Text.after? "Where:" (Text.stripStart blanks)
  guard ((breaks.head?.map isBreak).getD false)
  let line := breaks.dropWhile isBreak
  guard ((line.head?.map fun c => !Text.isSpace c).getD false)
  return line.takeWhile (· ≠ '\n')

/-- The place of a failure: the line below the first heading for it. -/
def place? : Text → Option Text
  | [] => none
  | c :: s =>
    match placeAt? (c :: s) with
    | some line => some (Text.strip line)
    | none => place? s

/-- The warnings that an error stream gives rise to: for a failed build its place and the whole
stream, else each line that speaks of an error. -/
def warnings (errors : Text) : List Text :=
  if failed errors then
    let place : List Text :=
      match place? errors with
      | some line => ["Gradle task failed at " ++ line]
      | none => []
    place ++ ["Gradle task failed: " ++ errors]
  else
    ((Text.lines errors).filter (Text.occurs errorMarker)).map fun line => "Gradle error: " ++ line

end ClasspathProbe.BuildReport
