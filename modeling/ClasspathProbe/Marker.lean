import ClasspathProbe.Artifact
import ClasspathProbe.Text.Pattern

/-!
# Marker lines

A probe script prints one line for each artifact: a marker, the path of the compiled artifact, and
for artifacts with sources a bar and the path of the sources. Such lines are found anywhere in the
output of a build, whatever stands before the marker on its line; a line counts only when its end
has been printed. Lines end with a line feed, with or without a carriage return before it.
-/

namespace ClasspathProbe.Marker

def plainMarker : Text := "kotlin-lsp-gradle "

def pairedMarker : Text := "kotlin-lsp-gradle-src "

/-- Whether a character can stand in a marked path. -/
def inLine (c : Char) : Bool := c ≠ '\r' && c ≠ '\n'

/-- The end of a line: a line feed, with or without a carriage return before it. -/
def lineEnd : Text.Pattern := [.maybe '\r', .word ['\n']]

/-- A plain marker line from its marker on. -/
def plainPattern : Text.Pattern := .word plainMarker :: .run inLine :: lineEnd

/-- A marker line with sources from its marker on. -/
def pairedPattern : Text.Pattern :=
  .word pairedMarker :: .run inLine :: .word ['|'] :: .run inLine :: lineEnd

/-- The compiled paths of the plain marker lines of an output, blank ones left out. -/
def plainPaths (output : Text) : List Text :=
  ((plainPattern.findAll 0 output).filterMap fun
    | [c] => some c
    | _ => none).filter fun c => !c.isBlank

/-- The paths of the marker lines with sources of an output, blank compiled ones left out. -/
def pairedPaths (output : Text) : List (Text × Text) :=
  ((pairedPattern.findAll 0 output).filterMap fun
    | [c, s] => some (c, s)
    | _ => none).filter fun p => !p.1.isBlank

/-- The artifacts that an output reports, without repetition. -/
def parse (output : Text) : Except Failure (List Artifact) := do
  let plain ← (plainPaths output).mapM fun c => Artifact.of (.ofText c) none
  let paired ← (pairedPaths output).mapM fun p => Artifact.of (.ofText p.1) (some (.ofText p.2))
  return (plain ++ paired).eraseDups

/-- The line that a probe prints for an artifact, without its end. -/
def line (compiled : Text) : (sources : Option Text) → Text
  | none => plainMarker ++ compiled
  | some s => pairedMarker ++ compiled ++ '|' :: s

end ClasspathProbe.Marker
