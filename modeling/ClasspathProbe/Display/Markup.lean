import ClasspathProbe.Text

/-!
# Markup

What is shown on a console is text with tags in square brackets. A text that is not meant as markup
is escaped first: a bracket that would open a tag gets a backslash in front of it.
-/

namespace ClasspathProbe.Markup

/-- Whether a tag can start with a character. -/
def startsTag (c : Char) : Bool := ('a' ≤ c && c ≤ 'z') || c = '#' || c = '/' || c = '@'

/-- Whether a closing bracket comes before any other opening one. -/
def closes : Text → Bool
  | [] => false
  | c :: s => c = ']' || (c ≠ '[' && closes s)

/-- Whether what stands behind an opening bracket makes a tag of it. -/
def opensTag : Text → Bool
  | [] => false
  | c :: s => startsTag c && closes s

/-- Escapes the rest of a text after some backslashes that are not written yet: those in front of a
tag are doubled, and one more takes the tag its meaning. -/
def escapedAfter : (backslashes : Nat) → Text → Text
  | k, [] => List.replicate k '\\'
  | k, c :: s =>
    if c = '\\' then escapedAfter (k + 1) s
    else if c = '[' && opensTag s then
      List.replicate (2 * k + 1) '\\' ++ c :: escapedAfter 0 s
    else List.replicate k '\\' ++ c :: escapedAfter 0 s

/-- A text so that no part of it is markup; a single backslash at its end, which would escape what
is put behind it, is doubled. -/
def escaped (s : Text) : Text :=
  let t := escapedAfter 0 s
  if Text.endsWith "\\" t && !Text.endsWith "\\\\" t then t ++ ['\\'] else t

def bold (s : Text) : Text := "[bold]" ++ escaped s ++ "[/]"

end ClasspathProbe.Markup
