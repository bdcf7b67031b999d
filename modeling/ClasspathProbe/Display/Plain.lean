import ClasspathProbe.Display

/-!
# Display without colours

The items of a console as lines of plain text: tags are dropped, escapes are taken back, and the
cells of a row are set apart by tabs.
-/

namespace ClasspathProbe

namespace Markup

/-- Reads the rest of a markup text after some backslashes, of which each two stand for one. Inside
a tag, which is dropped, nothing is read. -/
def plainAfter : (backslashes : Nat) → (inTag : Bool) → Text → Text
  | k, _, [] => List.replicate k '\\'
  | k, true, c :: s => plainAfter k (c ≠ ']') s
  | k, false, c :: s =>
    if c = '\\' then plainAfter (k + 1) false s
    else if c = '[' && opensTag s then
      if k % 2 = 1 then List.replicate (k / 2) '\\' ++ c :: plainAfter 0 false s
      else List.replicate (k / 2) '\\' ++ plainAfter 0 true s
    else List.replicate k '\\' ++ c :: plainAfter 0 false s

def plain (s : Text) : Text := plainAfter 0 false s

end Markup

namespace Item

def lines : Item → List Text
  | .blank => [[]]
  | .panel title body _ => [Markup.plain title, Markup.plain body]
  | .table title columns rows =>
    let row (cells : List Text) : Text := Text.joined ['\t'] (cells.map Markup.plain)
    Markup.plain title :: row columns :: rows.map row
  | .text line => [Markup.plain line]

end Item

end ClasspathProbe
