import ClasspathProbe.FileTree
import ClasspathProbe.Shell.Command
import ClasspathProbe.Text.Raw

/-!
# Where streams lead

Streams are numbered. One may lead to the output or the errors of the whole program, to a text that
is read or captured, to a device, or to a file that was opened. Streams that lead to one opened file
share the position in it, and what one of them writes another one reads.
-/

namespace ClasspathProbe.Shell

/-- Where a stream leads. -/
inductive Channel where
  | output
  | errors
  /-- One of the captures that are open, counted from the outermost. -/
  | capture (level : Nat)
  /-- One of the texts that are read. -/
  | input (number : Nat)
  /-- One of the files that have been opened. -/
  | opened (number : Nat)
  | nowhere
  /-- A device that takes nothing. -/
  | full
deriving DecidableEq

namespace Channel

def named? (path : Text) : Option Nat :=
  if path = "/dev/stdin".toList then some 0
  else if path = "/dev/stdout".toList then some 1
  else if path = "/dev/stderr".toList then some 2
  else
    match (Text.after? "/dev/fd/" path).or (Text.after? "/proc/self/fd/" path) with
    | some digits =>
      if digits.all Char.isDigit && Text.ofNat (ofDigits digits) = digits then
        some (ofDigits digits)
      else none
    | none => none

end Channel

/-- A file that was opened: where it is, how it was opened, and how many bytes come before what is
read or written next. -/
structure OpenFile where
  place : Location
  opening : Opening
  position : Nat := 0

namespace OpenFile

/-- Whether the file was opened to be read. -/
def reads (o : OpenFile) : Bool := o.opening = .read || o.opening = .readWrite

/-- What can still be read, where the file has some bytes. -/
def unread (o : OpenFile) (bytes : List UInt8) : List UInt8 :=
  if o.reads then bytes.drop o.position else []

/-- What the bytes of the file are after some were written, and how many of them come before the
next ones. Bytes between the end and the position are zero. -/
def written (o : OpenFile) (bytes new : List UInt8) : List UInt8 × Nat :=
  let start := if o.opening = .append then bytes.length else o.position
  let gap := List.replicate (start - bytes.length) 0
  let finish := start + new.length
  (bytes.take start ++ gap ++ new ++ bytes.drop finish, finish)

end OpenFile

end ClasspathProbe.Shell
