import ClasspathProbe.Text
import ClasspathProbe.Text.Utf8

/-!
# Encodings

The ways in which the bytes of a text file stand for characters that can be asked for by name. In
Latin-1 each byte is the character with its number; ASCII is the lower half of that, and so is what
all of them agree on.
-/

namespace ClasspathProbe

/-- How bytes stand for characters. -/
inductive Encoding where
  | utf8
  /-- UTF-8 with a mark at its start, which is no part of the text. -/
  | markedUtf8
  | latin1
  | ascii
deriving DecidableEq, Repr

namespace Encoding

/-- Where bytes are no text: what UTF-8 says about them, or the first byte outside ASCII and its
place. -/
inductive Fault where
  | utf8 (fault : Utf8.Fault)
  | ascii (byte : UInt8) (place : Nat)
deriving DecidableEq, Repr

/-- The names of encodings, with their parts joined. -/
def names : List (Encoding × List Text) :=
  [(.utf8, ["utf_8", "utf8", "u8", "utf", "cp65001"]),
    (.markedUtf8, ["utf_8_sig"]),
    (.latin1, ["latin_1", "latin1", "latin", "l1", "iso8859_1", "iso_8859_1", "iso8859", "8859",
      "cp819", "ibm819"]),
    (.ascii, ["ascii", "us_ascii", "us", "646", "iso646_us", "cp367", "ibm367"])]

/-- A name in small letters, with one joint for whatever stands between its parts. -/
def joinedName (name : Text) : Text :=
  let plain := (Text.asciiLower name).map fun c => if c.isAlphanum || c = '.' then c else ' '
  Text.joined "_" ((Text.pieces ' ' plain).filter (!·.isEmpty))

/-- The encoding that goes by a name, however its parts are joined. -/
def named? (name : Text) : Option Encoding :=
  (names.find? fun p => p.2.contains (joinedName name)).map (·.1)

/-- The bytes of the mark that says that a file is in UTF-8. -/
def mark : List UInt8 := [0xef, 0xbb, 0xbf]

/-- The text of some bytes, or why they are none. -/
def decode : Encoding → List UInt8 → Except Fault Text
  | .utf8, bs => (Utf8.decodeStrict bs).mapError .utf8
  | .markedUtf8, bs =>
    let rest := if mark.isPrefixOf bs then bs.drop mark.length else bs
    (Utf8.decodeStrict rest).mapError .utf8
  | .latin1, bs => .ok (bs.map fun b => Char.ofNat b.toNat)
  | .ascii, bs =>
    match bs.find? (128 ≤ ·) with
    | some b => .error (.ascii b (bs.idxOf b))
    | none => .ok (bs.map fun b => Char.ofNat b.toNat)

def Fault.message : Fault → Text
  | .utf8 fault => fault.message
  | .ascii byte place =>
    "'ascii' codec can't decode byte 0x" ++ Text.hex 2 byte.toNat ++ " in position " ++
      Text.ofNat place ++ ": ordinal not in range(128)"

end Encoding

end ClasspathProbe
