import ClasspathProbe.Text

/-!
# UTF-8

Bytes to text and back. The decoder is a machine that takes one byte at a time (`Pending.step`);
two readings of it are used. `decode` never fails: each longest piece of an ill-formed sequence
becomes one U+FFFD. `decodeStrict` stops at the first ill-formed sequence and says where it lies.
A byte below 0x80 always stands for its own character, so what comes before it and what comes after
it are decoded independently.
-/

namespace ClasspathProbe.Utf8

/-- A character that has begun: the bits read so far, how many bytes it still owes, and the bounds
of the next one. -/
structure Pending where
  bits : Nat
  owed : Nat
  low : Nat
  high : Nat
deriving DecidableEq, Repr

/-- What the first byte of a character says. -/
inductive Lead where
  /-- The byte is a character. -/
  | whole (c : Char)
  /-- The byte begins a character. -/
  | opens (p : Pending)
  /-- No character begins so. -/
  | wrong
deriving DecidableEq, Repr

/-- Reads the first byte of a character. Overlong forms, surrogates and numbers above U+10FFFF are
ruled out by the bounds put on the second byte. -/
def lead (b : UInt8) : Lead :=
  let n := b.toNat
  if n < 0x80 then .whole (Char.ofNat n)
  else if n < 0xc2 then .wrong
  else if n < 0xe0 then .opens ⟨n - 0xc0, 1, 0x80, 0xbf⟩
  else if n = 0xe0 then .opens ⟨0, 2, 0xa0, 0xbf⟩
  else if n = 0xed then .opens ⟨0xd, 2, 0x80, 0x9f⟩
  else if n < 0xf0 then .opens ⟨n - 0xe0, 2, 0x80, 0xbf⟩
  else if n = 0xf0 then .opens ⟨0, 3, 0x90, 0xbf⟩
  else if n < 0xf4 then .opens ⟨n - 0xf0, 3, 0x80, 0xbf⟩
  else if n = 0xf4 then .opens ⟨4, 3, 0x80, 0x8f⟩
  else .wrong

/-- Reads a later byte of a character: nothing when it cannot continue it, else what is still
pending. -/
def Pending.step (p : Pending) (b : UInt8) : Option Lead :=
  let n := b.toNat
  if p.low ≤ n ∧ n ≤ p.high then
    let bits := p.bits * 64 + n % 64
    if p.owed ≤ 1 then some (.whole (Char.ofNat bits))
    else some (.opens ⟨bits, p.owed - 1, 0x80, 0xbf⟩)
  else none

/-- The character that stands for an ill-formed sequence. -/
def replacement : Char := '\uFFFD'

/-- Decodes the bytes after a character that may have begun. -/
def decodeFrom : Option Pending → List UInt8 → Text
  | none, [] => []
  | some _, [] => [replacement]
  | none, b :: bs =>
    match lead b with
    | .whole c => c :: decodeFrom none bs
    | .opens p => decodeFrom (some p) bs
    | .wrong => replacement :: decodeFrom none bs
  | some p, b :: bs =>
    match p.step b with
    | some (.whole c) => c :: decodeFrom none bs
    | some (.opens q) => decodeFrom (some q) bs
    | some .wrong | none =>
      match lead b with
      | .whole c => replacement :: c :: decodeFrom none bs
      | .opens q => replacement :: decodeFrom (some q) bs
      | .wrong => replacement :: replacement :: decodeFrom none bs

/-- The text of some bytes, with U+FFFD for what is not UTF-8. -/
def decode (bytes : List UInt8) : Text := decodeFrom none bytes

/-- Why a sequence is ill-formed. -/
inductive Reason where
  | start
  | continuation
  | endOfData
deriving DecidableEq, Repr

/-- The first ill-formed sequence: where it starts and stops, its first byte, and what is wrong. -/
structure Fault where
  start : Nat
  stop : Nat
  byte : UInt8
  reason : Reason
deriving DecidableEq, Repr

/-- Decodes the bytes at `pos`, after a character that may have begun at an earlier position with a
byte of its own. -/
def decodeStrictFrom (pos : Nat) : Option (Nat × UInt8 × Pending) → List UInt8 → Except Fault Text
  | none, [] => .ok []
  | some (start, byte, _), [] => .error ⟨start, pos, byte, .endOfData⟩
  | none, b :: bs =>
    match lead b with
    | .whole c => (c :: ·) <$> decodeStrictFrom (pos + 1) none bs
    | .opens p => decodeStrictFrom (pos + 1) (some (pos, b, p)) bs
    | .wrong => .error ⟨pos, pos + 1, b, .start⟩
  | some (start, byte, p), b :: bs =>
    match p.step b with
    | some (.whole c) => (c :: ·) <$> decodeStrictFrom (pos + 1) none bs
    | some (.opens q) => decodeStrictFrom (pos + 1) (some (start, byte, q)) bs
    | some .wrong | none => .error ⟨start, pos, byte, .continuation⟩

/-- The text of some bytes, or the first place where they are not UTF-8. -/
def decodeStrict (bytes : List UInt8) : Except Fault Text := decodeStrictFrom 0 none bytes

/-- How many bytes a text file is read at a time when it is read bit by bit. -/
def chunkSize : Nat := 8192

/-- A fault as seen by a reader that takes the bytes in chunks: positions count from the start of
the data at hand, which is the chunk with the byte that gave the fault away, after what earlier
chunks had left of the character. -/
def Fault.inChunk (f : Fault) : Fault :=
  let base :=
    match f.reason with
    | .endOfData => f.start
    | _ =>
      let seen := if f.reason = .start then f.start else f.stop
      let chunk := seen / chunkSize * chunkSize
      if f.start < chunk then f.start else chunk
  { f with start := f.start - base, stop := f.stop - base }

def Fault.message (f : Fault) : Text :=
  let place : Text :=
    if f.stop = f.start + 1 then
      "byte 0x" ++ Text.hex 2 f.byte.toNat ++ " in position " ++ Text.ofNat f.start
    else "bytes in position " ++ Text.ofNat f.start ++ "-" ++ Text.ofNat (f.stop - 1)
  let reason : Text :=
    match f.reason with
    | .start => "invalid start byte"
    | .continuation => "invalid continuation byte"
    | .endOfData => "unexpected end of data"
  "'utf-8' codec can't decode " ++ place ++ ": " ++ reason

def encodeChar (c : Char) : List UInt8 :=
  let n := c.toNat
  if n < 0x80 then [n.toUInt8]
  else if n < 0x800 then [(0xc0 + n / 64).toUInt8, (0x80 + n % 64).toUInt8]
  else if n < 0x10000 then
    [(0xe0 + n / 4096).toUInt8, (0x80 + n / 64 % 64).toUInt8, (0x80 + n % 64).toUInt8]
  else
    [(0xf0 + n / 262144).toUInt8, (0x80 + n / 4096 % 64).toUInt8, (0x80 + n / 64 % 64).toUInt8,
      (0x80 + n % 64).toUInt8]

def encode (s : Text) : List UInt8 := s.flatMap encodeChar

end ClasspathProbe.Utf8
