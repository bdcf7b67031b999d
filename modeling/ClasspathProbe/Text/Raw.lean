import ClasspathProbe.Text.Utf8

/-!
# Raw text

What passes through a program that knows nothing of characters is bytes. A raw text is a text in
which each character stands for one byte.
-/

namespace ClasspathProbe.Raw

/-- The bytes of a raw text. -/
def toBytes (s : Text) : List UInt8 := s.map fun c => c.toNat.toUInt8

/-- The raw text of some bytes. -/
def ofBytes (bytes : List UInt8) : Text := bytes.map fun b => Char.ofNat b.toNat

/-- The text that the bytes of a raw text are read as. -/
def decode (s : Text) : Text := Utf8.decode (toBytes s)

/-- The raw text of a text. -/
def encode (s : Text) : Text := ofBytes (Utf8.encode s)

/-- Nothing is lost when bytes are written as a raw text. -/
theorem toBytes_ofBytes (bytes : List UInt8) : toBytes (ofBytes bytes) = bytes := by
  induction bytes with
  | nil => rfl
  | cons b r ih =>
    have head : (Char.ofNat b.toNat).toNat.toUInt8 = b := by
      have small : b.toNat.isValidChar := .inl (Nat.lt_trans b.toNat_lt (by decide))
      have : (Char.ofNat b.toNat).toNat = b.toNat := by
        rw [Char.ofNat, dif_pos small]
        rfl
      rw [this]
      exact UInt8.ofNat_toNat
    show (Char.ofNat b.toNat).toNat.toUInt8 :: toBytes (ofBytes r) = b :: r
    rw [head, ih]

end ClasspathProbe.Raw
