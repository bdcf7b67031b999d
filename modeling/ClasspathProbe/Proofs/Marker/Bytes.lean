import ClasspathProbe.Proofs.Marker.Join
import ClasspathProbe.Proofs.Text.Utf8

/-!
# Outputs made of bytes

The output of a process is bytes, cut at the line feeds among them. The decoder starts afresh behind
a line feed, so the lines of the decoded output are those of its decoded parts, and an output reports
what its parts report: whatever stands in one of them, be it not UTF-8 or cut off in the middle of a
character, the others report the same.
-/

namespace ClasspathProbe.Marker

variable {line : Text} {x : Artifact}

/-- The byte of a line feed. -/
def feedByte : UInt8 := 0x0A

/-- The parts of an output: lines with a line feed behind each of them, and what comes after. -/
def parts (lines : List (List UInt8)) (tail : List UInt8) : List (List UInt8) :=
  lines.map (· ++ [feedByte]) ++ [tail]

theorem decode_append_feed (a b : List UInt8) :
    Utf8.decode (a ++ feedByte :: b) = Utf8.decode a ++ '\n' :: Utf8.decode b :=
  Utf8.decode_append_cons a (by decide) b

/-- By induction on the lines: behind the first of them the decoder is where it began. -/
theorem mem_endedLines_parts (lines : List (List UInt8)) (tail : List UInt8) :
    line ∈ endedLines (Utf8.decode (parts lines tail).flatten) ↔
      ∃ part ∈ parts lines tail, line ∈ endedLines (Utf8.decode part) := by
  induction lines with
  | nil => simp [parts]
  | cons l lines ih =>
    have hparts : parts (l :: lines) tail = (l ++ [feedByte]) :: parts lines tail := rfl
    have hbytes : (parts (l :: lines) tail).flatten = l ++ feedByte :: (parts lines tail).flatten := by
      simp [hparts]
    have hfirst : Utf8.decode (l ++ [feedByte]) = Utf8.decode l ++ ['\n'] := decode_append_feed l []
    rw [hbytes, decode_append_feed, endedLines_append, List.mem_append, ih, hparts, ← hfirst]
    simp

theorem reportsBlank_parts (lines : List (List UInt8)) (tail : List UInt8) :
    ReportsBlank (Utf8.decode (parts lines tail).flatten) ↔
      ∃ part ∈ parts lines tail, ReportsBlank (Utf8.decode part) := by
  simp only [ReportsBlank, mem_endedLines_parts]
  constructor
  · rintro ⟨line, ⟨part, hpart, hline⟩, h⟩
    exact ⟨part, hpart, line, hline, h⟩
  · rintro ⟨part, hpart, line, hline, h⟩
    exact ⟨line, ⟨part, hpart, hline⟩, h⟩

theorem mem_reported_parts (lines : List (List UInt8)) (tail : List UInt8) :
    x ∈ reported (Utf8.decode (parts lines tail).flatten) ↔
      ∃ part ∈ parts lines tail, x ∈ reported (Utf8.decode part) := by
  simp only [mem_reported, mem_endedLines_parts]
  constructor
  · rintro ⟨line, ⟨part, hpart, hline⟩, h⟩
    exact ⟨part, hpart, line, hline, h⟩
  · rintro ⟨part, hpart, line, hline, h⟩
    exact ⟨line, ⟨part, hpart, hline⟩, h⟩

/-- An output of bytes is parsed part by part. -/
theorem parse_parts (lines : List (List UInt8)) (tail : List UInt8) :
    ((∃ e, parse (Utf8.decode (parts lines tail).flatten) = .error e) ↔
      ∃ part ∈ parts lines tail, ∃ e, parse (Utf8.decode part) = .error e) ∧
    ∀ as, parse (Utf8.decode (parts lines tail).flatten) = .ok as →
      ∀ x, x ∈ as ↔
        ∃ part ∈ parts lines tail, ∃ bs, parse (Utf8.decode part) = .ok bs ∧ x ∈ bs := by
  simp only [parse_failed_iff]
  refine ⟨reportsBlank_parts lines tail, fun as hparse x => ?_⟩
  obtain ⟨hblank, rfl⟩ := parse_ok_iff.1 hparse
  rw [List.mem_eraseDups, mem_reported_parts]
  refine exists_congr fun part => and_congr_right fun hpart => ?_
  have hgood : ¬ReportsBlank (Utf8.decode part) := fun h =>
    hblank ((reportsBlank_parts lines tail).2 ⟨part, hpart, h⟩)
  rw [parse_of_not_blank hgood]
  simp [List.mem_eraseDups]

/-- **Bytes stay on their line.** Bytes put together at a line feed are decoded each for itself; the
characters below 0x80 are the bytes below 0x80, as many and in the same order; and what was encoded
is read back. So an output of bytes fails to be parsed exactly when one of its lines does, or what
comes after them, and else gives what these give. -/
theorem bytes_stay_on_line (a b : List UInt8) (s : Text) (lines : List (List UInt8))
    (tail : List UInt8) :
    Utf8.decode (a ++ 0x0A :: b) = Utf8.decode a ++ '\n' :: Utf8.decode b ∧
    (Utf8.decode a).filter (·.toNat < 0x80) =
      (a.filter (·.toNat < 0x80)).map (Char.ofNat ·.toNat) ∧
    Utf8.decode (Utf8.encode s) = s ∧
    let parts := lines.map (· ++ [0x0A]) ++ [tail]
    let output := Raw.decode (Raw.ofBytes parts.flatten)
    ((∃ e, parse output = .error e) ↔ ∃ part ∈ parts, ∃ e, parse (Utf8.decode part) = .error e) ∧
      ∀ as, parse output = .ok as →
        ∀ x, x ∈ as ↔ ∃ part ∈ parts, ∃ bs, parse (Utf8.decode part) = .ok bs ∧ x ∈ bs := by
  have hparse := parse_parts lines tail
  rw [← Raw.toBytes_ofBytes (parts lines tail).flatten] at hparse
  exact ⟨decode_append_feed a b, Utf8.filter_decode a, Utf8.decode_encode s, hparse⟩

end ClasspathProbe.Marker
