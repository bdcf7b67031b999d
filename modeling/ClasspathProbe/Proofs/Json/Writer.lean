import ClasspathProbe.Json.Writer
import ClasspathProbe.Proofs.Json.Grammar

/-!
# What the writer writes

Whatever stands between the parts, as long as it is blank, a document without numbers is written as
a text that spells it (`spells_written`) and has no character beyond ASCII (`isAscii_written`).
-/

namespace ClasspathProbe.Json

def IsAscii (s : Text) : Prop := ∀ c ∈ s, c.toNat < 128

theorem isAscii_append {s t : Text} (hs : IsAscii s) (ht : IsAscii t) : IsAscii (s ++ t) := by
  intro c hc
  exact (List.mem_append.1 hc).elim (hs c) (ht c)

theorem isAscii_cons {c : Char} {s : Text} (hc : c.toNat < 128) (hs : IsAscii s) :
    IsAscii (c :: s) := by
  intro d hd
  rcases List.mem_cons.1 hd with rfl | hd
  · exact hc
  · exact hs d hd

theorem isAscii_nil : IsAscii [] := by
  intro c hc
  cases hc

theorem IsBlanks.isAscii {b : Text} (h : IsBlanks b) : IsAscii b := by
  intro c hc
  rcases h c hc with rfl | rfl | rfl | rfl <;> decide

/-! ## Units of four digits -/

theorem hex_one {n : Nat} (h : n < 16) : Text.hex 1 n = [n.digitChar] := by
  rw [Text.hex, Nat.toDigits_of_lt_base h]
  rfl

theorem hex_succ (width n : Nat) (h : 0 < width) :
    Text.hex (width + 1) n = Text.hex width (n / 16) ++ [(n % 16).digitChar] := by
  by_cases hn : n < 16
  · -- only zeros stand in front of the last digit
    have hzero : n / 16 = 0 := by omega
    have hmod : n % 16 = n := by omega
    have hdigits : Nat.toDigits 16 0 = List.replicate 1 '0' := rfl
    have hwidth : width - 1 + 1 = width := by omega
    rw [Text.hex, Text.hex, hzero, hmod, Nat.toDigits_of_lt_base hn, hdigits]
    simp only [Text.padStart, List.length_singleton, Nat.add_sub_cancel, List.length_replicate,
      List.replicate_append_replicate, hwidth]
  · rw [Text.hex, Nat.toDigits_of_base_le (by decide) (by omega), Text.hex]
    simp [Text.padStart]

theorem hex_four {n : Nat} (h : n < 0x10000) :
    Text.hex 4 n = [(n / 16 / 16 / 16).digitChar, (n / 16 / 16 % 16).digitChar,
      (n / 16 % 16).digitChar, (n % 16).digitChar] := by
  rw [hex_succ 3 n (by decide), hex_succ 2 _ (by decide), hex_succ 1 _ (by decide),
    hex_one (by omega)]
  rfl

theorem digitIn?_digitChar : ∀ n < 16, Number.digitIn? 16 n.digitChar = some n := by decide

theorem toNat_digitChar_lt : ∀ n < 16, n.digitChar.toNat < 128 := by decide

/-- Four digits are read as the number that they were written for. -/
theorem escapedUnit_eq {n : Nat} (h : n < 0x10000) :
    ∃ a b d e, escapedUnit n = ['\\', 'u', a, b, d, e] ∧ unit? a b d e = some n := by
  refine ⟨_, _, _, _, by rw [escapedUnit, hex_four h], ?_⟩
  have h₁ := digitIn?_digitChar (n / 16 / 16 / 16) (by omega)
  have h₂ := digitIn?_digitChar (n / 16 / 16 % 16) (by omega)
  have h₃ := digitIn?_digitChar (n / 16 % 16) (by omega)
  have h₄ := digitIn?_digitChar (n % 16) (by omega)
  simp only [unit?, List.mapM_cons, List.mapM_nil, h₁, h₂, h₃, h₄, Option.pure_def,
    Option.bind_eq_bind, Option.bind_some, List.foldl_cons, List.foldl_nil, Option.some.injEq]
  omega

theorem isAscii_escapedUnit {n : Nat} (h : n < 0x10000) : IsAscii (escapedUnit n) := by
  rw [escapedUnit, hex_four h]
  refine isAscii_cons (by decide) (isAscii_cons (by decide) ?_)
  intro c hc
  simp only [List.mem_cons, List.not_mem_nil, or_false] at hc
  rcases hc with rfl | rfl | rfl | rfl <;> exact toNat_digitChar_lt _ (by omega)

/-! ## Characters -/

/-- The two units of a character beyond the first plane are halves of a pair, and it is the
character of that pair. -/
theorem pairChar_units {c : Char} (h : 0x10000 ≤ c.toNat) :
    (isHigh (0xd800 + (c.toNat - 0x10000) / 0x400) = true ∧
      isLow (0xdc00 + (c.toNat - 0x10000) % 0x400) = true) ∧
    pairChar (0xd800 + (c.toNat - 0x10000) / 0x400) (0xdc00 + (c.toNat - 0x10000) % 0x400) = c := by
  have hlt := toNat_valid c
  refine ⟨⟨?_, ?_⟩, ?_⟩
  · simp only [isHigh, Bool.and_eq_true, decide_eq_true_eq]
    omega
  · simp only [isLow, Bool.and_eq_true, decide_eq_true_eq]
    omega
  · have hsum : 0x10000 + (0xd800 + (c.toNat - 0x10000) / 0x400 - 0xd800) * 0x400 +
        (0xdc00 + (c.toNat - 0x10000) % 0x400 - 0xdc00) = c.toNat := by
      omega
    rw [pairChar, hsum, Char.ofNat_toNat]

theorem glyph_escaped (c : Char) : Glyph (escaped c) c ∧ IsAscii (escaped c) := by
  have hletter : ∀ e : Char, escape? e = some c → e.toNat < 128 →
      Glyph ['\\', e] c ∧ IsAscii ['\\', e] := fun e he hlt =>
    ⟨.letter he, isAscii_cons (by decide) (isAscii_cons hlt isAscii_nil)⟩
  rw [escaped]
  split
  next h => exact hletter '"' (by rw [h]; rfl) (by decide)
  next hquote =>
  split
  next h => exact hletter '\\' (by rw [h]; rfl) (by decide)
  next hback =>
  split
  next h => exact hletter 'n' (by rw [h]; rfl) (by decide)
  split
  next h => exact hletter 'r' (by rw [h]; rfl) (by decide)
  split
  next h => exact hletter 't' (by rw [h]; rfl) (by decide)
  split
  next h => exact hletter 'f' (by rw [h]; rfl) (by decide)
  split
  next h => exact hletter 'b' (by rw [h]; rfl) (by decide)
  split
  next h =>
    simp only [Bool.and_eq_true, decide_eq_true_eq] at h
    exact ⟨.plain h.1 hquote hback, isAscii_cons (by omega) isAscii_nil⟩
  split
  next h =>
    obtain ⟨a, b, d, e, he, hunit⟩ := escapedUnit_eq h
    have hascii := isAscii_escapedUnit h
    rw [he] at hascii ⊢
    exact ⟨.unit hunit, hascii⟩
  next h =>
    have hlt := toNat_valid c
    obtain ⟨hpair, hc⟩ := pairChar_units (Nat.le_of_not_lt h)
    have hhigh : 0xd800 + (c.toNat - 0x10000) / 0x400 < 0x10000 := by omega
    have hlow : 0xdc00 + (c.toNat - 0x10000) % 0x400 < 0x10000 := by omega
    obtain ⟨a, b, d, e, he, hunit⟩ := escapedUnit_eq hhigh
    obtain ⟨a', b', d', e', he', hunit'⟩ := escapedUnit_eq hlow
    have hascii := isAscii_append (isAscii_escapedUnit hhigh) (isAscii_escapedUnit hlow)
    have hglyph := Glyph.pair hunit hunit' hpair
    rw [hc] at hglyph
    simp only [he, he'] at hascii ⊢
    exact ⟨hglyph, hascii⟩

theorem glyphs_escaped (s : Text) : Glyphs (s.flatMap escaped) s := by
  induction s with
  | nil => exact .nil
  | cons c s ih =>
    rw [List.flatMap_cons]
    exact .cons (glyph_escaped c).1 ih

theorem isAscii_writtenText (s : Text) : IsAscii (writtenText s) := by
  have hs : IsAscii (s.flatMap escaped) := by
    intro d hd
    obtain ⟨c, -, hd⟩ := List.mem_flatMap.1 hd
    exact (glyph_escaped c).2 d hd
  exact isAscii_append (isAscii_cons (by decide) hs) (isAscii_cons (by decide) isAscii_nil)

/-! ## Parts -/

/-- Whether a layout sets parts apart by blanks alone. -/
structure Layout.Blank (layout : Layout) : Prop where
  lineAt : ∀ depth, IsBlanks (layout.lineAt depth)
  gap : IsBlanks layout.gap

/-- Texts that spell entries, whatever blanks stand around each. -/
inductive Listed : List Text → List (Option Text × Json) → Prop
  | nil : Listed [] []
  | cons {p : Text} {ps : List Text} {name : Option Text} {v : Json}
      {es : List (Option Text × Json)}
      (hp : ∀ b b', IsBlanks b → IsBlanks b' → Spells (b ++ p ++ b') (.entry name v))
      (h : Listed ps es) : Listed (p :: ps) ((name, v) :: es)

theorem Listed.spells_joined {ps : List Text} {es : List (Option Text × Json)} (h : Listed ps es)
    (hne : ps ≠ []) {b sep b' : Text} (hb : IsBlanks b) (hsep : IsBlanks sep) (hb' : IsBlanks b') :
    Spells (b ++ Text.joined (',' :: sep) ps ++ b') (.entries es) := by
  induction h generalizing b with
  | nil => exact absurd rfl hne
  | @cons p ps name v es hp h ih =>
    cases h with
    | nil => exact .one (hp b b' hb hb')
    | @cons q qs _ _ _ hq h =>
      have hmore := Spells.more (hp b [] hb isBlanks_nil) (ih (List.cons_ne_nil q qs) hsep)
      simpa [Text.joined] using hmore

theorem spells_bracketed {layout : Layout} (hl : layout.Blank) {ps : List Text}
    {es : List (Option Text × Json)} (h : Listed ps es) (depth : Nat) (opening closing : Char) :
    ∃ m, bracketed layout depth opening closing ps = opening :: m ++ [closing] ∧
      Spells m (.inside es) := by
  cases h with
  | nil => exact ⟨[], rfl, .empty isBlanks_nil⟩
  | @cons p ps _ _ _ hp h =>
    have hsep := isBlanks_append hl.gap (hl.lineAt (depth + 1))
    exact ⟨_, by simp [bracketed], .filled ((Listed.cons hp h).spells_joined (List.cons_ne_nil p ps)
      (hl.lineAt (depth + 1)) hsep (hl.lineAt depth))⟩

theorem isAscii_bracketed {layout : Layout} (hl : layout.Blank) {ps : List Text}
    (h : ∀ p ∈ ps, IsAscii p) (depth : Nat) {opening closing : Char} (ho : opening.toNat < 128)
    (hc : closing.toNat < 128) : IsAscii (bracketed layout depth opening closing ps) := by
  have hlast : IsAscii [closing] := isAscii_cons hc isAscii_nil
  have hsep : IsAscii (',' :: layout.gap ++ layout.lineAt (depth + 1)) :=
    isAscii_append (isAscii_cons (by decide) hl.gap.isAscii) (hl.lineAt _).isAscii
  have hjoined : IsAscii (Text.joined (',' :: layout.gap ++ layout.lineAt (depth + 1)) ps) := by
    clear hlast
    induction ps with
    | nil => exact isAscii_nil
    | cons p ps ih =>
      have ih := ih fun q hq => h q (List.mem_cons_of_mem p hq)
      cases ps with
      | nil => exact h p List.mem_cons_self
      | cons q qs => exact isAscii_append (isAscii_append (h p List.mem_cons_self) hsep) ih
  rw [bracketed]
  split
  · exact isAscii_cons ho hlast
  · exact isAscii_append (isAscii_append (isAscii_append
      (isAscii_cons ho (hl.lineAt _).isAscii) hjoined) (hl.lineAt _).isAscii) hlast

/-! ## Documents -/

mutual

theorem spells_written {layout : Layout} (hl : layout.Blank) (depth : Nat) :
    (v : Json) → v.numberless = true → Spells (written layout depth v) (.value v)
  | .null, _ => .null
  | .bool b, _ => .bool b
  | .int _, h => by simp [numberless] at h
  | .float _, h => by simp [numberless] at h
  | .text s, _ => .text (glyphs_escaped s)
  | .list vs, h => by
    rw [numberless] at h
    obtain ⟨m, he, hm⟩ :=
      spells_bracketed hl (listed_writtenItems hl (depth + 1) vs h) depth '[' ']'
    rw [written, he]
    exact .list hm
  | .object ms, h => by
    rw [numberless] at h
    obtain ⟨m, he, hm⟩ :=
      spells_bracketed hl (listed_writtenMembers hl (depth + 1) ms h) depth '\x7b' '\x7d'
    rw [written, he]
    exact .object hm

theorem listed_writtenItems {layout : Layout} (hl : layout.Blank) (depth : Nat) :
    (vs : List Json) → numberlessItems vs = true → Listed (writtenItems layout depth vs) (items vs)
  | [], _ => .nil
  | v :: vs, h => by
    rw [numberlessItems, Bool.and_eq_true] at h
    exact .cons (fun b b' hb hb' => .item hb (spells_written hl depth v h.1) hb')
      (listed_writtenItems hl depth vs h.2)

theorem listed_writtenMembers {layout : Layout} (hl : layout.Blank) (depth : Nat) :
    (ms : List (Text × Json)) → numberlessMembers ms = true →
    Listed (writtenMembers layout depth ms) (members ms)
  | [], _ => .nil
  | (k, v) :: ms, h => by
    rw [numberlessMembers, Bool.and_eq_true] at h
    refine .cons (fun b b' hb hb' => ?_) (listed_writtenMembers hl depth ms h.2)
    have hgap : IsBlanks [' '] := by simp [IsBlanks, IsBlank]
    have hitem := Spells.item hgap (spells_written hl depth v h.1) hb'
    simpa [writtenText] using Spells.member hb (glyphs_escaped k) isBlanks_nil hitem

end

mutual

theorem isAscii_written {layout : Layout} (hl : layout.Blank) (depth : Nat) :
    (v : Json) → v.numberless = true → IsAscii (written layout depth v)
  | .null, _ => by simp [IsAscii, written]
  | .bool b, _ => by cases b <;> simp [IsAscii, written]
  | .int _, h => by simp [numberless] at h
  | .float _, h => by simp [numberless] at h
  | .text s, _ => isAscii_writtenText s
  | .list vs, h => by
    rw [numberless] at h
    exact isAscii_bracketed hl (isAscii_writtenItems hl (depth + 1) vs h) depth (by decide)
      (by decide)
  | .object ms, h => by
    rw [numberless] at h
    exact isAscii_bracketed hl (isAscii_writtenMembers hl (depth + 1) ms h) depth (by decide)
      (by decide)

theorem isAscii_writtenItems {layout : Layout} (hl : layout.Blank) (depth : Nat) :
    (vs : List Json) → numberlessItems vs = true → ∀ p ∈ writtenItems layout depth vs, IsAscii p
  | [], _ => fun p hp => by simp [writtenItems] at hp
  | v :: vs, h => by
    rw [numberlessItems, Bool.and_eq_true] at h
    intro p hp
    rcases List.mem_cons.1 hp with rfl | hp
    · exact isAscii_written hl depth v h.1
    · exact isAscii_writtenItems hl depth vs h.2 p hp

theorem isAscii_writtenMembers {layout : Layout} (hl : layout.Blank) (depth : Nat) :
    (ms : List (Text × Json)) → numberlessMembers ms = true →
    ∀ p ∈ writtenMembers layout depth ms, IsAscii p
  | [], _ => fun p hp => by simp [writtenMembers] at hp
  | (k, v) :: ms, h => by
    rw [numberlessMembers, Bool.and_eq_true] at h
    intro p hp
    rcases List.mem_cons.1 hp with rfl | hp
    · have hcolon : IsAscii ": " := by simp [IsAscii]
      exact isAscii_append (isAscii_append (isAscii_writtenText k) hcolon)
        (isAscii_written hl depth v h.1)
    · exact isAscii_writtenMembers hl depth ms h.2 p hp

end

theorem blank_onLines : onLines.Blank where
  lineAt depth := by
    intro c hc
    rcases List.mem_cons.1 hc with rfl | hc
    · simp [IsBlank]
    · exact .inl (List.eq_of_mem_replicate hc)
  gap := fun c hc => by cases hc

/-- An indented document without numbers is the only one that its text spells. -/
theorem isText_indented {v v' : Json} (hv : v.numberless) : IsText (indented v) v' ↔ v' = v := by
  have h : IsText (indented v) v := by
    simpa [IsText, indented] using
      Spells.item isBlanks_nil (spells_written blank_onLines 0 v hv) isBlanks_nil
  exact h.sole hv

end ClasspathProbe.Json
