import ClasspathProbe.Json.Reader

/-!
# The grammar of JSON

Which document a text spells by the rules of RFC 8259, apart from any reader. What value the token
of a number has is left open; a document without numbers is alone in being spelled by its text
(`IsText.sole`). A half of a surrogate pair that stands alone spells no character.
-/

namespace ClasspathProbe.Json

/-! ## The grammar -/

def IsBlank (c : Char) : Prop := c = ' ' ∨ c = '\t' ∨ c = '\n' ∨ c = '\r'

def IsBlanks (b : Text) : Prop := ∀ c ∈ b, IsBlank c

/-- One character as it can stand between quotes. -/
inductive Glyph : Text → Char → Prop
  | plain {c : Char} (hlow : 0x20 ≤ c.toNat) (hquote : c ≠ '"') (hback : c ≠ '\\') : Glyph [c] c
  | letter {e c : Char} (h : escape? e = some c) : Glyph ['\\', e] c
  | unit {a b d e c : Char} (h : unit? a b d e = some c.toNat) : Glyph ['\\', 'u', a, b, d, e] c
  | pair {a b d e a' b' d' e' : Char} {high low : Nat}
      (hhigh : unit? a b d e = some high) (hlow : unit? a' b' d' e' = some low)
      (hpair : isHigh high ∧ isLow low) :
      Glyph ['\\', 'u', a, b, d, e, '\\', 'u', a', b', d', e'] (pairChar high low)

/-- The characters of a text, one after the other. -/
inductive Glyphs : Text → Text → Prop
  | nil : Glyphs [] []
  | cons {g s : Text} {c : Char} {t : Text} (hg : Glyph g c) (hs : Glyphs s t) :
      Glyphs (g ++ s) (c :: t)

def IsDigits (s : Text) : Prop := s ≠ [] ∧ ∀ c ∈ s, c.isDigit

/-- The token of a number: a sign, whole digits without a zero before others, a fraction and an
exponent. -/
inductive IsNumber : Text → Prop
  | mk {sign whole part power : Text}
      (hsign : sign = [] ∨ sign = ['-'])
      (hwhole : whole = ['0'] ∨ IsDigits whole ∧ whole.head? ≠ some '0')
      (hpart : part = [] ∨ ∃ ds, part = '.' :: ds ∧ IsDigits ds)
      (hpower : power = [] ∨ ∃ e sign ds, power = e :: sign ++ ds ∧ (e = 'e' ∨ e = 'E') ∧
        (sign = [] ∨ sign = ['+'] ∨ sign = ['-']) ∧ IsDigits ds) :
      IsNumber (sign ++ whole ++ part ++ power)

def isNumber : Json → Bool
  | .int _ | .float _ => true
  | _ => false

/-- What a stretch of a text can spell: a document, an entry of a list or (with its name) of an
object between blanks, some entries with commas between them, or what stands between brackets. -/
inductive Part
  | value (v : Json)
  | entry (name : Option Text) (v : Json)
  | entries (es : List (Option Text × Json))
  | inside (es : List (Option Text × Json))

def items (vs : List Json) : List (Option Text × Json) := vs.map fun v => (none, v)

def members (ms : List (Text × Json)) : List (Option Text × Json) := ms.map fun m => (some m.1, m.2)

theorem items_inj {vs vs' : List Json} (h : items vs = items vs') : vs = vs' := by
  have h := congrArg (List.map Prod.snd) h
  simpa [items, Function.comp_def] using h

theorem members_inj {ms ms' : List (Text × Json)} (h : members ms = members ms') : ms = ms' := by
  have h := congrArg (List.map fun e => (e.1.getD [], e.2)) h
  simpa [members, Function.comp_def] using h

inductive Spells : Text → Part → Prop
  | null : Spells "null" (.value .null)
  | bool (b : Bool) : Spells (if b then "true".toList else "false") (.value (.bool b))
  | number {s : Text} {v : Json} (hs : IsNumber s) (hv : v.isNumber) : Spells s (.value v)
  | text {g t : Text} (h : Glyphs g t) : Spells ('"' :: g ++ ['"']) (.value (.text t))
  | list {s : Text} {vs : List Json} (h : Spells s (.inside (items vs))) :
      Spells ('[' :: s ++ [']']) (.value (.list vs))
  | object {s : Text} {ms : List (Text × Json)} (h : Spells s (.inside (members ms))) :
      Spells ('\x7b' :: s ++ ['\x7d']) (.value (.object ms))
  | item {b s b' : Text} {v : Json} (hb : IsBlanks b) (hs : Spells s (.value v))
      (hb' : IsBlanks b') : Spells (b ++ s ++ b') (.entry none v)
  | member {b g t b' s : Text} {v : Json} (hb : IsBlanks b) (hg : Glyphs g t) (hb' : IsBlanks b')
      (hs : Spells s (.entry none v)) :
      Spells (b ++ '"' :: g ++ '"' :: b' ++ ':' :: s) (.entry (some t) v)
  | one {s : Text} {name : Option Text} {v : Json} (h : Spells s (.entry name v)) :
      Spells s (.entries [(name, v)])
  | more {s t : Text} {name : Option Text} {v : Json} {es : List (Option Text × Json)}
      (hs : Spells s (.entry name v)) (ht : Spells t (.entries es)) :
      Spells (s ++ ',' :: t) (.entries ((name, v) :: es))
  | empty {b : Text} (hb : IsBlanks b) : Spells b (.inside [])
  | filled {s : Text} {es : List (Option Text × Json)} (h : Spells s (.entries es)) :
      Spells s (.inside es)

/-- Whether a text is a document, with blanks around it. -/
def IsText (s : Text) (v : Json) : Prop := Spells s (.entry none v)

/-! ## Documents without numbers -/

mutual

def numberless : Json → Bool
  | .null | .bool _ | .text _ => true
  | .int _ | .float _ => false
  | .list vs => numberlessItems vs
  | .object ms => numberlessMembers ms

def numberlessItems : List Json → Bool
  | [] => true
  | v :: vs => numberless v && numberlessItems vs

def numberlessMembers : List (Text × Json) → Bool
  | [] => true
  | (_, v) :: ms => numberless v && numberlessMembers ms

end

theorem numberlessItems_iff {vs : List Json} :
    numberlessItems vs = true ↔ ∀ v ∈ vs, v.numberless = true := by
  induction vs with
  | nil => simp [numberlessItems]
  | cons v vs ih => simp [numberlessItems, ih]

theorem numberlessMembers_iff {ms : List (Text × Json)} :
    numberlessMembers ms = true ↔ ∀ m ∈ ms, m.2.numberless = true := by
  induction ms with
  | nil => simp [numberlessMembers]
  | cons m ms ih => simp [numberlessMembers, ih]

def Part.Numberless : Part → Prop
  | .value v => v.numberless
  | .entry _ v => v.numberless
  | .entries es | .inside es => ∀ e ∈ es, e.2.numberless

theorem numberless_items {vs : List Json} (h : (Json.list vs).numberless) :
    (Part.inside (items vs)).Numberless := by
  rw [numberless, numberlessItems_iff] at h
  intro e he
  obtain ⟨v, hv, rfl⟩ := List.mem_map.1 he
  exact h v hv

theorem numberless_members {ms : List (Text × Json)} (h : (Json.object ms).numberless) :
    (Part.inside (members ms)).Numberless := by
  rw [numberless, numberlessMembers_iff] at h
  intro e he
  obtain ⟨m, hm, rfl⟩ := List.mem_map.1 he
  exact h m hm

/-! ## Blanks -/

instance (c : Char) : Decidable (IsBlank c) := inferInstanceAs (Decidable (_ ∨ _))

theorem isBlanks_nil : IsBlanks [] := by
  intro c hc
  cases hc

theorem isBlanks_append {b b' : Text} (hb : IsBlanks b) (hb' : IsBlanks b') :
    IsBlanks (b ++ b') := by
  intro c hc
  exact (List.mem_append.1 hc).elim (hb c) (hb' c)

/-- Whether a text does not go on with a blank. -/
def Unblank (s : Text) : Prop := ∀ c ∈ s.head?, ¬IsBlank c

theorem unblank_cons {c : Char} {s : Text} (h : ¬IsBlank c) : Unblank (c :: s) := by
  simpa [Unblank] using h

theorem skipBlanks_append {b s : Text} (hb : IsBlanks b) (hs : Unblank s) :
    skipBlanks (b ++ s) = s := by
  induction b with
  | nil =>
    cases s with
    | nil => rfl
    | cons c s =>
      have hc : ¬IsBlank c := hs c rfl
      simp only [IsBlank, not_or] at hc
      simp [skipBlanks, hc]
  | cons c b ih =>
    have hc : IsBlank c := hb c List.mem_cons_self
    have ih := ih fun d hd => hb d (List.mem_cons_of_mem c hd)
    rw [List.cons_append, skipBlanks,
      List.dropWhile_cons_of_pos (by simpa [IsBlank, or_assoc] using hc)]
    exact ih

/-- Blanks before two texts that go on alike can be left out. -/
theorem eq_of_blanks {b b' s s' : Text} (hb : IsBlanks b) (hb' : IsBlanks b') (hs : Unblank s)
    (hs' : Unblank s') (h : b ++ s = b' ++ s') : s = s' := by
  rw [← skipBlanks_append hb hs, ← skipBlanks_append hb' hs', h]

/-! ## Characters between quotes -/

theorem toNat_valid (c : Char) : c.toNat < 0xd800 ∨ 0xdfff < c.toNat ∧ c.toNat < 0x110000 :=
  c.valid

/-- No character has the number of a half of a pair. -/
theorem unitChar_toNat (c : Char) : unitChar c.toNat = c ∧ isHigh c.toNat = false := by
  have h := toNat_valid c
  have hhigh : isHigh c.toNat = false := by
    simp only [isHigh, Bool.and_eq_false_iff, decide_eq_false_iff_not]
    omega
  have hlow : isLow c.toNat = false := by
    simp only [isLow, Bool.and_eq_false_iff, decide_eq_false_iff_not]
    omega
  exact ⟨by simp [unitChar, hhigh, hlow, Char.ofNat_toNat], hhigh⟩

theorem readText_letter {e c : Char} (h : escape? e = some c) (s : Text) :
    readText ('\\' :: e :: s) = keep c (readText s) := by
  have hu : e ≠ 'u' := by
    rintro rfl
    cases h
  rw [readText, h]
  · exact fun _ _ _ _ _ _ _ _ _ he _ => hu he
  · exact fun _ _ _ _ _ he _ => hu he

theorem readText_plain {c : Char} (hlow : 0x20 ≤ c.toNat) (hquote : c ≠ '"') (hback : c ≠ '\\')
    (s : Text) : readText (c :: s) = keep c (readText s) := by
  rw [readText, if_neg (Nat.not_lt.2 hlow)]
  · exact hquote
  · exact fun _ _ _ _ _ _ _ _ _ h _ => hback h
  · exact fun _ _ _ _ _ h _ => hback h
  · exact fun _ _ h _ => hback h

theorem readText_unit {a b d e c : Char} (h : unit? a b d e = some c.toNat) (s : Text) :
    readText ('\\' :: 'u' :: a :: b :: d :: e :: s) = keep c (readText s) := by
  obtain ⟨hc, hhigh⟩ := unitChar_toNat c
  by_cases hs : ∃ a' b' d' e' t, s = '\\' :: 'u' :: a' :: b' :: d' :: e' :: t
  · -- the reader looks at the next unit, and this one is no first half
    obtain ⟨a', b', d', e', t, rfl⟩ := hs
    rw [readText, h]
    cases unit? a' b' d' e' <;> simp [hc, hhigh]
  · rw [readText, h]
    · simp only [hc]
    · exact fun _ _ _ _ _ he => hs ⟨_, _, _, _, _, he⟩

theorem Glyph.readText {g : Text} {c : Char} (h : Glyph g c) (s : Text) :
    readText (g ++ s) = keep c (readText s) := by
  cases h with
  | plain hlow hquote hback => exact readText_plain hlow hquote hback s
  | letter h => exact readText_letter h s
  | unit h => exact readText_unit h s
  | pair hhigh hlow hpair =>
    rw [List.cons_append]
    simp only [List.cons_append, List.nil_append, Json.readText, hhigh, hlow, hpair.1, hpair.2,
      Bool.and_self, if_true]

/-- A quoted text is read up to its closing quote. -/
theorem Glyphs.readText {g t : Text} (h : Glyphs g t) (r : Text) :
    readText (g ++ '"' :: r) = some (t, r) := by
  induction h with
  | nil => rw [List.nil_append, Json.readText]
  | cons hg _ ih =>
    rw [List.append_assoc, hg.readText, ih]
    rfl

theorem Glyphs.sole {g g' t t' : Text} (h : Glyphs g t) (h' : Glyphs g' t') {r r' : Text}
    (he : g ++ '"' :: r = g' ++ '"' :: r') : t = t' ∧ r = r' := by
  have hread := h.readText r
  rw [he, h'.readText r'] at hread
  simpa [eq_comm] using hread

/-! ## How documents start -/

/-- Whether a document can be spelled with a character at the start. -/
def startsWith : Json → Char → Bool
  | .null, c => c = 'n'
  | .bool b, c => c = if b then 't' else 'f'
  | .int _, c | .float _, c => c = '-' || c.isDigit
  | .text _, c => c = '"'
  | .list _, c => c = '['
  | .object _, c => c = '\x7b'

theorem IsNumber.eq_cons {s : Text} (h : IsNumber s) :
    ∃ c t, s = c :: t ∧ (c = '-' || c.isDigit) := by
  obtain ⟨hsign, hwhole, -, -⟩ := h
  rcases hsign with rfl | rfl
  · rcases hwhole with rfl | ⟨⟨hne, hdigits⟩, -⟩
    · exact ⟨_, _, rfl, by decide⟩
    · obtain ⟨c, ds, rfl⟩ := List.exists_cons_of_ne_nil hne
      exact ⟨c, _, rfl, by simp [hdigits c List.mem_cons_self]⟩
  · exact ⟨_, _, rfl, by decide⟩

theorem startsWith_of_spells {s : Text} {v : Json} (h : Spells s (.value v)) :
    ∃ c t, s = c :: t ∧ v.startsWith c := by
  cases h with
  | null => exact ⟨_, _, rfl, rfl⟩
  | bool b =>
    cases b with
    | true => exact ⟨_, _, rfl, rfl⟩
    | false => exact ⟨_, _, rfl, rfl⟩
  | number hs hv =>
    obtain ⟨c, t, rfl, hc⟩ := hs.eq_cons
    refine ⟨c, t, rfl, ?_⟩
    cases v with
    | int _ => exact hc
    | float _ => exact hc
    | _ => cases hv
  | text _ => exact ⟨_, _, rfl, rfl⟩
  | list _ => exact ⟨_, _, rfl, rfl⟩
  | object _ => exact ⟨_, _, rfl, rfl⟩

/-- A document starts neither with a blank nor with a closing mark. -/
theorem not_isBlank_of_startsWith {v : Json} {c : Char} (h : v.startsWith c) :
    ¬IsBlank c ∧ c ≠ ']' ∧ c ≠ '\x7d' := by
  have hdigit : ∀ d : Char, d.isDigit = false → c.isDigit → c ≠ d := by
    rintro d hd hc rfl
    simp [hd] at hc
  cases v <;> simp only [startsWith, Bool.or_eq_true, decide_eq_true_eq] at h
  case int | float =>
    rcases h with rfl | h
    · decide
    · exact ⟨by simp [IsBlank, hdigit ' ' rfl h, hdigit '\t' rfl h, hdigit '\n' rfl h,
        hdigit '\r' rfl h], hdigit ']' rfl h, hdigit '\x7d' rfl h⟩
  case bool b => cases b <;> subst h <;> decide
  all_goals subst h; decide

theorem unblank_of_spells {s : Text} {v : Json} (h : Spells s (.value v)) (r : Text) :
    Unblank (s ++ r) := by
  obtain ⟨c, t, rfl, hc⟩ := startsWith_of_spells h
  exact unblank_cons (not_isBlank_of_startsWith hc).1

theorem eq_null_of_startsWith {v : Json} (h : v.startsWith 'n') : v = .null := by
  cases v with
  | null => rfl
  | bool b => cases b <;> cases h
  | _ => cases h

theorem eq_bool_of_startsWith {v : Json} {c : Char} (b : Bool) (hc : c = if b then 't' else 'f')
    (h : v.startsWith c) : v = .bool b := by
  subst hc
  cases v with
  | bool d => cases b <;> cases d <;> first | rfl | cases h
  | _ => cases b <;> cases h

theorem eq_text_of_startsWith {v : Json} (h : v.startsWith '"') : ∃ t, v = .text t := by
  cases v with
  | text t => exact ⟨t, rfl⟩
  | bool b => cases b <;> cases h
  | _ => cases h

theorem eq_list_of_startsWith {v : Json} (h : v.startsWith '[') : ∃ vs, v = .list vs := by
  cases v with
  | list vs => exact ⟨vs, rfl⟩
  | bool b => cases b <;> cases h
  | _ => cases h

theorem eq_object_of_startsWith {v : Json} (h : v.startsWith '\x7b') : ∃ ms, v = .object ms := by
  cases v with
  | object ms => exact ⟨ms, rfl⟩
  | bool b => cases b <;> cases h
  | _ => cases h

/-- What stands between brackets and is not blank starts neither with a blank nor with a closing
mark, once its own blanks are left out. -/
theorem entry_eq_append {s : Text} {name : Option Text} {v : Json}
    (h : Spells s (.entry name v)) :
    ∃ b c t, s = b ++ c :: t ∧ IsBlanks b ∧ ¬IsBlank c ∧ c ≠ ']' ∧ c ≠ '\x7d' := by
  cases h with
  | @item b _ b' _ hb hs _ =>
    obtain ⟨c, t, rfl, hc⟩ := startsWith_of_spells hs
    exact ⟨b, c, t ++ b', by simp, hb, not_isBlank_of_startsWith hc⟩
  | @member b g _ b' m _ hb _ _ _ =>
    exact ⟨b, '"', g ++ '"' :: b' ++ ':' :: m, by simp, hb, by decide⟩

theorem entries_eq_append {s : Text} {es : List (Option Text × Json)}
    (h : Spells s (.entries es)) :
    ∃ b c t, s = b ++ c :: t ∧ IsBlanks b ∧ ¬IsBlank c ∧ c ≠ ']' ∧ c ≠ '\x7d' := by
  cases h with
  | one h => exact entry_eq_append h
  | @more _ u _ _ _ h _ =>
    obtain ⟨b, c, t, rfl, hc⟩ := entry_eq_append h
    exact ⟨b, c, t ++ ',' :: u, by simp, hc⟩

/-! ## What spells a document of each kind -/

theorem spells_text {s t : Text} (h : Spells s (.value (.text t))) :
    ∃ g, s = '"' :: g ++ ['"'] ∧ Glyphs g t := by
  cases h with
  | number _ hv => cases hv
  | text hg => exact ⟨_, rfl, hg⟩

theorem spells_list {s : Text} {vs : List Json} (h : Spells s (.value (.list vs))) :
    ∃ m, s = '[' :: m ++ [']'] ∧ Spells m (.inside (items vs)) := by
  cases h with
  | number _ hv => cases hv
  | list h => exact ⟨_, rfl, h⟩

theorem spells_object {s : Text} {ms : List (Text × Json)} (h : Spells s (.value (.object ms))) :
    ∃ m, s = '\x7b' :: m ++ ['\x7d'] ∧ Spells m (.inside (members ms)) := by
  cases h with
  | number _ hv => cases hv
  | object h => exact ⟨_, rfl, h⟩

theorem spells_null {s : Text} (h : Spells s (.value .null)) : s = "null" := by
  cases h with
  | number _ hv => cases hv
  | null => rfl

theorem spells_bool {s : Text} {b : Bool} (h : Spells s (.value (.bool b))) :
    s = if b then "true".toList else "false" := by
  cases h with
  | number _ hv => cases hv
  | bool _ => rfl

/-! ## One document for a text -/

/-- Whether a text goes on with the end of a list or an object. -/
def Closes (r : Text) : Prop := ∃ c t, r = c :: t ∧ (c = ']' ∨ c = '\x7d')

/-- Whether a text goes on as after an entry, or is at its end. -/
def Ends (r : Text) : Prop := r = [] ∨ (∃ t, r = ',' :: t) ∨ Closes r

/-- Whether a part is all that a stretch can spell, whatever stretch of the same text one takes. -/
def Part.Sole (s : Text) : Part → Prop
  | .value v => ∀ ⦃s' v' r r'⦄, Spells s' (.value v') → s ++ r = s' ++ r' → v = v' ∧ r = r'
  | .entry name v => ∀ ⦃s' name' v' r r'⦄, Ends r → Ends r' → Spells s' (.entry name' v') →
      s ++ r = s' ++ r' → (name, v) = (name', v') ∧ r = r'
  | .entries es => ∀ ⦃s' es' r r'⦄, Closes r → Closes r' → Spells s' (.entries es') →
      s ++ r = s' ++ r' → es = es' ∧ r = r'
  | .inside es => ∀ ⦃s' es' r r'⦄, Closes r → Closes r' → Spells s' (.inside es') →
      s ++ r = s' ++ r' → es = es' ∧ r = r'

theorem Ends.unblank {r : Text} (h : Ends r) : Unblank r := by
  rcases h with rfl | ⟨t, rfl⟩ | ⟨c, t, rfl, rfl | rfl⟩
  · simp [Unblank]
  · exact unblank_cons (by decide)
  · exact unblank_cons (by decide)
  · exact unblank_cons (by decide)

theorem Ends.ne_colon {r t : Text} (h : Ends r) : r ≠ ':' :: t := by
  rcases h with rfl | ⟨_, rfl⟩ | ⟨c, _, rfl, rfl | rfl⟩ <;> simp

theorem Closes.ends {r : Text} (h : Closes r) : Ends r := .inr (.inr h)

theorem Closes.ne_comma {r t : Text} (h : Closes r) : r ≠ ',' :: t := by
  obtain ⟨c, _, rfl, rfl | rfl⟩ := h <;> simp

theorem sole_item {b s b' : Text} {v : Json} (hb : IsBlanks b) (hs : Spells s (.value v))
    (hb' : IsBlanks b') (ih : (Part.value v).Sole s) : (Part.entry none v).Sole (b ++ s ++ b') := by
  intro s' name' v' r r' hr hr' h' he
  cases h' with
  | item hc hs' hc' =>
    simp only [List.append_assoc] at he
    have he := eq_of_blanks hb hc (unblank_of_spells hs _) (unblank_of_spells hs' _) he
    obtain ⟨rfl, he⟩ := ih hs' he
    exact ⟨rfl, eq_of_blanks hb' hc' hr.unblank hr'.unblank he⟩
  | @member c g t c' s' _ hc hg hc' hs' =>
    -- the name alone is a document, and a colon comes after it
    have hname : Spells ('"' :: g ++ ['"']) (.value (.text t)) := .text hg
    have he : b ++ (s ++ (b' ++ r)) = c ++ ('"' :: g ++ ['"'] ++ (c' ++ ':' :: (s' ++ r'))) := by
      simpa using he
    have he := eq_of_blanks hb hc (unblank_of_spells hs _) (unblank_of_spells hname _) he
    obtain ⟨-, he⟩ := ih hname he
    have he := eq_of_blanks hb' hc' hr.unblank (unblank_cons (by decide)) he
    exact absurd he hr.ne_colon

theorem sole_member {b g t b' s : Text} {v : Json} (hb : IsBlanks b) (hg : Glyphs g t)
    (hb' : IsBlanks b') (ih : (Part.entry none v).Sole s) :
    (Part.entry (some t) v).Sole (b ++ '"' :: g ++ '"' :: b' ++ ':' :: s) := by
  intro s' name' v' r r' hr hr' h' he
  have hquote : ∀ u : Text, Unblank ('"' :: u) := fun u => unblank_cons (by decide)
  have hcolon : ∀ u : Text, Unblank (':' :: u) := fun u => unblank_cons (by decide)
  cases h' with
  | @item c s' c' v' hc hs' hc' =>
    -- a document with a quote at its start is a text, and after it a colon is left over
    have he : b ++ '"' :: (g ++ '"' :: (b' ++ ':' :: (s ++ r))) = c ++ (s' ++ (c' ++ r')) := by
      simpa using he
    have he := eq_of_blanks hb hc (hquote _) (unblank_of_spells hs' _) he
    obtain ⟨d, u, rfl, hd⟩ := startsWith_of_spells hs'
    obtain rfl : '"' = d := (List.cons.inj he).1
    obtain ⟨t', rfl⟩ := eq_text_of_startsWith hd
    obtain ⟨g', hg's, hg'⟩ := spells_text hs'
    obtain rfl := List.tail_eq_of_cons_eq hg's
    obtain ⟨-, he⟩ := hg.sole hg' (by simpa using he)
    have he := eq_of_blanks hb' hc' (hcolon _) hr'.unblank he
    exact absurd he.symm hr'.ne_colon
  | @member c g' t' c' s' v' hc hg' hc' hs' =>
    have he : b ++ '"' :: (g ++ '"' :: (b' ++ ':' :: (s ++ r))) =
        c ++ '"' :: (g' ++ '"' :: (c' ++ ':' :: (s' ++ r'))) := by
      simpa using he
    have he := List.tail_eq_of_cons_eq (eq_of_blanks hb hc (hquote _) (hquote _) he)
    obtain ⟨rfl, he⟩ := hg.sole hg' he
    have he := List.tail_eq_of_cons_eq (eq_of_blanks hb' hc' (hcolon _) (hcolon _) he)
    obtain ⟨hv, hr⟩ := ih hr hr' hs' he
    obtain rfl := (Prod.mk.inj hv).2
    exact ⟨rfl, hr⟩

theorem sole_one {s : Text} {name : Option Text} {v : Json} (ih : (Part.entry name v).Sole s) :
    (Part.entries [(name, v)]).Sole s := by
  intro s' es' r r' hr hr' h' he
  cases h' with
  | one h' =>
    obtain ⟨hv, hr⟩ := ih hr.ends hr'.ends h' he
    exact ⟨by rw [hv], hr⟩
  | more h' _ =>
    rw [List.append_assoc] at he
    obtain ⟨-, he⟩ := ih hr.ends (.inr (.inl ⟨_, rfl⟩)) h' he
    exact absurd he hr.ne_comma

theorem sole_more {s t : Text} {name : Option Text} {v : Json} {es : List (Option Text × Json)}
    (ih : (Part.entry name v).Sole s) (iht : (Part.entries es).Sole t) :
    (Part.entries ((name, v) :: es)).Sole (s ++ ',' :: t) := by
  intro s' es' r r' hr hr' h' he
  rw [List.append_assoc] at he
  cases h' with
  | one h' =>
    obtain ⟨-, he⟩ := ih (.inr (.inl ⟨_, rfl⟩)) hr'.ends h' he
    exact absurd he.symm hr'.ne_comma
  | more h' ht' =>
    rw [List.append_assoc] at he
    obtain ⟨hv, he⟩ := ih (.inr (.inl ⟨_, rfl⟩)) (.inr (.inl ⟨_, rfl⟩)) h' he
    obtain ⟨rfl, hr⟩ := iht hr hr' ht' (List.tail_eq_of_cons_eq he)
    exact ⟨by rw [hv], hr⟩

/-- Entries between brackets are no blanks. -/
theorem blanks_append_ne {b s r r' : Text} {es : List (Option Text × Json)} (hb : IsBlanks b)
    (hr : Closes r) (h : Spells s (.entries es)) : b ++ r ≠ s ++ r' := by
  intro he
  have hunblank := hr.ends.unblank
  obtain ⟨c, t, rfl, hc⟩ := hr
  obtain ⟨b', c', t', rfl, hb', hblank, hlist, hobject⟩ := entries_eq_append h
  have he : b ++ c :: t = b' ++ c' :: (t' ++ r') := by simpa using he
  obtain ⟨rfl, -⟩ := List.cons.inj (eq_of_blanks hb hb' hunblank (unblank_cons hblank) he)
  exact hc.elim hlist hobject

theorem sole_empty {b : Text} (hb : IsBlanks b) : (Part.inside []).Sole b := by
  intro s' es' r r' hr hr' h' he
  cases h' with
  | empty hb' => exact ⟨rfl, eq_of_blanks hb hb' hr.ends.unblank hr'.ends.unblank he⟩
  | filled h' => exact absurd he (blanks_append_ne hb hr h')

theorem sole_filled {s : Text} {es : List (Option Text × Json)} (h : Spells s (.entries es))
    (ih : (Part.entries es).Sole s) : (Part.inside es).Sole s := by
  intro s' es' r r' hr hr' h' he
  cases h' with
  | empty hb' => exact absurd he.symm (blanks_append_ne hb' hr' h)
  | filled h' => exact ih hr hr' h' he

theorem sole_text {g t : Text} (h : Glyphs g t) :
    (Part.value (.text t)).Sole ('"' :: g ++ ['"']) := by
  intro s' v' r r' h' he
  obtain ⟨c, u, rfl, hc⟩ := startsWith_of_spells h'
  obtain rfl : '"' = c := (List.cons.inj he).1
  obtain ⟨t', rfl⟩ := eq_text_of_startsWith hc
  obtain ⟨g', hs', hg'⟩ := spells_text h'
  obtain rfl := List.tail_eq_of_cons_eq hs'
  obtain ⟨rfl, rfl⟩ := h.sole hg' (by simpa using he)
  exact ⟨rfl, rfl⟩

theorem sole_list {s : Text} {vs : List Json} (ih : (Part.inside (items vs)).Sole s) :
    (Part.value (.list vs)).Sole ('[' :: s ++ [']']) := by
  intro s' v' r r' h' he
  obtain ⟨c, u, rfl, hc⟩ := startsWith_of_spells h'
  obtain rfl : '[' = c := (List.cons.inj he).1
  obtain ⟨vs', rfl⟩ := eq_list_of_startsWith hc
  obtain ⟨m, hs', hm⟩ := spells_list h'
  obtain rfl := List.tail_eq_of_cons_eq hs'
  have hcloses : ∀ u : Text, Closes (']' :: u) := fun u => ⟨_, u, rfl, .inl rfl⟩
  obtain ⟨hvs, hr⟩ := ih (hcloses r) (hcloses r') hm (by simpa using he)
  exact ⟨by rw [items_inj hvs], List.tail_eq_of_cons_eq hr⟩

theorem sole_object {s : Text} {ms : List (Text × Json)} (ih : (Part.inside (members ms)).Sole s) :
    (Part.value (.object ms)).Sole ('\x7b' :: s ++ ['\x7d']) := by
  intro s' v' r r' h' he
  obtain ⟨c, u, rfl, hc⟩ := startsWith_of_spells h'
  obtain rfl : '\x7b' = c := (List.cons.inj he).1
  obtain ⟨ms', rfl⟩ := eq_object_of_startsWith hc
  obtain ⟨m, hs', hm⟩ := spells_object h'
  obtain rfl := List.tail_eq_of_cons_eq hs'
  have hcloses : ∀ u : Text, Closes ('\x7d' :: u) := fun u => ⟨_, u, rfl, .inr rfl⟩
  obtain ⟨hms, hr⟩ := ih (hcloses r) (hcloses r') hm (by simpa using he)
  exact ⟨by rw [members_inj hms], List.tail_eq_of_cons_eq hr⟩

theorem sole_null : (Part.value .null).Sole "null" := by
  intro s' v' r r' h' he
  obtain ⟨c, u, rfl, hc⟩ := startsWith_of_spells h'
  obtain rfl : 'n' = c := (List.cons.inj he).1
  obtain rfl := eq_null_of_startsWith hc
  rw [spells_null h'] at he
  exact ⟨rfl, List.append_cancel_left he⟩

theorem sole_bool (b : Bool) :
    (Part.value (.bool b)).Sole (if b then "true".toList else "false") := by
  intro s' v' r r' h' he
  obtain ⟨c, u, rfl, hc⟩ := startsWith_of_spells h'
  have hstart : c = if b then 't' else 'f' := by
    cases b with
    | true => exact (List.cons.inj he).1.symm
    | false => exact (List.cons.inj he).1.symm
  obtain rfl := eq_bool_of_startsWith b hstart hc
  rw [spells_bool h'] at he
  exact ⟨rfl, List.append_cancel_left he⟩

/-- A part without numbers is alone in being spelled by its stretch. -/
theorem Spells.sole {s : Text} {p : Part} (h : Spells s p) (hp : p.Numberless) : p.Sole s := by
  induction h with
  | null => exact sole_null
  | bool b => exact sole_bool b
  | @number s v hs hv =>
    cases v with
    | int _ => exact absurd hp (by simp [Part.Numberless, numberless])
    | float _ => exact absurd hp (by simp [Part.Numberless, numberless])
    | _ => cases hv
  | text h => exact sole_text h
  | list _ ih => exact sole_list (ih (numberless_items hp))
  | object _ ih => exact sole_object (ih (numberless_members hp))
  | item hb hs hb' ih => exact sole_item hb hs hb' (ih hp)
  | member hb hg hb' _ ih => exact sole_member hb hg hb' (ih hp)
  | one _ ih => exact sole_one (ih (hp _ List.mem_cons_self))
  | more _ _ ih iht =>
    have ht := iht fun e he => hp e (List.mem_cons_of_mem _ he)
    exact sole_more (ih (hp _ List.mem_cons_self)) ht
  | empty hb => exact sole_empty hb
  | filled h ih => exact sole_filled h (ih hp)

/-- A text of a document without numbers is a text of no other document. -/
theorem IsText.sole {s : Text} {v : Json} (h : IsText s v) (hv : v.numberless) {v' : Json} :
    IsText s v' ↔ v' = v := by
  constructor
  · intro h'
    obtain ⟨he, -⟩ := Spells.sole h hv (r := []) (.inl rfl) (.inl rfl) h' rfl
    exact (Prod.mk.inj he).2.symm
  · rintro rfl
    exact h

end ClasspathProbe.Json
