import ClasspathProbe.Text.Raw

/-!
# Decoding with replacement

The decoder is a run of one step for each byte (`feed`), so what holds of every step holds of the
text. A character that has begun can only become one above ASCII (`Pending.Sound`), and a byte below
0x80 always ends what has begun and stands for itself (`feed_ascii`). So the decoder starts afresh
behind such a byte (`decode_append_cons`), and the ASCII characters of a text are the bytes below
0x80 (`filter_decode`). What was encoded is read back (`decode_encode`).
-/

namespace ClasspathProbe.Utf8

variable {p : Pending} {state : Option Pending} {b : UInt8} {bs : List UInt8}

/-! ## One byte -/

/-- What is left to write when the bytes end, or when what has begun cannot go on. -/
def flush : Option Pending → Text
  | none => []
  | some _ => [replacement]

/-- What is written for the first byte of a character, and what has begun with it. -/
def feedFirst (b : UInt8) : Text × Option Pending :=
  match lead b with
  | .whole c => ([c], none)
  | .opens p => ([], some p)
  | .wrong => ([replacement], none)

/-- What is written for a byte, and what has begun after it. -/
def feed : Option Pending → UInt8 → Text × Option Pending
  | none, b => feedFirst b
  | some p, b =>
    match p.step b with
    | some (.whole c) => ([c], none)
    | some (.opens q) => ([], some q)
    | some .wrong | none => (replacement :: (feedFirst b).1, (feedFirst b).2)

theorem decodeFrom_nil (state : Option Pending) : decodeFrom state [] = flush state := by
  cases state <;> rfl

theorem decodeFrom_cons (state : Option Pending) (b : UInt8) (bs : List UInt8) :
    decodeFrom state (b :: bs) = (feed state b).1 ++ decodeFrom (feed state b).2 bs := by
  cases state with
  | none =>
    rw [decodeFrom, feed, feedFirst]
    cases lead b <;> rfl
  | some p =>
    rw [decodeFrom, feed]
    cases p.step b with
    | none => cases hlead : lead b <;> simp [feedFirst, hlead]
    | some next =>
      cases next with
      | wrong => cases hlead : lead b <;> simp [feedFirst, hlead]
      | _ => rfl

/-! ## Characters that have begun -/

/-- Whether whatever six bits come, as often as they are owed, make a character above ASCII out of
some bits. -/
def Finishes (bits : Nat) : (owed : Nat) → Prop
  | 0 => 0x80 ≤ bits ∧ bits.isValidChar
  | owed + 1 => ∀ six < 64, Finishes (bits * 64 + six) owed

/-- A character that has begun is owed no byte below 0x80, and becomes one above ASCII. -/
structure Pending.Sound (p : Pending) : Prop where
  low : 0x80 ≤ p.low
  finishes : ∀ n, p.low ≤ n → n ≤ p.high → Finishes (p.bits * 64 + n % 64) (p.owed - 1)

theorem lead_sound (h : lead b = .opens p) : p.Sound := by
  rw [lead.eq_def] at h
  dsimp only at h
  repeat' split at h
  all_goals try simp only [reduceCtorEq] at h
  all_goals
    rw [← Lead.opens.inj h]
    refine ⟨Nat.le_of_ble_eq_true rfl, ?_⟩
    simp only [Nat.reduceSub, Finishes, Nat.isValidChar]
    intros
    omega

theorem Pending.Sound.step {next : Lead} (hp : p.Sound) (h : p.step b = some next) :
    (∃ n, next = .whole (Char.ofNat n) ∧ 0x80 ≤ n ∧ n.isValidChar) ∨
      ∃ q, next = .opens q ∧ q.Sound := by
  rw [Pending.step] at h
  split at h
  next hbounds =>
    have hfinishes := hp.finishes b.toNat hbounds.1 hbounds.2
    split at h
    next howed =>
      obtain rfl := Option.some.inj h
      have hlast : p.owed - 1 = 0 := by omega
      rw [hlast] at hfinishes
      exact .inl ⟨_, rfl, hfinishes⟩
    next howed =>
      obtain rfl := Option.some.inj h
      refine .inr ⟨_, rfl, Nat.le_refl _, fun n _ _ => ?_⟩
      have hmore : p.owed - 1 = p.owed - 1 - 1 + 1 := by omega
      rw [hmore] at hfinishes
      exact hfinishes (n % 64) (Nat.mod_lt _ (by decide))
  next => cases h

theorem lead_of_ascii (hb : b.toNat < 0x80) : lead b = .whole (Char.ofNat b.toNat) := by
  rw [lead.eq_def]
  exact if_pos hb

theorem Pending.Sound.step_of_ascii (hp : p.Sound) (hb : b.toNat < 0x80) : p.step b = none := by
  have := hp.low
  rw [Pending.step]
  exact if_neg fun hbounds => by omega

/-- Whether what has begun, if anything, is sound. -/
def Sound (state : Option Pending) : Prop := ∀ p ∈ state, p.Sound

theorem sound_none : Sound none := by
  intro p h
  cases h

theorem feedFirst_sound (b : UInt8) : Sound (feedFirst b).2 := by
  rw [feedFirst]
  cases hlead : lead b with
  | opens p =>
    intro q hq
    obtain rfl := Option.some.inj hq
    exact lead_sound hlead
  | _ => exact sound_none

theorem feed_sound (hstate : Sound state) (b : UInt8) : Sound (feed state b).2 := by
  cases state with
  | none => exact feedFirst_sound b
  | some p =>
    rw [feed]
    split
    next => exact sound_none
    next q hstep =>
      intro r hr
      obtain rfl := Option.some.inj hr
      obtain ⟨_, h, _⟩ | ⟨_, h, hq⟩ := (hstate p rfl).step hstep
      · cases h
      · cases h
        exact hq
    all_goals exact feedFirst_sound b

/-! ## Bytes below 0x80 -/

/-- A byte below 0x80 ends what has begun, and stands for itself. -/
theorem feed_ascii (hstate : Sound state) (hb : b.toNat < 0x80) :
    feed state b = (flush state ++ [Char.ofNat b.toNat], none) := by
  cases state with
  | none => simp [feed, feedFirst, flush, lead_of_ascii hb]
  | some p => simp [feed, feedFirst, flush, lead_of_ascii hb, (hstate p rfl).step_of_ascii hb]

theorem decodeFrom_append_cons (hstate : Sound state) (a : List UInt8) (hb : b.toNat < 0x80)
    (bs : List UInt8) :
    decodeFrom state (a ++ b :: bs) =
      decodeFrom state a ++ Char.ofNat b.toNat :: decode bs := by
  induction a generalizing state with
  | nil => simp [decodeFrom_cons, decodeFrom_nil, feed_ascii hstate hb, decode]
  | cons x a ih =>
    rw [List.cons_append, decodeFrom_cons, decodeFrom_cons, ih (feed_sound hstate x),
      List.append_assoc]

/-- The decoder starts afresh behind a byte below 0x80. -/
theorem decode_append_cons (a : List UInt8) (hb : b.toNat < 0x80) (bs : List UInt8) :
    decode (a ++ b :: bs) = decode a ++ Char.ofNat b.toNat :: decode bs :=
  decodeFrom_append_cons sound_none a hb bs

/-- A character that was cut off before the end of a line leaves the next line alone. -/
example : decode [0xe2, 0x82, 0x0a, 0x41] = [replacement, '\n', 'A'] := rfl

theorem toNat_ofNat {n : Nat} (h : n.isValidChar) : (Char.ofNat n).toNat = n := by
  rw [Char.ofNat, dif_pos h]
  rfl

/-- Whether a character is one that a single byte stands for. -/
def isAscii (c : Char) : Bool := c.toNat < 0x80

theorem isAscii_replacement : isAscii replacement = false := by decide

theorem isAscii_ofNat {n : Nat} (h : n.isValidChar) : isAscii (Char.ofNat n) = decide (n < 0x80) := by
  rw [isAscii, toNat_ofNat h]

theorem filter_flush (state : Option Pending) : (flush state).filter isAscii = [] := by
  cases state <;> rfl

/-- The first byte of a longer character writes nothing below 0x80. -/
theorem filter_feedFirst (hb : ¬ b.toNat < 0x80) : (feedFirst b).1.filter isAscii = [] := by
  rw [feedFirst]
  cases hlead : lead b with
  | whole c =>
    rw [lead.eq_def] at hlead
    dsimp only at hlead
    rw [if_neg hb] at hlead
    repeat' split at hlead
    all_goals simp only [reduceCtorEq] at hlead
  | opens p => rfl
  | wrong => rfl

/-- The characters below 0x80 that a byte writes: itself, if it is below 0x80. -/
theorem filter_feed (hstate : Sound state) (b : UInt8) :
    (feed state b).1.filter isAscii =
      if b.toNat < 0x80 then [Char.ofNat b.toNat] else [] := by
  by_cases hb : b.toNat < 0x80
  · have hvalid : b.toNat.isValidChar := .inl (by omega)
    simp [feed_ascii hstate hb, filter_flush, isAscii_ofNat hvalid, hb]
  rw [if_neg hb]
  cases state with
  | none => exact filter_feedFirst hb
  | some p =>
    rw [feed]
    split
    next c hstep =>
      obtain ⟨n, h, hlow, hvalid⟩ | ⟨_, h, _⟩ := (hstate p rfl).step hstep
      · obtain rfl := Lead.whole.inj h
        simp [isAscii_ofNat hvalid, hlow]
      · cases h
    next => rfl
    all_goals simp [isAscii_replacement, filter_feedFirst hb]

theorem filter_decodeFrom (hstate : Sound state) (bytes : List UInt8) :
    (decodeFrom state bytes).filter isAscii =
      (bytes.filter (·.toNat < 0x80)).map (Char.ofNat ·.toNat) := by
  induction bytes generalizing state with
  | nil => rw [decodeFrom_nil, filter_flush]; rfl
  | cons b bytes ih =>
    rw [decodeFrom_cons, List.filter_append, filter_feed hstate, ih (feed_sound hstate b)]
    by_cases hb : b.toNat < 0x80 <;> simp [hb]

/-- The characters below 0x80 of a text are the bytes below 0x80, as many and in the same order. -/
theorem filter_decode (bytes : List UInt8) :
    (decode bytes).filter isAscii = (bytes.filter (·.toNat < 0x80)).map (Char.ofNat ·.toNat) :=
  filter_decodeFrom sound_none bytes

/-! ## What was encoded -/

theorem toNat_toUInt8 {n : Nat} (h : n < 256) : n.toUInt8.toNat = n :=
  UInt8.toNat_ofNat_of_lt' h

variable {m bits owed low high : Nat}

theorem lead_of_two (hlow : 2 ≤ m) (hhigh : m < 0x20) :
    lead (0xc0 + m).toUInt8 = .opens ⟨m, 1, 0x80, 0xbf⟩ := by
  rw [lead.eq_def, toNat_toUInt8 (by omega)]
  dsimp only
  rw [if_neg (by omega), if_neg (by omega), if_pos (by omega), Nat.add_sub_cancel_left]

/-- The bounds of the second byte of three keep overlong forms and surrogates out. -/
theorem lead_of_three (hhigh : m < 0x10) :
    lead (0xe0 + m).toUInt8 =
      .opens ⟨m, 2, if m = 0 then 0xa0 else 0x80, if m = 0xd then 0x9f else 0xbf⟩ := by
  rw [lead.eq_def, toNat_toUInt8 (by omega)]
  dsimp only
  rw [if_neg (by omega), if_neg (by omega), if_neg (by omega), if_pos (by omega : 0xe0 + m < 0xf0),
    Nat.add_sub_cancel_left]
  split
  next hm =>
    obtain rfl : m = 0 := by omega
    rfl
  split
  next hm =>
    obtain rfl : m = 0xd := by omega
    rfl
  rw [if_neg (by omega), if_neg (by omega)]

/-- The bounds of the second byte of four keep overlong forms and numbers above U+10FFFF out. -/
theorem lead_of_four (hhigh : m < 5) :
    lead (0xf0 + m).toUInt8 =
      .opens ⟨m, 3, if m = 0 then 0x90 else 0x80, if m = 4 then 0x8f else 0xbf⟩ := by
  obtain rfl | rfl | rfl | rfl | rfl : m = 0 ∨ m = 1 ∨ m = 2 ∨ m = 3 ∨ m = 4 := by omega
  all_goals rfl

theorem decode_opens (h : lead b = .opens p) : decode (b :: bs) = decodeFrom (some p) bs := by
  rw [decode, decodeFrom, h]

theorem decodeFrom_last (hm : m < 64) (hlow : low ≤ 0x80 + m) (hhigh : 0x80 + m ≤ high) :
    decodeFrom (some ⟨bits, 1, low, high⟩) ((0x80 + m).toUInt8 :: bs) =
      Char.ofNat (bits * 64 + m) :: decode bs := by
  have hbits : (0x80 + m) % 64 = m := by omega
  rw [decodeFrom, Pending.step, toNat_toUInt8 (by omega)]
  simp only [hlow, hhigh, hbits, Nat.le_refl, and_self, ↓reduceIte]
  rfl

theorem decodeFrom_later (hm : m < 64) (hlow : low ≤ 0x80 + m) (hhigh : 0x80 + m ≤ high) :
    decodeFrom (some ⟨bits, owed + 2, low, high⟩) ((0x80 + m).toUInt8 :: bs) =
      decodeFrom (some ⟨bits * 64 + m, owed + 1, 0x80, 0xbf⟩) bs := by
  have hbits : (0x80 + m) % 64 = m := by omega
  have howed : ¬owed + 2 ≤ 1 := by omega
  rw [decodeFrom, Pending.step, toNat_toUInt8 (by omega)]
  simp only [hlow, hhigh, hbits, howed, and_self, ↓reduceIte]
  rfl

/-- The bytes of a character are read as it, one case for each number of them. -/
theorem decode_encodeChar_append (c : Char) (bs : List UInt8) :
    decode (encodeChar c ++ bs) = c :: decode bs := by
  have hvalid : c.toNat.isValidChar := c.valid
  rw [Nat.isValidChar] at hvalid
  conv => rhs; rw [← Char.ofNat_toNat c]
  rw [encodeChar]
  generalize c.toNat = n at hvalid ⊢
  split
  next hn =>
    have hb : n.toUInt8.toNat = n := toNat_toUInt8 (by omega)
    have := decode_append_cons [] (b := n.toUInt8) (by omega) bs
    rwa [hb] at this
  split
  next hn =>
    have hbits : n / 64 * 64 + n % 64 = n := by omega
    simp only [List.cons_append, List.nil_append]
    rw [decode_opens (lead_of_two (by omega) (by omega)),
      decodeFrom_last (by omega) (by omega) (by omega), hbits]
  split
  next hn =>
    have hbits : (n / 4096 * 64 + n / 64 % 64) * 64 + n % 64 = n := by omega
    simp only [List.cons_append, List.nil_append]
    rw [decode_opens (lead_of_three (by omega)),
      decodeFrom_later (by omega) (by split <;> omega) (by split <;> omega),
      decodeFrom_last (by omega) (by omega) (by omega), hbits]
  next hn =>
    have hbits :
        ((n / 262144 * 64 + n / 4096 % 64) * 64 + n / 64 % 64) * 64 + n % 64 = n := by omega
    simp only [List.cons_append, List.nil_append]
    rw [decode_opens (lead_of_four (by omega)),
      decodeFrom_later (by omega) (by split <;> omega) (by split <;> omega),
      decodeFrom_later (by omega) (by omega) (by omega),
      decodeFrom_last (by omega) (by omega) (by omega), hbits]

/-- What was encoded is read back. -/
theorem decode_encode (s : Text) : decode (encode s) = s := by
  induction s with
  | nil => rfl
  | cons c s ih =>
    have : encode (c :: s) = encodeChar c ++ encode s := List.flatMap_cons
    rw [this, decode_encodeChar_append, ih]

theorem length_le_encode (s : Text) : s.length ≤ (encode s).length := by
  have hchar (c : Char) : 1 ≤ (encodeChar c).length := by
    rw [encodeChar]
    repeat' split
    all_goals simp
  induction s with
  | nil => exact Nat.zero_le _
  | cons c s ih =>
    have : encode (c :: s) = encodeChar c ++ encode s := List.flatMap_cons
    rw [this, List.length_append, List.length_cons]
    have := hchar c
    omega

end ClasspathProbe.Utf8
