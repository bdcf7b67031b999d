import ClasspathProbe.Proofs.Log.Setup

/-!
# Layouts that fit every record

What a layout shows of a record is put together from what its pieces show (`Layout.render?_pieces`).
So a layout fits every record when it consists of plain characters, percent signs and fields for parts
of records, each shown as a text, or in digits when it is a whole number (`Layout.render?_fitting`).
The layout of settings that name none is such a one.
-/

namespace ClasspathProbe.Log.Layout

variable {parts : List (Text × Part)} {now : Text} {scene : Scene} {r : Record}

/-! ## Pieces of layouts -/

/-- A piece of a layout: a character that stands for itself, a percent sign, or a field without
flags, width and precision. -/
inductive Piece where
  | plain (c : Char)
  | percent
  | field (name : Text) (conversion : Char)

namespace Piece

def toText : Piece → Text
  | .plain c => [c]
  | .percent => "%%"
  | .field name c => '%' :: '(' :: name ++ [')', c]

/-- What a piece shows of a record with some parts, when it fits. -/
def show? (parts : List (Text × Part)) : Piece → Option Text
  | .plain c => some [c]
  | .percent => some ['%']
  | .field name c => (parts.lookup name).bind (Part.put? ⟨[], none, none, c⟩)

/-- What a piece that fits shows. -/
def shown (parts : List (Text × Part)) (piece : Piece) : Text := (piece.show? parts).getD []

/-- Letters that a field ends with when nothing stands in front of them. -/
def conversions : Text := ['s', 'r', 'a', 'd']

/-- Whether a piece is read as it is written. -/
def IsRead : Piece → Prop
  | .plain c => c ≠ '%'
  | .percent => True
  | .field name c => ')' ∉ name ∧ c ∈ conversions

end Piece

theorem readSpec_conversion {c : Char} (h : c ∈ Piece.conversions) (rest : Text) :
    readSpec (c :: rest) = some (⟨[], none, none, c⟩, rest) := by
  simp only [Piece.conversions, List.mem_cons, List.not_mem_nil, or_false] at h
  rcases h with rfl | rfl | rfl | rfl <;> rfl

theorem fill_plain {c : Char} (h : c ≠ '%') (whole : Option Part) (fuel : Nat) (s : Text) :
    fill parts whole (fuel + 1) (c :: s) = (fill parts whole fuel s).map (c :: ·) := by
  rw [fill]
  · rintro s' rfl
    exact absurd rfl h
  · rintro s' rfl
    exact absurd rfl h
  · rintro rfl
    exact h rfl

/-- Behind a field with a name, no field shows the whole record. -/
theorem fill_field {name : Text} {c : Char} (hname : ')' ∉ name) (hc : c ∈ Piece.conversions)
    (whole : Option Part) (fuel : Nat) (s : Text) :
    fill parts whole (fuel + 1) ((Piece.field name c).toText ++ s) =
      ((Piece.field name c).show? parts).bind fun shown =>
        (fill parts none fuel s).map (shown ++ ·) := by
  have hlayout : (Piece.field name c).toText ++ s = '%' :: '(' :: (name ++ ')' :: c :: s) := by
    simp [Piece.toText]
  have htake : (name ++ ')' :: c :: s).takeWhile (· ≠ ')') = name := by
    rw [List.takeWhile_append_of_pos fun d hd => decide_eq_true (ne_of_mem_of_not_mem hd hname)]
    simp
  have hdrop : (name ++ ')' :: c :: s).drop (name.length + 1) = c :: s := by
    rw [← List.drop_drop, List.drop_left]
    rfl
  rw [hlayout, fill]
  dsimp only
  rw [htake, hdrop, readSpec_conversion hc, Piece.show?]
  cases parts.lookup name with
  | none => rfl
  | some part =>
    cases hput : part.put? ⟨[], none, none, c⟩ with
    | none => simp [hput]
    | some shown => cases hrest : fill parts none fuel s <;> simp [hput, hrest]

theorem fill_piece {piece : Piece} (h : piece.IsRead) (whole : Option Part) :
    ∃ whole', ∀ fuel s, fill parts whole (fuel + 1) (piece.toText ++ s) =
      (piece.show? parts).bind fun shown => (fill parts whole' fuel s).map (shown ++ ·) := by
  cases piece with
  | plain c => exact ⟨whole, fill_plain h whole⟩
  | percent => exact ⟨whole, fun _ _ => rfl⟩
  | field name c => exact ⟨none, fill_field h.1 h.2 whole⟩

/-- What a layout shows is what its pieces show, one after the other. By induction on them; every
piece takes one step, and a layout has no fewer characters than pieces. -/
theorem fill_pieces {pieces : List Piece} (hread : ∀ p ∈ pieces, p.IsRead)
    (hfits : ∀ p ∈ pieces, (p.show? parts).isSome) (whole : Option Part) {fuel : Nat}
    (hfuel : pieces.length < fuel) :
    fill parts whole fuel (pieces.flatMap Piece.toText) =
      some (pieces.flatMap (Piece.shown parts)) := by
  induction pieces generalizing whole fuel with
  | nil => cases fuel <;> rfl
  | cons piece pieces ih =>
    obtain ⟨hpiece, hpieces⟩ := List.forall_mem_cons.1 hread
    obtain ⟨hfit, hrest⟩ := List.forall_mem_cons.1 hfits
    obtain ⟨shown, hshown⟩ := Option.isSome_iff_exists.1 hfit
    obtain ⟨whole', hstep⟩ := fill_piece hpiece whole
    cases fuel with
    | zero => cases hfuel
    | succ fuel =>
      rw [List.flatMap_cons, hstep, ih hpieces hrest whole' (Nat.lt_of_succ_lt_succ hfuel),
        List.flatMap_cons, Piece.shown, hshown]
      rfl

theorem length_le_pieces (pieces : List Piece) :
    pieces.length ≤ (pieces.flatMap Piece.toText).length := by
  induction pieces with
  | nil => exact Nat.zero_le _
  | cons piece pieces ih =>
    have hpiece : 0 < piece.toText.length := by cases piece <;> simp [Piece.toText]
    rw [List.flatMap_cons, List.length_append, List.length_cons]
    omega

theorem render?_pieces {pieces : List Piece} (hread : ∀ p ∈ pieces, p.IsRead)
    (hfits : ∀ p ∈ pieces, (p.show? parts).isSome) :
    render? parts (pieces.flatMap Piece.toText) = some (pieces.flatMap (Piece.shown parts)) :=
  fill_pieces hread hfits _ (Nat.lt_succ_of_le (length_le_pieces pieces))

/-! ## Parts of records -/

/-- The names of the parts of records. -/
def partNames : List Text := (Layout.parts [] {} ⟨[], 0, []⟩).map Prod.fst

/-- The names of the parts that are whole numbers. -/
def wholeNames : List Text := ["levelno", "lineno", "thread", "process"]

/-- Whether a piece fits every record: a field does that shows a part as a text, or a whole number
in digits. -/
def Piece.Fits : Piece → Prop
  | .plain c => c ≠ '%'
  | .percent => True
  | .field name c => name ∈ partNames ∧ (c = 's' ∨ c = 'r' ∨ c = 'a' ∨ c = 'd' ∧ name ∈ wholeNames)

/-- The parts of all records have the same names. -/
theorem exists_lookup_parts (now : Text) (scene : Scene) (r : Record) {name : Text}
    (h : name ∈ partNames) : ∃ part, (Layout.parts now scene r).lookup name = some part := by
  have hnames : name ∈ (Layout.parts now scene r).map Prod.fst := h
  cases hpart : (Layout.parts now scene r).lookup name with
  | some part => exact ⟨part, rfl⟩
  | none =>
    rw [List.lookup_eq_none_iff] at hpart
    obtain ⟨named, hmem, rfl⟩ := List.mem_map.1 hnames
    simpa using hpart named hmem

theorem exists_lookup_whole (now : Text) (scene : Scene) (r : Record) {name : Text}
    (h : name ∈ wholeNames) : ∃ n, (Layout.parts now scene r).lookup name = some (.whole n) := by
  simp only [wholeNames, List.mem_cons, List.not_mem_nil, or_false] at h
  rcases h with rfl | rfl | rfl | rfl <;> exact ⟨_, rfl⟩

namespace Piece.Fits

variable {piece : Piece}

theorem isRead (h : piece.Fits) : piece.IsRead := by
  cases piece with
  | field name c =>
    have hclean : ∀ n ∈ partNames, ')' ∉ n := by decide
    refine ⟨hclean name h.1, ?_⟩
    rcases h.2 with rfl | rfl | rfl | ⟨rfl, -⟩ <;> decide
  | _ => exact h

theorem isSome_show? (h : piece.Fits) (now : Text) (scene : Scene) (r : Record) :
    (piece.show? (Layout.parts now scene r)).isSome := by
  cases piece with
  | field name c =>
    obtain ⟨hname, hc⟩ := h
    obtain ⟨part, hpart⟩ := exists_lookup_parts now scene r hname
    rw [show?, hpart]
    rcases hc with rfl | rfl | rfl | ⟨rfl, hwhole⟩
    · rfl
    · rfl
    · rfl
    · obtain ⟨n, hn⟩ := exists_lookup_whole now scene r hwhole
      obtain rfl := Option.some.inj (hpart.symm.trans hn)
      rfl
  | _ => rfl

end Piece.Fits

/-- A layout of pieces that fit shows every record. -/
theorem render?_fitting {pieces : List Piece} (h : ∀ p ∈ pieces, p.Fits) (now : Text)
    (scene : Scene) (r : Record) :
    render? (Layout.parts now scene r) (pieces.flatMap Piece.toText) =
      some (pieces.flatMap (Piece.shown (Layout.parts now scene r))) :=
  render?_pieces (fun p hp => (h p hp).isRead) fun p hp => (h p hp).isSome_show? now scene r

/-- The layout of settings that name none shows the logger and the text. -/
theorem render?_default (now : Text) (scene : Scene) (r : Record) :
    render? (Layout.parts now scene r) ({} : LoggingSettings).format =
      some ("[".toList ++ r.logger ++ "] ".toList ++ r.text) := by
  let pieces : List Piece :=
    [.plain '[', .field "name" 's', .plain ']', .plain ' ', .field "message" 's']
  have hfits : ∀ p ∈ pieces, p.Fits := by
    simp [pieces, Piece.Fits, partNames, Layout.parts]
  have hshown := render?_fitting hfits now scene r
  have hlayout : pieces.flatMap Piece.toText = ({} : LoggingSettings).format := rfl
  rw [hlayout] at hshown
  rw [hshown]
  simp [pieces, Piece.shown, Piece.show?, Layout.parts, List.lookup_cons, Part.put?, Part.shown,
    putText, widened]

end ClasspathProbe.Log.Layout
