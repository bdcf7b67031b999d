import Mathlib.Data.List.Flatten
import ClasspathProbe.Proofs.FileTree.Written
import ClasspathProbe.Proofs.Path

/-!
# New files

A file is made under a name that is free. The path it was made under, read and shown again as a path
is, leads to the file as long as it is there (`FreeAt.locate_written`), so reading, writing and
removing by that path meet the file that was made and nothing else.
-/

namespace ClasspathProbe.FileTree

variable {t t' : FileTree} {aim : Aim} {here place : Location} {path n : Text}

/-! ## Names that ask for nothing -/

/-- A name that leaves a walk where it is. -/
abbrev IsIdle (name : Text) : Prop := name = [] ∨ name = ['.']

/-- The second list is the first with some idle names left out. -/
inductive Skips : List Text → List Text → Prop where
  | nil : Skips [] []
  | keep (name : Text) {names names' : List Text} (rest : Skips names names') :
      Skips (name :: names) (name :: names')
  | skip {name : Text} {names names' : List Text} (idle : IsIdle name)
      (rest : Skips names names') : Skips (name :: names) names'

namespace Skips

variable {names names' more more' : List Text}

theorem refl : (names : List Text) → Skips names names
  | [] => .nil
  | name :: names => .keep name (refl names)

theorem append (h : Skips names names') (hmore : Skips more more') :
    Skips (names ++ more) (names' ++ more') := by
  induction h with
  | nil => exact hmore
  | keep name _ ih => exact .keep name ih
  | skip idle _ ih => exact .skip idle ih

theorem eq_nil (h : Skips [] names') : names' = [] := by
  cases h
  rfl

theorem isIdle (h : Skips names []) : ∀ name ∈ names, IsIdle name := by
  induction names with
  | nil => simp
  | cons name names ih =>
    cases h with
    | skip idle rest => exact List.forall_mem_cons.2 ⟨idle, ih rest⟩

/-- Reading a path leaves out the idle names on the way. -/
theorem steps_partsOf (path : Text) : Skips (steps path) (Path.partsOf path) := by
  have hslash : ∀ name ∈ Text.pieces '/' path, '/' ∉ name := fun _ =>
    Text.not_mem_of_mem_pieces
  have hnames : ∀ names : List Text, (∀ name ∈ names, '/' ∉ name) →
      Skips (names.filter (!·.isEmpty)) (names.filter fun p => decide (Path.IsPart p)) := by
    intro names
    induction names with
    | nil => exact fun _ => .nil
    | cons name names ih =>
      intro h
      obtain ⟨hname, hrest⟩ := List.forall_mem_cons.1 h
      by_cases hempty : name = []
      · simpa [hempty, Path.IsPart] using ih hrest
      · by_cases hdot : name = ['.']
        · simpa [hdot, Path.IsPart] using .skip (.inr rfl) (ih hrest)
        · simpa [hempty, hdot, hname, Path.IsPart] using .keep name (ih hrest)
  rw [steps, Path.partsOf]
  split
  · rw [← List.append_nil (List.filter (fun p => decide (Path.IsPart p)) _)]
    exact (hnames _ hslash).append (.skip (.inl rfl) .nil)
  · exact hnames _ hslash

end Skips

/-! ## Walks to a free name -/

/-- Whether the last of some names is this one, and asks for something. -/
def EndsIn (names : List Text) (n : Text) : Prop := names.getLast? = some n ∧ ¬IsIdle n

theorem EndsIn.cons {names : List Text} (h : EndsIn names n) (name : Text) :
    EndsIn (name :: names) n := by
  refine ⟨?_, h.2⟩
  rw [List.getLast?_cons, h.1]
  rfl

theorem EndsIn.of_append {front names : List Text} (h : EndsIn (front ++ names) n)
    (hne : names ≠ []) : EndsIn names n := by
  refine ⟨?_, h.2⟩
  have hlast := h.1
  rw [List.getLast?_append, List.getLast?_eq_some_getLast hne] at hlast
  rw [List.getLast?_eq_some_getLast hne]
  exact hlast

/-- A walk for a new file that ends at a free name ends with the last of its names. -/
theorem descend_endsIn {jump : Location → List Text → Except Refusal Spot}
    (hjump : ∀ here names d n, jump here names = .ok (.free d n) → EndsIn names n)
    {names : List Text} {d : Location} (h : t.descend .newFile jump here names = .ok (.free d n)) :
    EndsIn names n := by
  induction names generalizing here with
  | nil => simp [descend] at h
  | cons name rest ih =>
    rw [descend] at h
    split at h
    · exact (ih h).cons name
    next hidle =>
    split at h
    · exact (ih h).cons name
    split at h
    · simp at h
    split at h
    · simp at h
    split at h
    · split at h
      · next hrest =>
        obtain ⟨rfl, rfl⟩ := Spot.free.inj (Except.ok.inj h)
        exact ⟨by rw [hrest]; rfl, hidle⟩
      · simp at h
    · exact (ih h).cons name
    · split at h <;> simp at h
    · split at h
      · simp at h
      · next hrest =>
        exact ((hjump _ _ _ _ h).of_append fun hnil => hrest ⟨hnil, rfl⟩).cons name

/-- Idle names do not matter on the way to a free name, whatever the path is looked up for. -/
theorem descend_skips (haim : aim.makes = false)
    {jump jump' : Location → List Text → Except Refusal Spot}
    (hends : ∀ here names d n, jump here names = .ok (.free d n) → EndsIn names n)
    (hjump : ∀ here names names' d n, Skips names names' → jump here names = .ok (.free d n) →
      jump' here names' = .ok (.free d n)) {names names' : List Text} {d : Location}
    (hskips : Skips names names') (h : t.descend .newFile jump here names = .ok (.free d n)) :
    t.descend aim jump' here names' = .ok (.free d n) := by
  induction hskips generalizing here with
  | nil => simp [descend] at h
  | skip idle _ ih =>
    rw [descend, if_pos idle] at h
    exact ih h
  | @keep name rest rest' hskips ih =>
    have hmakes : ¬(aim.makes = true ∧ rest' = [[]]) := by simp [haim]
    rw [descend] at h ⊢
    split at h
    · next hidle =>
      rw [if_pos hidle]
      exact ih h
    next hidle =>
    rw [if_neg hidle]
    split at h
    · next hup =>
      rw [if_pos hup]
      exact ih h
    next hup =>
    rw [if_neg hup, if_neg hmakes]
    split at h
    · simp at h
    split at h
    · simp at h
    next hlong =>
    rw [if_neg hlong]
    split at h
    · split at h
      · next hrest =>
        subst hrest
        rw [if_pos hskips.eq_nil]
        exact h
      · simp at h
    · exact ih h
    · split at h <;> simp at h
    · split at h
      · simp at h
      · next hnot =>
        -- names that end at a free name are not all idle, so something is still to go
        have hrest : ¬(rest' = [] ∧ aim.follows = false) := by
          rintro ⟨rfl, -⟩
          obtain ⟨hlast, hidle⟩ :=
            (hends _ _ _ _ h).of_append fun hnil => hnot ⟨hnil, rfl⟩
          exact hidle (hskips.isIdle _ (List.mem_of_getLast? hlast))
        rw [if_neg hrest]
        exact hjump _ _ _ _ _ ((Skips.refl _).append hskips) h

theorem walk_endsIn {links : Nat} {names : List Text} {d : Location}
    (h : t.walk .newFile links here names = .ok (.free d n)) : EndsIn names n := by
  induction links generalizing here names d n with
  | zero => exact descend_endsIn (by simp) h
  | succ links ih => exact descend_endsIn (fun _ _ _ _ => ih) h

theorem walk_skips (haim : aim.makes = false) {links : Nat} {names names' : List Text}
    {d : Location} (hskips : Skips names names')
    (h : t.walk .newFile links here names = .ok (.free d n)) :
    t.walk aim links here names' = .ok (.free d n) := by
  induction links generalizing here names names' d n with
  | zero => exact descend_skips haim (by simp) (by simp) hskips h
  | succ links ih =>
    have hends : ∀ here names d n, t.walk .newFile links here names = .ok (.free d n) →
        EndsIn names n := fun _ _ _ _ => walk_endsIn
    exact descend_skips haim hends (fun _ _ _ _ _ => ih) hskips h

/-! ## Free paths -/

/-- Whether a file can be made under a path, at a place where nothing is. -/
def FreeAt (t : FileTree) (here : Location) (path : Text) (place : Location) : Prop :=
  ∃ d n, t.locate here .newFile path = .ok (.free d n) ∧ place = d ++ [n]

theorem steps_toText {p : Path} (hne : p.parts ≠ []) : steps p.toText = p.parts := by
  have hpieces := Path.pieces_joined p.isPart hne
  have hparts : ∀ part ∈ p.parts, part ≠ [] := fun part h => (p.isPart part h).1
  have hempty : Text.joined ['/'] p.parts ≠ [] := by
    intro h
    rw [h] at hpieces
    exact hparts [] (by rw [← hpieces]; simp [Text.pieces]) rfl
  have hfilter : p.parts.filter (!·.isEmpty) = p.parts :=
    List.filter_eq_self.2 fun part h => by simpa using hparts part h
  -- a slash at the end would leave an empty part
  have hend : ¬['/'] <:+ Text.joined ['/'] p.parts := by
    rintro ⟨front, h⟩
    refine hparts [] ?_ rfl
    rw [← hpieces, ← h]
    exact Text.nil_mem_pieces '/' front
  have hslash : Text.endsWith ['/'] p.toText = false := by
    rw [Path.toText_of_ne fun h => hne h.2, Text.endsWith, Bool.eq_false_iff]
    intro h
    rw [List.isSuffixOf_iff_suffix, List.singleton_suffix_iff_getLast?_eq_some,
      List.getLast?_append, List.getLast?_eq_some_getLast hempty] at h
    rw [List.singleton_suffix_iff_getLast?_eq_some, List.getLast?_eq_some_getLast hempty] at hend
    exact hend h
  rw [steps, hslash, Path.toText_of_ne fun h => hne h.2]
  cases hroot : p.root with
  | here => simp [Path.Root.toText, hpieces, hfilter]
  | slash => simp [Path.Root.toText, Text.pieces, hpieces, hfilter]
  | twoSlashes => simp [Path.Root.toText, Text.pieces, hpieces, hfilter]

/-- The path of a new file can be spelled as paths are shown. -/
theorem locate_toText (haim : aim.makes = false) {d : Location} (habs : path.head? = some '/')
    (h : t.locate here .newFile path = .ok (.free d n)) :
    t.locate here aim (Path.ofText path).toText = .ok (.free d n) := by
  have hsub := Path.toText_ofText_sublist habs
  have hskips := Skips.steps_partsOf path
  rw [locate] at h
  split at h
  · simp at h
  split at h
  · simp at h
  next hlong =>
  have hparts : Path.partsOf path ≠ [] := by
    intro hnil
    obtain ⟨hlast, hidle⟩ := walk_endsIn h
    rw [hnil] at hskips
    exact hidle (hskips.isIdle n (List.mem_of_getLast? hlast))
  have hroot : (Path.ofText path).root ≠ .here := by
    obtain ⟨rest, rfl⟩ := List.head?_eq_some_iff.1 habs
    exact Path.rootOf_slash_ne rest
  have hstart : (Path.ofText path).toText.head? = some '/' := Path.head?_toText hroot
  have hbytes : ¬longestPath < (Utf8.encode (Path.ofText path).toText).length := by
    have hle := (hsub.flatMap Utf8.encodeChar).length_le
    rw [← Utf8.encode, ← Utf8.encode] at hle
    omega
  rw [locate, if_neg fun hnil => by simp [hnil] at hstart, if_neg hbytes, steps_toText hparts]
  rw [startOf, if_pos hstart]
  rw [startOf, if_pos habs] at h
  exact walk_skips haim hskips h

namespace FreeAt

theorem node?_eq (h : t.FreeAt here path place) : t.node? place = none := by
  obtain ⟨d, n, hloc, rfl⟩ := h
  exact locate_tells hloc

theorem ne_nil (h : t.FreeAt here path place) : place ≠ [] := by
  obtain ⟨d, n, -, rfl⟩ := h
  simp

/-- Files written after a path was free: what is at its place now is what the path leads to. -/
theorem locate_written {P : Location → Prop} (h : t.FreeAt here path place)
    (habs : path.head? = some '/') (hw : Written P t t') {f : File}
    (hf : t'.node? place = some (.file f)) (haim : aim.makes = false) :
    t'.locate here aim (Path.ofText path).toText = .ok (.found place (.file f)) := by
  obtain ⟨d, n, hloc, rfl⟩ := h
  exact hw.locate_file (locate_toText haim habs hloc) hf

end FreeAt

/-- What making a new file does. -/
theorem createNew_eq_ok {place : Location} (h : t.createNew here path = .ok (place, t')) :
    t.FreeAt here path place ∧ t' = t.insert place (.file ⟨[], false, 0⟩) := by
  rw [createNew] at h
  cases hloc : t.locate here .newFile path with
  | error why => simp [hloc, bind, Except.bind] at h
  | ok spot =>
    cases spot with
    | found place node => simp [hloc, bind, Except.bind] at h
    | free d n =>
      simp [hloc, bind, Except.bind, pure, Except.pure] at h
      obtain ⟨rfl, rfl⟩ := h
      exact ⟨⟨d, n, hloc, rfl⟩, rfl⟩

end ClasspathProbe.FileTree
