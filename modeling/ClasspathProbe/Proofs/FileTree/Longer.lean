import ClasspathProbe.Proofs.FileTree.NewFile
import ClasspathProbe.Proofs.FileTree.Sight

/-!
# Trees with longer files

A second tree may hold more bytes in the files at some places and is the first one otherwise
(`Longer`). Bytes do not show on the way: a path leads to the same spot in both, but for the bytes
of the file that it leads to (`Longer.locate`). So every question but that for bytes has one answer,
and a file made, filled or removed in both leaves trees that are related again.
-/

namespace ClasspathProbe

/-- The second file is the first with bytes put between its own. -/
structure File.Longer (f f' : File) : Prop where
  executable : f'.executable = f.executable
  modified : f'.modified = f.modified
  bytes : f.bytes.Sublist f'.bytes

namespace FileTree

variable {P : Location → Prop} {t t' : FileTree} {here place : Location} {path : Text} {aim : Aim}

/-- The second tree is the first with longer files at some of the places. -/
structure Longer (P : Location → Prop) (t t' : FileTree) : Prop where
  node : ∀ p, t'.node? p = t.node? p ∨
    P p ∧ ∃ f f', t.node? p = some (.file f) ∧ t'.node? p = some (.file f') ∧ f.Longer f'
  same : (∀ p, ¬P p) → t' = t

/-- Two outcomes of looking a path up, of which the second can be a longer file. -/
inductive SameSpot (P : Location → Prop) : Except Refusal Spot → Except Refusal Spot → Prop where
  | same (outcome : Except Refusal Spot) : SameSpot P outcome outcome
  | longer {place : Location} {f f' : File} (here : P place) (longer : f.Longer f') :
      SameSpot P (.ok (.found place (.file f))) (.ok (.found place (.file f')))

theorem SameWay.eq_or_file_or_blocked {a b : Except Refusal Spot} (h : SameWay P t t' a b) :
    b = a ∨ (∃ spot f, P spot.place ∧ a = .ok spot ∧ b = .ok (.found spot.place (.file f)) ∧
        t'.node? spot.place = some (.file f)) ∨
      a = .error .noSuchFile ∧ b = .error .notADirectory := by
  cases h with
  | same => exact .inl rfl
  | written spot here writable now => exact .inr (.inl ⟨spot, _, here, rfl, rfl, now⟩)
  | refused => exact .inl rfl
  | blocked => exact .inr (.inr ⟨rfl, rfl⟩)

namespace Longer

theorem refl (t : FileTree) : Longer P t t := ⟨fun _ => .inl rfl, fun _ => rfl⟩

theorem written (h : Longer P t t') : Written P t t' := by
  intro p
  obtain he | ⟨hp, f, f', hf, hf', hlonger⟩ := h.node p
  · exact .inl he
  · exact .inr ⟨hp, f', .inr ⟨f, hf, hlonger.executable⟩, hf'⟩

/-- The other way round files become shorter, which is a way to write them as well. -/
theorem written_back (h : Longer P t t') : Written P t' t := by
  intro p
  obtain he | ⟨hp, f, f', hf, hf', hlonger⟩ := h.node p
  · exact .inl he.symm
  · exact .inr ⟨hp, f, .inr ⟨f', hf', hlonger.executable.symm⟩, hf⟩

theorem locate (h : Longer P t t') (here : Location) (aim : Aim) (path : Text) :
    SameSpot P (t.locate here aim path) (t'.locate here aim path) := by
  have hback := (h.written_back.locate here aim path).eq_or_file_or_blocked
  obtain he | ⟨spot, f', hp, -, hb, hf'⟩ | ⟨ha, hb⟩ :=
    (h.written.locate here aim path).eq_or_file_or_blocked
  · rw [he]
    exact .same _
  · -- back from the file there is a file as well, so nothing was missing
    obtain he | ⟨spot', f, -, hb', ha, hf⟩ | ⟨hb', -⟩ := hback
    · rw [he]
      exact .same _
    · obtain rfl := Except.ok.inj (hb.symm.trans hb')
      change t.node? spot.place = some (.file f) at hf
      change t.locate here aim path = .ok (.found spot.place (.file f)) at ha
      rw [ha, hb]
      obtain he | ⟨-, g, g', hg, hg', hlonger⟩ := h.node spot.place
      · rw [hf', hf] at he
        obtain rfl := Node.file.inj (Option.some.inj he)
        exact .same _
      · obtain rfl := Node.file.inj (Option.some.inj (hf'.symm.trans hg'))
        obtain rfl := Node.file.inj (Option.some.inj (hf.symm.trans hg))
        exact .longer hp hlonger
    · cases hb.symm.trans hb'
  · obtain he | ⟨_, _, -, hb', -⟩ | ⟨hb', -⟩ := hback
    · rw [he]
      exact .same _
    · cases hb.symm.trans hb'
    · cases hb.symm.trans hb'

/-! ## Questions -/

/-- What a question tells of the node that a path leads to is the same when it is not about
bytes. -/
theorem look_map {α : Type} (h : Longer P t t') (f : Location × Node → α)
    (hf : ∀ place g g', File.Longer g g' → f (place, .file g') = f (place, .file g))
    (here : Location) (path : Text) : (t'.look here path).map f = (t.look here path).map f := by
  have hspot := h.locate here .target path
  rw [look, look]
  generalize t.locate here .target path = a at hspot
  generalize t'.locate here .target path = b at hspot
  cases hspot with
  | same => rfl
  | longer hp hlonger => exact congrArg Except.ok (hf _ _ _ hlonger)

theorem modified_eq (h : Longer P t t') : t'.modified = t.modified := by
  funext here path
  have hspot := h.locate here .target path
  rw [modified, modified, look, look]
  generalize t.locate here .target path = a at hspot
  generalize t'.locate here .target path = b at hspot
  cases hspot with
  | same => rfl
  | longer hp hlonger => exact congrArg Except.ok hlonger.modified

theorem sight_eq (h : Longer P t t') : t'.sight = t.sight := by
  funext here path
  have hspot := h.locate here .target path
  rw [sight, sight]
  generalize t.locate here .target path = a at hspot
  generalize t'.locate here .target path = b at hspot
  cases hspot with
  | same => rfl
  | longer hp hlonger => simp only [Spot.sight, hlonger.executable]

/-! ## Changes -/

theorem insert (h : Longer P t t') (place : Location) (node : Node) :
    Longer P (t.insert place node) (t'.insert place node) where
  node p := by
    by_cases hp : p = place
    · subst hp
      by_cases hroot : p = []
      · subst hroot
        exact .inl rfl
      · rw [node?_insert_self _ _ hroot, node?_insert_self _ _ hroot]
        exact .inl rfl
    · rw [node?_insert_ne _ _ hp, node?_insert_ne _ _ hp]
      exact h.node p
  same hP := by rw [h.same hP]

theorem erase (h : Longer P t t') (place : Location) :
    Longer P (t.erase place) (t'.erase place) where
  node p := by
    by_cases hp : p = place
    · subst hp
      by_cases hroot : p = []
      · subst hroot
        exact .inl rfl
      · rw [node?_erase_self _ hroot, node?_erase_self _ hroot]
        exact .inl rfl
    · rw [node?_erase_ne _ hp, node?_erase_ne _ hp]
      exact h.node p
  same hP := by rw [h.same hP]

theorem write_both (h : Longer P t t') (hP : P place) (hne : place ≠ []) {g g' : File}
    (hlonger : g.Longer g') :
    Longer P (t.insert place (.file g)) (t'.insert place (.file g')) where
  node p := by
    by_cases hp : p = place
    · subst hp
      exact .inr ⟨hP, g, g', node?_insert_self _ _ hne, node?_insert_self _ _ hne, hlonger⟩
    · rw [node?_insert_ne _ _ hp, node?_insert_ne _ _ hp]
      exact h.node p
  same hnone := absurd hP (hnone place)

/-- More can be written to a file in the second tree alone. -/
theorem write_second (h : Longer P t t') (hP : P place) (hne : place ≠ []) {f g : File}
    (hf : t.node? place = some (.file f)) (hlonger : f.Longer g) :
    Longer P t (t'.insert place (.file g)) where
  node p := by
    by_cases hp : p = place
    · subst hp
      exact .inr ⟨hP, f, g, hf, node?_insert_self _ _ hne, hlonger⟩
    · rw [node?_insert_ne _ _ hp]
      exact h.node p
  same hnone := absurd hP (hnone place)

/-- A new file is made in both trees or in none. -/
theorem createNew (h : Longer P t t') (here : Location) (path : Text) :
    (∃ why, t.createNew here path = .error why ∧ t'.createNew here path = .error why) ∨
      ∃ place, t.createNew here path = .ok (place, t.insert place (.file ⟨[], false, 0⟩)) ∧
        t'.createNew here path = .ok (place, t'.insert place (.file ⟨[], false, 0⟩)) := by
  have hspot := h.locate here .newFile path
  rw [FileTree.createNew, FileTree.createNew]
  generalize t.locate here .newFile path = a at hspot
  generalize t'.locate here .newFile path = b at hspot
  cases hspot with
  | same =>
    cases a with
    | error why => exact .inl ⟨why, rfl, rfl⟩
    | ok spot =>
      cases spot with
      | found place node => exact .inl ⟨_, rfl, rfl⟩
      | free d n => exact .inr ⟨d ++ [n], rfl, rfl⟩
  | longer => exact .inl ⟨_, rfl, rfl⟩

end Longer

end FileTree

end ClasspathProbe
