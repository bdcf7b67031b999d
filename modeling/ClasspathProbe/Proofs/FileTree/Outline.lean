import ClasspathProbe.Proofs.FileTree.Written

/-!
# Outlines of trees

Trees have one outline when they hold the same directories, the same links and, at the same places,
files that may be executed (`Alike`); files that may not be executed can come, go and change. Where
a path leads is then the same as far as tests and the search for commands can tell
(`Alike.reaches_eq`).
-/

namespace ClasspathProbe

/-- What the outline of a tree has at a place. -/
inductive Outline where
  /-- Nothing, or a file that may not be executed. -/
  | data
  | executable
  | directory
  | link (target : Text)
deriving DecidableEq

/-- The outline of what a place holds. -/
def outlineOf : Option Node → Outline
  | none => .data
  | some (.file f) => if f.executable then .executable else .data
  | some (.directory _) => .directory
  | some (.link target) => .link target

def Spot.outline : Spot → Outline
  | .found _ node => outlineOf (some node)
  | .free .. => .data

namespace FileTree

variable {t t' t'' : FileTree} {here place : Location}

/-- Whether two trees have one outline. -/
def Alike (t t' : FileTree) : Prop := ∀ p, outlineOf (t'.node? p) = outlineOf (t.node? p)

theorem node?_of_outline_directory {node : Option Node} (h : outlineOf node = .directory) :
    ∃ m, node = some (.directory m) := by
  match node with
  | some (.directory m) => exact ⟨m, rfl⟩
  | some (.file f) =>
    rw [outlineOf] at h
    split at h <;> cases h

namespace Alike

theorem refl (t : FileTree) : Alike t t := fun _ => rfl

theorem symm (h : Alike t t') : Alike t' t := fun p => (h p).symm

theorem trans (h : Alike t t') (h' : Alike t' t'') : Alike t t'' := fun p => (h' p).trans (h p)

theorem grounded (h : Alike t t') (hplace : t.Grounded place) : t'.Grounded place := by
  intro k
  obtain ⟨m, hm⟩ := hplace k
  refine node?_of_outline_directory ?_
  rw [h, hm, outlineOf]

/-- Putting something of the same outline at a place. -/
theorem insert (t : FileTree) (hne : place ≠ []) {node : Node}
    (h : outlineOf (some node) = outlineOf (t.node? place)) : Alike t (t.insert place node) := by
  intro p
  by_cases hp : p = place
  · rw [hp, node?_insert_self t node hne, h]
  · rw [node?_insert_ne t node hp]

/-- Removing a file that may not be executed. -/
theorem erase (t : FileTree) (hne : place ≠ []) (h : outlineOf (t.node? place) = .data) :
    Alike t (t.erase place) := by
  intro p
  by_cases hp : p = place
  · rw [hp, node?_erase_self t hne, h, outlineOf]
  · rw [node?_erase_ne t hp]

end Alike

theorem Written.alike {P : Location → Prop} (h : Written P t t') : Alike t t' := by
  intro p
  obtain he | ⟨-, f, hw, hf⟩ := h p
  · rw [he]
  · rw [hf]
    obtain ⟨hnone, hx⟩ | ⟨g, hg, hx⟩ := hw
    · rw [hnone, outlineOf, outlineOf, hx]
      rfl
    · rw [hg, outlineOf, outlineOf, hx]

/-! ## Where paths lead -/

/-- What is told of where a path leads: an outline, or a refusal, where all those count as one that
mean that nothing is there. -/
def reaches : Except Refusal Spot → Except Refusal Outline
  | .ok spot => .ok spot.outline
  | .error why => .error (if why.meansAbsent then .noSuchFile else why)

/-- What is told of one step of a walk depends on the outline of the next place alone. -/
theorem reaches_descend_cons (t : FileTree) (jump : Location → List Text → Except Refusal Spot)
    (here : Location) (name : Text) (rest : List Text) :
    reaches (t.descend .target jump here (name :: rest)) =
      if name = [] ∨ name = ['.'] then reaches (t.descend .target jump here rest)
      else if name = ['.', '.'] then reaches (t.descend .target jump here.dropLast rest)
      else if longestName < (Utf8.encode name).length then .error .nameTooLong
      else
        match outlineOf (t.node? (here ++ [name])) with
        | .data => if rest = [] then .ok .data else .error .noSuchFile
        | .executable => if rest = [] then .ok .executable else .error .noSuchFile
        | .directory => reaches (t.descend .target jump (here ++ [name]) rest)
        | .link target => reaches (jump (startOf target here) (steps target ++ rest)) := by
  rw [descend]
  split
  · rfl
  split
  · rfl
  rw [if_neg (fun h => Bool.false_ne_true h.1)]
  split
  · rfl
  cases t.node? (here ++ [name]) with
  | none =>
    by_cases hrest : rest = []
    · simp [hrest, outlineOf, reaches, Spot.outline]
    · simp [hrest, outlineOf, reaches, Refusal.meansAbsent]
  | some node =>
    cases node with
    | directory m => rfl
    | file f =>
      by_cases hrest : rest = []
      · cases hx : f.executable <;> simp [hrest, outlineOf, reaches, Spot.outline, hx]
      · cases hx : f.executable <;> simp [hrest, outlineOf, reaches, Refusal.meansAbsent, hx]
    | link target =>
      dsimp only
      rw [if_neg (fun h => by cases h.2)]
      rfl

theorem Alike.reaches_descend (h : Alike t t')
    {jump jump' : Location → List Text → Except Refusal Spot}
    (hjump : ∀ here names, t.Grounded here → reaches (jump' here names) = reaches (jump here names))
    (hhere : t.Grounded here) (names : List Text) :
    reaches (t'.descend .target jump' here names) =
      reaches (t.descend .target jump here names) := by
  induction names generalizing here with
  | nil =>
    -- a real directory is one in both trees
    obtain ⟨m, hm⟩ := hhere.directory
    obtain ⟨m', hm'⟩ := (h.grounded hhere).directory
    rw [descend, descend, hm, hm']
    rfl
  | cons name rest ih =>
    rw [reaches_descend_cons, reaches_descend_cons, h (here ++ [name]), ih hhere,
      ih hhere.dropLast]
    split
    · rfl
    split
    · rfl
    split
    · rfl
    split
    · rfl
    · rfl
    · next hdirectory =>
      obtain ⟨m, hm⟩ := node?_of_outline_directory hdirectory
      exact ih (hhere.concat hm)
    · exact hjump _ _ (hhere.startOf _)

theorem Alike.reaches_walk (h : Alike t t') (links : Nat) (hhere : t.Grounded here)
    (names : List Text) :
    reaches (t'.walk .target links here names) = reaches (t.walk .target links here names) := by
  induction links generalizing here names with
  | zero => exact h.reaches_descend (fun _ _ _ => rfl) hhere names
  | succ links ih => exact h.reaches_descend (fun _ names hhere => ih hhere names) hhere names

/-- From a real directory a path leads to the same in trees of one outline. -/
theorem Alike.reaches_eq (h : Alike t t') (hhere : t.Grounded here) (path : Text) :
    reaches (t'.locate here .target path) = reaches (t.locate here .target path) := by
  rw [locate, locate]
  split
  · rfl
  split
  · rfl
  exact h.reaches_walk mostLinks (hhere.startOf path) (steps path)

end FileTree

end ClasspathProbe
