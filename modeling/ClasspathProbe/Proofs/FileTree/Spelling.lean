import ClasspathProbe.Proofs.FileTree.NewFile
import ClasspathProbe.Proofs.FileTree.Sight

/-!
# Paths in another spelling

A path leads to the same place when idle names are left out on the way (`walk_target_skips`), so a
name that leads somewhere leads there as well when it is read as a path and shown again
(`look_toText`).
-/

namespace ClasspathProbe

namespace FileTree

variable {t : FileTree} {here : Location} {names names' : List Text} {spot : Spot} {path : Text}

theorem descend_target_skips {jump jump' : Location → List Text → Except Refusal Spot}
    (hjump : ∀ here names names', Skips names names' → jump here names = .ok spot →
      jump' here names' = .ok spot) (hskips : Skips names names')
    (h : t.descend .target jump here names = .ok spot) :
    t.descend .target jump' here names' = .ok spot := by
  induction hskips generalizing here with
  | nil => exact h
  | skip idle _ ih =>
    rw [descend, if_pos idle] at h
    exact ih h
  | @keep name rest rest' hskips ih =>
    rw [descend] at h ⊢
    by_cases hidle : name = [] ∨ name = ['.']
    · rw [if_pos hidle] at h ⊢
      exact ih h
    rw [if_neg hidle] at h ⊢
    by_cases hup : name = ['.', '.']
    · rw [if_pos hup] at h ⊢
      exact ih h
    have hmakes : ∀ names : List Text, ¬(Aim.target.makes = true ∧ names = [[]]) := by
      rintro _ ⟨hmakes, -⟩
      cases hmakes
    rw [if_neg hup, if_neg (hmakes _)] at h ⊢
    split at h
    · cases h
    next hlong =>
    rw [if_neg hlong]
    -- a walk that ends before its last name is refused, so nothing was left out behind its end
    split at h
    · split at h
      next hrest =>
        subst hrest
        rw [if_pos hskips.eq_nil]
        exact h
      next => cases h
    · exact ih h
    · split at h
      next hrest =>
        subst hrest
        rw [if_pos hskips.eq_nil]
        exact h
      next => cases h
    · rw [if_neg (by rintro ⟨-, hfollows⟩; cases hfollows)] at h ⊢
      exact hjump _ _ _ ((Skips.refl _).append hskips) h

theorem walk_target_skips {links : Nat} (hskips : Skips names names')
    (h : t.walk .target links here names = .ok spot) :
    t.walk .target links here names' = .ok spot := by
  induction links generalizing here names names' with
  | zero => exact descend_target_skips (by simp) hskips h
  | succ links ih => exact descend_target_skips (fun _ _ _ => ih) hskips h

/-- The text of a path without parts stands for no step. -/
theorem walk_dot {p : Path} (hp : p.parts = []) (links : Nat) :
    t.walk .target links here (steps p.toText) = t.walk .target links here [] := by
  obtain ⟨root, parts, h⟩ := p
  obtain rfl : parts = [] := hp
  cases root <;> cases links <;> rfl

theorem startOf_eq (path : Text) (here : Location) :
    startOf path here = if (Path.ofText path).root = .here then here else [] := by
  rw [startOf]
  by_cases hslash : path.head? = some '/'
  · rw [if_pos hslash, if_neg (Path.ofText_ne_here hslash)]
  · have hroot : (Path.ofText path).root = .here := Path.rootOf_root .here hslash
    rw [if_neg hslash, if_pos hroot]

theorem locate_target_toText (h : t.locate here .target path = .ok spot) :
    t.locate here .target (Path.ofText path).toText = .ok spot := by
  rw [locate] at h
  split at h
  · cases h
  split at h
  · cases h
  next hlong =>
  have hskips := Skips.steps_partsOf path
  have hstart : startOf (Path.ofText path).toText here = startOf path here := by
    rw [startOf_eq, startOf_eq, Path.ofText_toText]
  rw [locate, if_neg (Path.toText_ne_nil _), hstart]
  by_cases hparts : (Path.ofText path).parts = []
  · have hshort : ¬longestPath < (Utf8.encode (Path.ofText path).toText).length := by
      rw [Path.toText]
      simp only [hparts]
      cases (Path.ofText path).root <;> decide
    rw [if_neg hshort, walk_dot hparts]
    exact walk_target_skips (hparts ▸ hskips) h
  · have hshort : ¬longestPath < (Utf8.encode (Path.ofText path).toText).length := by
      have hle := ((Path.toText_sublist hparts).flatMap Utf8.encodeChar).length_le
      rw [← Utf8.encode, ← Utf8.encode] at hle
      omega
    rw [if_neg hshort, steps_toText hparts]
    exact walk_target_skips hskips h

theorem look_toText {place : Location} {node : Node} (h : t.look here path = .ok (place, node)) :
    t.look here (Path.ofText path).toText = .ok (place, node) :=
  look_of_found (locate_target_toText (locate_of_look h))

end FileTree

end ClasspathProbe
