import ClasspathProbe.Proofs.FileTree.Spelling
import ClasspathProbe.World

/-!
# Absolute paths

The names of a real directory lead to it from the root (`descend_append`), so what a path leads to in
the working directory is what its absolute form leads to from the root (`walk_absolute`), whichever
directory that is read in. Only the length of the written path counts then: the absolute form is
longer than the path it was made from, and a path that is too long leads nowhere.
-/

namespace ClasspathProbe

namespace FileTree

variable {t : FileTree} {here place : Location} {names : List Text} {node : Node} {path : Text}

/-! ## From the root -/

/-- A name that a directory can hold. -/
structure IsName (name : Text) : Prop where
  isPart : Path.IsPart name
  notUp : name ≠ ['.', '.']
  clean : '\x00' ∉ name
  short : (Utf8.encode name).length ≤ longestName

/-- The names of a real directory lead there; by induction on them, with the directories passed so
far in front. -/
theorem descend_append {jump : Location → List Text → Except Refusal Spot} {front back : Location}
    (hground : t.Grounded (front ++ back)) (hback : ∀ n ∈ back, IsName n) (names : List Text) :
    t.descend .target jump front (back ++ names) =
      t.descend .target jump (front ++ back) names := by
  induction back generalizing front with
  | nil => rw [List.nil_append, List.append_nil]
  | cons name back ih =>
    obtain ⟨hname, hback⟩ := List.forall_mem_cons.1 hback
    have hwhole : front ++ name :: back = (front ++ [name]) ++ back := by simp
    have hidle : ¬(name = [] ∨ name = ['.']) :=
      not_or.2 ⟨hname.isPart.1, hname.isPart.2.1⟩
    have hmakes : ¬(Aim.target.makes = true ∧ back ++ names = [[]]) := by
      rintro ⟨hmakes, -⟩
      cases hmakes
    obtain ⟨m, hm⟩ := hground (front.length + 1)
    rw [hwhole, List.take_append_of_le_length (by simp),
      List.take_of_length_le (by simp)] at hm
    rw [List.cons_append, descend, if_neg hidle, if_neg hname.notUp, if_neg hmakes,
      if_neg (Nat.not_lt.2 hname.short), hm, hwhole]
    exact ih (hwhole ▸ hground) hback

theorem walk_append (hground : t.Grounded here) (hnames : ∀ n ∈ here, IsName n) (links : Nat)
    (names : List Text) :
    t.walk .target links [] (here ++ names) = t.walk .target links here names := by
  cases links <;> exact descend_append hground hnames names

/-! ## Where a target lies -/

/-- From a real directory a link is always followed. -/
theorem descend_ne_link {jump : Location → List Text → Except Refusal Spot}
    (hjump : ∀ here names, t.Grounded here → ∀ target,
      jump here names ≠ .ok (.found place (.link target)))
    (hground : t.Grounded here) (target : Text) :
    t.descend .target jump here names ≠ .ok (.found place (.link target)) := by
  intro h
  induction names generalizing here with
  | nil =>
    obtain ⟨m, hm⟩ := hground.directory
    rw [descend, hm] at h
    cases h
  | cons name rest ih =>
    rw [descend] at h
    split at h
    · exact ih hground h
    split at h
    · exact ih hground.dropLast h
    split at h
    · cases h
    split at h
    · cases h
    split at h
    · split at h <;> cases h
    next hm => exact ih (hground.concat hm) h
    · split at h <;> cases h
    next link _ =>
      rw [if_neg (by rintro ⟨-, hfollows⟩; cases hfollows)] at h
      exact hjump _ _ (hground.startOf link) target h

theorem walk_ne_link {links : Nat} (hground : t.Grounded here) (target : Text) :
    t.walk .target links here names ≠ .ok (.found place (.link target)) := by
  induction links generalizing here names target with
  | zero => exact descend_ne_link (by simp) hground target
  | succ links ih => exact descend_ne_link (fun _ _ => ih) hground target

theorem look_ne_link (hground : t.Grounded here) (target : Text) :
    t.look here path ≠ .ok (place, .link target) := by
  intro h
  have hloc := locate_of_look h
  rw [locate] at hloc
  split at hloc
  · cases hloc
  split at hloc
  · cases hloc
  exact walk_ne_link (hground.startOf path) target hloc

/-- What a path leads to is where its parts lead. -/
theorem walk_parts (h : t.look here path = .ok (place, node)) :
    t.walk .target mostLinks (startOf path here) (Path.ofText path).parts =
      .ok (.found place node) := by
  have hloc := locate_of_look h
  rw [locate] at hloc
  split at hloc
  · cases hloc
  split at hloc
  · cases hloc
  exact walk_target_skips (Skips.steps_partsOf path) hloc

/-! ## Looking absolute paths up -/

/-- The text of an absolute path leads where its parts lead from the root, unless it is too long;
the directory it is read in does not matter. -/
theorem look_of_walk {p : Path} (habs : p.root ≠ .here) {f : File}
    (hwalk : t.walk .target mostLinks [] p.parts = .ok (.found place (.file f)))
    (here : Location) :
    t.look here p.toText =
      if longestPath < (Utf8.encode p.toText).length then .error .nameTooLong
      else .ok (place, .file f) := by
  have hparts : p.parts ≠ [] := by
    intro hnil
    rw [hnil] at hwalk
    cases (hwalk : Except.ok (Spot.found [] (.directory 0)) = _)
  have hstart : startOf p.toText here = [] := if_pos (Path.head?_toText habs)
  split
  next hlong =>
    apply look_of_error
    rw [locate, if_neg p.toText_ne_nil, if_pos hlong]
  next hshort =>
    apply look_of_found
    rw [locate, if_neg p.toText_ne_nil, if_neg hshort, hstart, steps_toText hparts, hwalk]

end FileTree

namespace World

variable {w : World} {place : Location} {node : Node} {name : Text}

/-- A working directory that is really there, with names that directories can hold. -/
structure Stands (w : World) : Prop where
  grounded : w.tree.Grounded w.here
  names : ∀ n ∈ w.here, FileTree.IsName n

theorem Stands.directory_eq (hw : w.Stands) :
    w.directory.root = .slash ∧ w.directory.parts = w.here := by
  have hparts : ∀ n ∈ w.here, Path.IsPart n := fun n hn => (hw.names n hn).isPart
  constructor
  · exact Path.rootOf_root .slash (Path.head?_joined_ne hparts)
  · rw [directory, Path.ofText]
    dsimp only
    rw [Path.partsOf_slash, Path.partsOf_joined hparts]

theorem absolute_ne_here (w : World) (p : Path) : (w.absolute p).root ≠ .here :=
  Path.join_ne_here _ (Path.rootOf_slash_ne _)

theorem absolute_of_here {w' : World} (h : w'.here = w.here) (p : Path) :
    w'.absolute p = w.absolute p := by
  rw [absolute, absolute, directory, directory, h]

theorem fullName_of_here {w' : World} (h : w'.here = w.here) (name : Text) :
    w'.fullName name = w.fullName name := by
  rw [fullName, fullName, absolute_of_here h]

theorem head?_fullName (w : World) (name : Text) : (w.fullName name).head? = some '/' :=
  Path.head?_toText (Path.normal_ne_here (absolute_ne_here w _))

theorem Stands.parts_absolute (hw : w.Stands) {p : Path} (hp : p.root = .here) :
    (w.absolute p).parts = w.here ++ p.parts := by
  rw [absolute, Path.join, if_neg (by simp [Path.isAbsolute, hp])]
  exact congrArg (· ++ p.parts) hw.directory_eq.2

/-- The absolute form of a path leads from the root to where the path leads. -/
theorem Stands.walk_absolute (hw : w.Stands) (h : w.tree.look w.here name = .ok (place, node)) :
    w.tree.walk .target FileTree.mostLinks [] (w.absolute (.ofText name)).parts =
      .ok (.found place node) := by
  have hwalk := FileTree.walk_parts h
  rw [FileTree.startOf_eq] at hwalk
  by_cases hp : (Path.ofText name).root = .here
  · rw [if_pos hp] at hwalk
    rw [hw.parts_absolute hp, FileTree.walk_append hw.grounded hw.names, hwalk]
  · rw [if_neg hp] at hwalk
    rw [absolute, Path.join_of_ne_here _ hp, hwalk]

/-- Making a name absolute brings no NUL in. -/
theorem Stands.not_mem_absolute (hw : w.Stands) (hclean : '\x00' ∉ name) :
    '\x00' ∉ (w.absolute (.ofText name)).toText := by
  obtain ⟨-, hhere⟩ := hw.directory_eq
  rw [Path.mem_toText (by decide) (by decide)]
  rintro ⟨part, hpart, hnul⟩
  rcases Path.mem_parts_join hpart with hpart | hpart
  · rw [hhere] at hpart
    exact (hw.names part hpart).clean hnul
  · exact hclean ((Path.mem_ofText (by decide) (by decide)).1 ⟨part, hpart, hnul⟩)

end World

end ClasspathProbe
