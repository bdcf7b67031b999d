import ClasspathProbe.Proofs.FileTree.Outline
import ClasspathProbe.Proofs.World.Log
import ClasspathProbe.Wrapper

/-!
# What tests tell of a path

The tests for directories and for executable files see no more of a path than its `Sight`, and that
is the same in trees of one outline (`Alike.sight_eq`). So it stays as it is when files are written:
what was nothing becomes at most a file that may not be executed.
-/

namespace ClasspathProbe

/-- What the tests can tell of where a path leads. -/
inductive Sight where
  | directory
  | executable
  | neither
deriving DecidableEq

/-- What the tests can tell of an outline. -/
def Outline.sight : Outline → Sight
  | .directory => .directory
  | .executable => .executable
  | .data | .link _ => .neither

/-- What the tests can tell of a spot. -/
def Spot.sight : Spot → Sight
  | .found _ (.directory _) => .directory
  | .found _ (.file f) => if f.executable then .executable else .neither
  | .found _ (.link _) => .neither
  | .free .. => .neither

namespace FileTree

variable {t t' : FileTree} {here : Location}

/-- What the tests can tell of where a path leads; only some refusals are told. -/
def sight (t : FileTree) (here : Location) (path : Text) : Except Refusal Sight :=
  match t.locate here .target path with
  | .ok spot => .ok spot.sight
  | .error why => if why.meansAbsent then .ok .neither else .error why

theorem sight_eq_reaches (t : FileTree) (here : Location) (path : Text) :
    t.sight here path =
      match reaches (t.locate here .target path) with
      | .ok outline => .ok outline.sight
      | .error why => if why.meansAbsent then .ok .neither else .error why := by
  rw [sight]
  cases t.locate here .target path with
  | ok spot =>
    cases spot with
    | free directory name => rfl
    | found place node =>
      cases node with
      | file f =>
        cases hx : f.executable <;>
          simp [reaches, Spot.sight, Spot.outline, outlineOf, hx, Outline.sight]
      | _ => rfl
  | error why => cases why <;> rfl

theorem Alike.sight_eq (h : Alike t t') (hhere : t.Grounded here) (path : Text) :
    t'.sight here path = t.sight here path := by
  rw [sight_eq_reaches, sight_eq_reaches, h.reaches_eq hhere]

theorem Written.sight_eq {P : Location → Prop} (h : Written P t t') (hhere : t.Grounded here)
    (path : Text) : t'.sight here path = t.sight here path :=
  h.alike.sight_eq hhere path

end FileTree

namespace World

variable {w w' : World}

/-- What the tests can tell of where a path leads, or how they fail. -/
def sight (w : World) (p : Path) : Except Failure Sight :=
  if p.toText.contains '\x00' then .ok .neither
  else
    match w.tree.sight w.here p.toText with
    | .ok s => .ok s
    | .error why => .error (.refused why p.toText)

theorem Extends.sight_eq {P : Location → Prop} (h : Extends P w w')
    (hhere : w.tree.Grounded w.here) (p : Path) : w'.sight p = w.sight p := by
  rw [sight, sight, h.here, h.tree.sight_eq hhere]

end World

namespace FileTree

variable {t : FileTree} {here : Location} {path : Text}

theorem look_of_found {place : Location} {node : Node}
    (h : t.locate here .target path = .ok (.found place node)) :
    t.look here path = .ok (place, node) := by
  rw [look, h]
  rfl

theorem look_of_free {d : Location} {n : Text} (h : t.locate here .target path = .ok (.free d n)) :
    t.look here path = .error .noSuchFile := by
  rw [look, h]
  rfl

theorem look_of_error {why : Refusal} (h : t.locate here .target path = .error why) :
    t.look here path = .error why := by
  rw [look, h]
  rfl

theorem locate_of_look {place : Location} {node : Node} (h : t.look here path = .ok (place, node)) :
    t.locate here .target path = .ok (.found place node) := by
  cases hloc : t.locate here .target path with
  | error why =>
    rw [look_of_error hloc] at h
    cases h
  | ok spot =>
    cases spot with
    | free d n =>
      rw [look_of_free hloc] at h
      cases h
    | found q m =>
      rw [look_of_found hloc] at h
      obtain ⟨rfl, rfl⟩ := Prod.mk.inj (Except.ok.inj h)
      rfl

end FileTree

namespace Action

theorem exec_isDirectory (p : Path) (w : World) :
    exec (isDirectory p) w = ((w.sight p).map fun s => decide (s = .directory), w) := by
  rw [isDirectory, exec_test, World.sight]
  split
  · rfl
  rw [FileTree.leadsToDirectory, FileTree.sight]
  cases hloc : w.tree.locate w.here .target p.toText with
  | error why =>
    rw [FileTree.look_of_error hloc]
    cases why <;> rfl
  | ok spot =>
    cases spot with
    | free d n =>
      rw [FileTree.look_of_free hloc]
      rfl
    | found place node =>
      rw [FileTree.look_of_found hloc]
      cases node with
      | directory m => rfl
      | link target => rfl
      | file f => cases hx : f.executable <;> simp [Spot.sight, hx, Except.map]

theorem exec_isWrapper (p : Path) (w : World) :
    exec (Wrapper.isWrapper p) w = ((w.sight p).map fun s => decide (s = .executable), w) := by
  rw [Wrapper.isWrapper, isFile, exec_bind, exec_test, World.sight]
  by_cases hnul : p.toText.contains '\x00' = true
  · rw [if_pos hnul, if_pos hnul]
    rfl
  rw [if_neg hnul, if_neg hnul, FileTree.leadsToFile, FileTree.sight]
  cases hloc : w.tree.locate w.here .target p.toText with
  | error why =>
    rw [FileTree.look_of_error hloc]
    cases why <;> rfl
  | ok spot =>
    cases spot with
    | free d n =>
      rw [FileTree.look_of_free hloc]
      rfl
    | found place node =>
      rw [FileTree.look_of_found hloc]
      cases node with
      | directory m => rfl
      | link target => rfl
      | file f =>
        have hpermits : w.tree.permitsExecution w.here p.toText = f.executable := by
          rw [FileTree.permitsExecution, FileTree.look_of_found hloc]
        cases hx : f.executable <;> simp [Spot.sight, hx, Except.map, hpermits]

end Action

end ClasspathProbe
