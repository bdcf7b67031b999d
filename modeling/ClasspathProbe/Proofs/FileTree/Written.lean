import ClasspathProbe.FileTree

/-!
# Trees with files written

A tree may gain files and change the bytes of files, but keep its directories and links (`Written`).
A file gained may not be executed, and one changed may be executed when it might before.
Then every path leads to the same place in both trees (`Written.locate`): what was written can only
turn up at that place, and a path that was refused stays refused. What a path leads to is what the
tree holds there (`locate_tells`), and that is something when the path starts in a real directory
(`node?_of_locate`).
-/

namespace ClasspathProbe.FileTree

variable {t t' t'' : FileTree} {place q : Location}

/-! ## Nodes after a change -/

@[simp] theorem node?_nil (t : FileTree) : t.node? [] = some (.directory 0) := rfl

theorem lookup_filter_ne {α β : Type} [BEq α] [LawfulBEq α] [DecidableEq α] {a b : α}
    (pairs : List (α × β)) (h : a ≠ b) :
    (pairs.filter fun p => decide (p.1 ≠ b)).lookup a = pairs.lookup a := by
  induction pairs with
  | nil => rfl
  | cons p pairs ih =>
    obtain ⟨c, value⟩ := p
    by_cases hc : c = b
    · subst hc
      rw [List.filter_cons_of_neg (by simp), ih, List.lookup_cons, (beq_eq_false_iff_ne).2 h]
    · rw [List.filter_cons_of_pos (by simpa using hc), List.lookup_cons, List.lookup_cons, ih]

theorem node?_erase_ne (t : FileTree) (h : q ≠ place) : (t.erase place).node? q = t.node? q := by
  rw [node?, node?, erase, lookup_filter_ne _ h]

theorem node?_erase_self (t : FileTree) (h : place ≠ []) : (t.erase place).node? place = none := by
  rw [node?, if_neg h, erase, List.lookup_eq_none_iff]
  intro n hn
  have hne : n.1 ≠ place := by simpa using (List.mem_filter.1 hn).2
  simpa using Ne.symm hne

theorem node?_insert_ne (t : FileTree) (node : Node) (h : q ≠ place) :
    (t.insert place node).node? q = t.node? q := by
  rw [← node?_erase_ne t h, node?, node?, insert, List.lookup_cons, (beq_eq_false_iff_ne).2 h]

theorem node?_insert_self (t : FileTree) (node : Node) (h : place ≠ []) :
    (t.insert place node).node? place = some node := by
  rw [node?, if_neg h, insert, List.lookup_cons_self]

/-! ## Writing -/

/-- Whether writing to a place can leave a file there: a new one, which may not be executed, or
one in place of a file that is as executable. -/
def Writable (t : FileTree) (place : Location) (f : File) : Prop :=
  t.node? place = none ∧ f.executable = false ∨
    ∃ g, t.node? place = some (.file g) ∧ f.executable = g.executable

/-- The second tree is the first with files written at some of the places. -/
def Written (places : Location → Prop) (t t' : FileTree) : Prop :=
  ∀ p, t'.node? p = t.node? p ∨
    places p ∧ ∃ f, t.Writable p f ∧ t'.node? p = some (.file f)

theorem Writable.ne_nil {f : File} (h : t.Writable place f) : place ≠ [] := by
  rintro rfl
  obtain ⟨h, -⟩ | ⟨g, h, -⟩ := h <;> simp at h

namespace Written

variable {P Q : Location → Prop}

theorem refl (t : FileTree) : Written P t t := fun _ => .inl rfl

theorem trans (h : Written P t t') (h' : Written P t' t'') : Written P t t'' := by
  intro p
  obtain he | ⟨hp, f, hw, hf⟩ := h p
  · obtain he' | ⟨hp, f, hw, hf'⟩ := h' p
    · exact .inl (he'.trans he)
    · refine .inr ⟨hp, f, ?_, hf'⟩
      rwa [Writable, he] at hw
  · obtain he' | ⟨-, f', hw', hf'⟩ := h' p
    · exact .inr ⟨hp, f, hw, he'.trans hf⟩
    · refine .inr ⟨hp, f', ?_, hf'⟩
      obtain ⟨hn, -⟩ | ⟨g, hg, hx⟩ := hw'
      · simp [hf] at hn
      · obtain rfl : f = g := by simpa [hf] using hg
        exact hw.imp (fun h => ⟨h.1, hx.trans h.2⟩) fun ⟨g, h⟩ => ⟨g, h.1, hx.trans h.2⟩

theorem mono (h : Written P t t') (hPQ : ∀ p, P p → Q p) : Written Q t t' := fun p =>
  (h p).imp_right fun ⟨hp, hf⟩ => ⟨hPQ p hp, hf⟩

/-- Putting a file where a file was or nothing. -/
theorem insert {f : File} (h : t.Writable place f) (hplace : P place) :
    Written P t (t.insert place (.file f)) := by
  intro p
  by_cases hp : p = place
  · subst hp
    exact .inr ⟨hplace, f, h, node?_insert_self t _ h.ne_nil⟩
  · exact .inl (node?_insert_ne t _ hp)

theorem node?_eq (h : Written P t t') (hplace : ¬P place) : t'.node? place = t.node? place :=
  (h place).resolve_right fun hw => hplace hw.1

/-- What was written at a place where nothing had been is taken back by erasing it. -/
theorem erase (h : Written (fun p => p = place ∨ P p) t t') (hne : place ≠ [])
    (hfree : t.node? place = none) : Written P t (t'.erase place) := by
  intro p
  by_cases hp : p = place
  · subst hp
    exact .inl ((node?_erase_self t' hne).trans hfree.symm)
  · rw [node?_erase_ne t' hp]
    exact (h p).imp_right fun ⟨hor, hf⟩ => ⟨hor.resolve_left hp, hf⟩

/-- Nothing is taken away. -/
theorem node?_ne_none (h : Written P t t') (hplace : t.node? place ≠ none) :
    t'.node? place ≠ none := by
  obtain he | ⟨-, f, -, hf⟩ := h place
  · rwa [he]
  · simp [hf]

theorem directory (h : Written P t t') {m : Int} (hd : t.node? place = some (.directory m)) :
    t'.node? place = some (.directory m) := by
  obtain he | ⟨-, f, hw, -⟩ := h place
  · rw [he, hd]
  · obtain ⟨hn, -⟩ | ⟨g, hg, -⟩ := hw
    · simp [hn] at hd
    · simp [hg] at hd

end Written

end FileTree

/-! ## Where paths lead -/

/-- The place that a path leads to. -/
def Spot.place : Spot → Location
  | .found place _ => place
  | .free directory name => directory ++ [name]

namespace FileTree

variable {t t' : FileTree} {P : Location → Prop}

/-- Two outcomes of looking a path up, before and after files were written at some places. -/
inductive SameWay (P : Location → Prop) (t t' : FileTree) :
    Except Refusal Spot → Except Refusal Spot → Prop where
  | same {spot : Spot} (kept : t'.node? spot.place = t.node? spot.place) :
      SameWay P t t' (.ok spot) (.ok spot)
  | written (spot : Spot) {f : File} (here : P spot.place) (writable : t.Writable spot.place f)
      (now : t'.node? spot.place = some (.file f)) :
      SameWay P t t' (.ok spot) (.ok (.found spot.place (.file f)))
  | refused (why : Refusal) : SameWay P t t' (.error why) (.error why)
  /-- What was missing on the way is a file now. -/
  | blocked : SameWay P t t' (.error .noSuchFile) (.error .notADirectory)

theorem Written.descend (h : Written P t t') {aim : Aim}
    {jump jump' : Location → List Text → Except Refusal Spot}
    (hjump : ∀ here names, SameWay P t t' (jump here names) (jump' here names)) (here : Location)
    (names : List Text) :
    SameWay P t t' (t.descend aim jump here names) (t'.descend aim jump' here names) := by
  induction names generalizing here with
  | nil =>
    obtain he | ⟨hp, f, hw, hf⟩ := h here
    · simp only [FileTree.descend, he]
      exact .same he
    · simp only [FileTree.descend, hf]
      exact .written (.found here _) hp hw hf
  | cons name rest ih =>
    rw [FileTree.descend, FileTree.descend]
    by_cases hskip : name = [] ∨ name = ['.']
    · rw [if_pos hskip, if_pos hskip]
      exact ih here
    rw [if_neg hskip, if_neg hskip]
    by_cases hup : name = ['.', '.']
    · rw [if_pos hup, if_pos hup]
      exact ih here.dropLast
    rw [if_neg hup, if_neg hup]
    by_cases hslash : aim.makes ∧ rest = [[]]
    · rw [if_pos hslash, if_pos hslash]
      exact .refused _
    rw [if_neg hslash, if_neg hslash]
    by_cases hlong : longestName < (Utf8.encode name).length
    · rw [if_pos hlong, if_pos hlong]
      exact .refused _
    rw [if_neg hlong, if_neg hlong]
    -- directories and links are kept, so only a file can stand in the way of one of the two walks
    obtain he | ⟨hp, f, hw, hf⟩ := h (here ++ [name])
    · rw [he]
      cases hn : t.node? (here ++ [name]) with
      | none =>
        by_cases hrest : rest = []
        · simp only [if_pos hrest]
          exact .same he
        · simp only [if_neg hrest]
          exact .refused _
      | some node =>
        cases node with
        | directory m => exact ih (here ++ [name])
        | file f =>
          by_cases hrest : rest = []
          · simp only [if_pos hrest]
            exact .same he
          · simp only [if_neg hrest]
            exact .refused _
        | link target =>
          by_cases hend : rest = [] ∧ aim.follows = false
          · simp only [if_pos hend]
            exact .same he
          · simp only [if_neg hend]
            exact hjump _ _
    · rw [hf]
      obtain ⟨hn, hx⟩ | ⟨g, hg, hx⟩ := hw
      · rw [hn]
        by_cases hrest : rest = []
        · simp only [if_pos hrest]
          exact .written (.free here name) hp (.inl ⟨hn, hx⟩) hf
        · simp only [if_neg hrest]
          exact .blocked
      · rw [hg]
        by_cases hrest : rest = []
        · simp only [if_pos hrest]
          exact .written (.found (here ++ [name]) (.file g)) hp (.inr ⟨g, hg, hx⟩) hf
        · simp only [if_neg hrest]
          exact .refused _

theorem Written.walk (h : Written P t t') {aim : Aim} (links : Nat) (here : Location)
    (names : List Text) :
    SameWay P t t' (t.walk aim links here names) (t'.walk aim links here names) := by
  induction links generalizing here names with
  | zero => exact h.descend (fun _ _ => .refused _) here names
  | succ links ih => exact h.descend ih here names

/-- A path leads to the same place before and after files were written. -/
theorem Written.locate (h : Written P t t') (here : Location) (aim : Aim) (path : Text) :
    SameWay P t t' (t.locate here aim path) (t'.locate here aim path) := by
  rw [FileTree.locate, FileTree.locate]
  by_cases hempty : path = []
  · rw [if_pos hempty, if_pos hempty]
    exact .refused _
  rw [if_neg hempty, if_neg hempty]
  by_cases hlong : longestPath < (Utf8.encode path).length
  · rw [if_pos hlong, if_pos hlong]
    exact .refused _
  rw [if_neg hlong, if_neg hlong]
  exact h.walk mostLinks _ _

/-! ## Real directories -/

/-- Whether a place and everything on the way to it are directories. -/
def Grounded (t : FileTree) (place : Location) : Prop :=
  ∀ k, ∃ m, t.node? (place.take k) = some (.directory m)

namespace Grounded

variable {place : Location}

theorem nil (t : FileTree) : t.Grounded [] := fun _ => ⟨0, by simp⟩

theorem directory (h : t.Grounded place) : ∃ m, t.node? place = some (.directory m) := by
  obtain ⟨m, hm⟩ := h place.length
  exact ⟨m, by rwa [List.take_length] at hm⟩

theorem dropLast (h : t.Grounded place) : t.Grounded place.dropLast := by
  intro k
  rw [List.dropLast_eq_take, List.take_take]
  exact h _

theorem concat (h : t.Grounded place) {name : Text} {m : Int}
    (hm : t.node? (place ++ [name]) = some (.directory m)) : t.Grounded (place ++ [name]) := by
  intro k
  by_cases hk : k ≤ place.length
  · rw [List.take_append_of_le_length hk]
    exact h k
  · rw [List.take_of_length_le (by simp; omega)]
    exact ⟨m, hm⟩

theorem startOf (h : t.Grounded place) (path : Text) : t.Grounded (startOf path place) := by
  rw [FileTree.startOf]
  split
  · exact nil t
  · exact h

theorem written (h : t.Grounded place) (hw : Written P t t') : t'.Grounded place := by
  intro k
  obtain ⟨m, hm⟩ := h k
  exact ⟨m, hw.directory hm⟩

end Grounded

/-! ## What is where a path leads -/

/-- Where walks end, when something holds of every place that they pass. -/
structure Passing (t : FileTree) (passed : Location → Prop) (ends : Spot → Prop) : Prop where
  up : ∀ {here}, passed here → passed here.dropLast
  down : ∀ {here name m}, passed here → t.node? (here ++ [name]) = some (.directory m) →
    passed (here ++ [name])
  start : ∀ {here} target, passed here → passed (startOf target here)
  stay : ∀ {here}, passed here → ends (.found here ((t.node? here).getD (.directory 0)))
  found : ∀ {place node}, t.node? place = some node → ends (.found place node)
  free : ∀ {here name}, t.node? (here ++ [name]) = none → ends (.free here name)

namespace Passing

variable {passed : Location → Prop} {ends : Spot → Prop} {aim : Aim} {here : Location}
  {spot : Spot}

theorem descend (hp : t.Passing passed ends) {jump : Location → List Text → Except Refusal Spot}
    (hjump : ∀ here names spot, passed here → jump here names = .ok spot → ends spot)
    {names : List Text} (hhere : passed here) (h : t.descend aim jump here names = .ok spot) :
    ends spot := by
  induction names generalizing here with
  | nil =>
    obtain rfl := Except.ok.inj h
    exact hp.stay hhere
  | cons name rest ih =>
    rw [FileTree.descend] at h
    split at h
    · exact ih hhere h
    split at h
    · exact ih (hp.up hhere) h
    split at h
    · simp at h
    split at h
    · simp at h
    split at h
    · next hn =>
      split at h
      · obtain rfl := Except.ok.inj h
        exact hp.free hn
      · simp at h
    · next hn => exact ih (hp.down hhere hn) h
    · next hn =>
      split at h
      · obtain rfl := Except.ok.inj h
        exact hp.found hn
      · simp at h
    · next hn =>
      split at h
      · obtain rfl := Except.ok.inj h
        exact hp.found hn
      · exact hjump _ _ _ (hp.start _ hhere) h

theorem walk (hp : t.Passing passed ends) {links : Nat} {names : List Text} (hhere : passed here)
    (h : t.walk aim links here names = .ok spot) : ends spot := by
  induction links generalizing here names spot with
  | zero => exact hp.descend (by simp) hhere h
  | succ links ih => exact hp.descend (fun _ _ _ => ih) hhere h

theorem locate (hp : t.Passing passed ends) {path : Text} (hhere : passed here)
    (h : t.locate here aim path = .ok spot) : ends spot := by
  rw [FileTree.locate] at h
  split at h
  · simp at h
  split at h
  · simp at h
  exact hp.walk (hp.start path hhere) h

end Passing

/-- Whether a spot tells what the tree holds at its place, except that it calls a place without
anything a directory. -/
def Tells (t : FileTree) : Spot → Prop
  | .found place node => (t.node? place).getD (.directory 0) = node
  | .free directory name => t.node? (directory ++ [name]) = none

theorem passing_tells (t : FileTree) : t.Passing (fun _ => True) t.Tells where
  up _ := trivial
  down _ _ := trivial
  start _ _ := trivial
  stay _ := rfl
  found hn := by rw [Tells, hn]; rfl
  free hn := hn

theorem walk_tells {here : Location} {aim : Aim} {links : Nat} {names : List Text} {spot : Spot}
    (h : t.walk aim links here names = .ok spot) : t.Tells spot :=
  t.passing_tells.walk trivial h

theorem locate_tells {here : Location} {aim : Aim} {path : Text} {spot : Spot}
    (h : t.locate here aim path = .ok spot) : t.Tells spot :=
  t.passing_tells.locate trivial h

/-- A file that is now at the place where a walk ended is what the walk ends at. -/
theorem SameWay.eq_file {spot : Spot} {outcome : Except Refusal Spot} {f : File}
    (hway : SameWay P t t' (.ok spot) outcome) (htells : ∀ s, outcome = .ok s → t'.Tells s)
    (hf : t'.node? spot.place = some (.file f)) :
    outcome = .ok (.found spot.place (.file f)) := by
  cases hway with
  | written _ _ _ now => rw [Node.file.inj (Option.some.inj (hf.symm.trans now))]
  | same =>
    have hspot := htells spot rfl
    cases spot with
    | free d n => cases hf.symm.trans hspot
    | found place node =>
      rw [Spot.place] at hf
      rw [Tells, hf] at hspot
      obtain rfl : Node.file f = node := hspot
      rfl

theorem Written.walk_file (h : Written P t t') {here : Location} {aim : Aim} {links : Nat}
    {names : List Text} {spot : Spot} {f : File} (hwalk : t.walk aim links here names = .ok spot)
    (hf : t'.node? spot.place = some (.file f)) :
    t'.walk aim links here names = .ok (.found spot.place (.file f)) := by
  have hway : SameWay P t t' (t.walk aim links here names) _ := h.walk links here names
  rw [hwalk] at hway
  exact hway.eq_file (fun _ => walk_tells) hf

theorem Written.locate_file (h : Written P t t') {here : Location} {aim : Aim} {path : Text}
    {spot : Spot} {f : File} (hloc : t.locate here aim path = .ok spot)
    (hf : t'.node? spot.place = some (.file f)) :
    t'.locate here aim path = .ok (.found spot.place (.file f)) := by
  have hway := h.locate here aim path
  rw [hloc] at hway
  exact hway.eq_file (fun _ => locate_tells) hf

/-- A path to a file leads to a place where the file is. -/
theorem node?_of_locate_file {here place : Location} {aim : Aim} {path : Text} {f : File}
    (h : t.locate here aim path = .ok (.found place (.file f))) :
    t.node? place = some (.file f) := by
  have htells := locate_tells h
  rw [Tells] at htells
  cases hn : t.node? place with
  | none => simp [hn] at htells
  | some node => simpa [hn] using htells

/-- From a real directory a path that is found leads to what the tree really holds. -/
theorem node?_of_locate {here place : Location} {aim : Aim} {path : Text} {node : Node}
    (hhere : t.Grounded here) (h : t.locate here aim path = .ok (.found place node)) :
    t.node? place = some node := by
  have hp : t.Passing t.Grounded fun
      | .found place node => t.node? place = some node
      | .free .. => True :=
    { up := Grounded.dropLast, down := fun h => h.concat, start := fun path h => h.startOf path
      stay := fun h => by
        obtain ⟨m, hm⟩ := h.directory
        rw [hm]
        exact hm
      found := fun hn => hn
      free := fun _ => trivial }
  exact hp.locate hhere h

/-! ## Adding to files -/

/-- Adding to a file writes a file where the path leads, unless something else is there. -/
theorem append_of_locate {here : Location} {path : Text} {spot : Spot}
    (h : t.locate here .output path = .ok spot) (bytes : List UInt8) :
    (∃ f, t.Writable spot.place f ∧
        t.append here path bytes = .ok (t.insert spot.place (.file f))) ∨
      (∃ node, spot = .found spot.place node ∧
        t.append here path bytes = .error .isADirectory) := by
  rw [append, h]
  cases spot with
  | free d n => exact .inl ⟨⟨bytes, false, 0⟩, .inl ⟨locate_tells h, rfl⟩, rfl⟩
  | found place node =>
    cases node with
    | file f =>
      exact .inl ⟨{ f with bytes := f.bytes ++ bytes }, .inr ⟨f, node?_of_locate_file h, rfl⟩, rfl⟩
    | directory m => exact .inr ⟨_, rfl, rfl⟩
    | link target => exact .inr ⟨_, rfl, rfl⟩

theorem append_of_error {here : Location} {path : Text} {why : Refusal}
    (h : t.locate here .output path = .error why) (bytes : List UInt8) :
    t.append here path bytes = .error why := by
  rw [append, h]
  rfl

/-- What was added to is a file that the path leads to. -/
theorem locate_of_append {here : Location} {path : Text} {bytes : List UInt8}
    (h : t.append here path bytes = .ok t') :
    ∃ place f, t'.locate here .output path = .ok (.found place (.file f)) := by
  cases hloc : t.locate here .output path with
  | error why =>
    rw [append_of_error hloc] at h
    cases h
  | ok spot =>
    obtain ⟨f, hw, happend⟩ | ⟨node, -, happend⟩ := append_of_locate hloc bytes
    · obtain rfl := Except.ok.inj (happend.symm.trans h)
      have hwritten : Written (fun p => p = spot.place) t (t.insert spot.place (.file f)) :=
        .insert hw rfl
      exact ⟨_, _, hwritten.locate_file hloc (node?_insert_self t _ hw.ne_nil)⟩
    · cases happend.symm.trans h

end FileTree

end ClasspathProbe
