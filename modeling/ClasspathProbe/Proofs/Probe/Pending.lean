import ClasspathProbe.Proofs.Probe.Materialize

/-!
# Files still to be removed

While scripts are copied one after the other, and while something is done with the copies, a world
differs from the one before in the files made so far and in logs (`Pending`). Each of these files
may be there or be gone already. Its path leads to its place in both cases, so removing it succeeds
in both (`Pending.exec_remove`), and the file that was made last can be taken off the list then.
-/

namespace ClasspathProbe

/-! ## Places without a node -/

namespace FileTree

variable {t t' : FileTree} {here place : Location} {path : Text} {P : Location → Prop}

theorem erase_eq_self (h : t.node? place = none) : t.erase place = t := by
  have hne : place ≠ [] := by
    rintro rfl
    cases h
  rw [node?, if_neg hne, List.lookup_eq_none_iff] at h
  have hkept : (t.nodes.filter fun n => n.1 ≠ place) = t.nodes := by
    refine List.filter_eq_self.2 fun n hn => decide_eq_true fun he => ?_
    simpa [he] using h n hn
  rw [erase, hkept]

/-- What is free after files were written was free before. -/
theorem FreeAt.of_written (h : t'.FreeAt here path place) (hw : Written P t t') :
    t.FreeAt here path place := by
  obtain ⟨d, n, hloc, rfl⟩ := h
  have hway := hw.locate here .newFile path
  rw [hloc] at hway
  generalize hr : t.locate here .newFile path = r at hway
  cases hway with
  | same => exact ⟨d, n, hr, rfl⟩

/-- As long as nothing is at its place, the path of a file leads to a free name. -/
theorem FreeAt.locate_free {aim : Aim} (h : t.FreeAt here path place)
    (habs : path.head? = some '/') (hw : Written P t t') (hgone : t'.node? place = none)
    (haim : aim.makes = false) :
    ∃ d n, t'.locate here aim (Path.ofText path).toText = .ok (.free d n) := by
  obtain ⟨d, n, hloc, rfl⟩ := h
  have hway := hw.locate here aim (Path.ofText path).toText
  rw [locate_toText haim habs hloc] at hway
  generalize hr : t'.locate here aim (Path.ofText path).toText = r at hway
  cases hway with
  | same => exact ⟨d, n, rfl⟩
  | written _ _ _ now =>
    rw [Spot.place, hgone] at now
    cases now

end FileTree

namespace Probe

open ClasspathProbe.Action (exec Keeps exec_recover)

variable {w w' w'' : World} {path : Path} {place : Location} {tree : FileTree}

/-- A script copied into a file: the path of the file, its place, and what was copied. -/
structure Copy where
  path : Path
  place : Location
  bytes : List UInt8

/-- The second world is the first with more in the logs, and with files made for some copies, each
of which may be gone again. -/
structure Pending (w w' : World) (copies : List Copy) : Prop where
  grown : w.Extends (fun p => p ∈ copies.map Copy.place ∨ w.IsLogPlace p) w'
  named : ∀ c ∈ copies, ∃ name, IsNew w name c.place ∧ c.path = .ofText name

namespace Pending

variable {copies : List Copy} {c : Copy}

theorem refl (w : World) : Pending w w [] := ⟨.refl w, by simp⟩

theorem onlyLogs (h : Pending w w' copies) (hlogs : w'.OnlyLogs w'') : Pending w w'' copies where
  grown := h.grown.trans (hlogs.mono fun _ hp => .inr (h.grown.isLogPlace_iff.1 hp))
  named := h.named

theorem isNew_of (h : Pending w w' copies) {name : Text} (hnew : IsNew w' name place) :
    IsNew w name place := by
  refine ⟨hnew.absolute, hnew.clean, ?_⟩
  have hfree := hnew.free.of_written h.grown.tree
  rwa [h.grown.here] at hfree

/-- One more file is made. -/
theorem add (h : Pending w w' copies) (hholds : Holds w' w'' c.path c.place) :
    Pending w w'' (copies ++ [c]) where
  grown := by
    have hfirst : w.Extends (fun p => p ∈ (copies ++ [c]).map Copy.place ∨ w.IsLogPlace p) w' :=
      h.grown.mono fun p hp => hp.imp_left fun hmem => by simp [hmem]
    refine hfirst.trans (hholds.grown.mono fun p hp => ?_)
    rcases hp with rfl | hlog
    · exact .inl (by simp)
    · exact .inr (h.grown.isLogPlace_iff.1 hlog)
  named := by
    intro d hd
    rcases List.mem_append.1 hd with hold | hlast
    · exact h.named d hold
    · obtain rfl := List.mem_singleton.1 hlast
      obtain ⟨name, hnew, hpath⟩ := hholds.named
      exact ⟨name, h.isNew_of hnew, hpath⟩

theorem node?_before (h : Pending w w' copies) (hc : c ∈ copies) : w.tree.node? c.place = none := by
  obtain ⟨name, hnew, -⟩ := h.named c hc
  exact hnew.free.node?_eq

theorem ne_nil (h : Pending w w' copies) (hc : c ∈ copies) : c.place ≠ [] := by
  obtain ⟨name, hnew, -⟩ := h.named c hc
  exact hnew.free.ne_nil

theorem there_or_gone (h : Pending w w' copies) (hc : c ∈ copies) :
    (∃ f, w'.tree.node? c.place = some (.file f)) ∨ w'.tree.node? c.place = none := by
  obtain hsame | ⟨-, f, -, hf⟩ := h.grown.tree c.place
  · exact .inr (hsame.trans (h.node?_before hc))
  · exact .inl ⟨f, hf⟩

theorem clean (h : Pending w w' copies) (hc : c ∈ copies) :
    c.path.toText.contains '\x00' = false := by
  obtain ⟨name, hnew, hpath⟩ := h.named c hc
  rw [hpath]
  exact Path.contains_toText hnew.clean

theorem isAbsolute (h : Pending w w' copies) (hc : c ∈ copies) : c.path.isAbsolute = true := by
  obtain ⟨name, hnew, hpath⟩ := h.named c hc
  rw [hpath, Path.isAbsolute]
  simpa using Path.ofText_ne_here hnew.absolute

theorem locate_there (h : Pending w w' copies) (aim : FileTree.Aim) (hc : c ∈ copies)
    (haim : aim.makes = false) {f : File} (hf : w'.tree.node? c.place = some (.file f)) :
    w'.tree.locate w'.here aim c.path.toText = .ok (.found c.place (.file f)) := by
  obtain ⟨name, hnew, hpath⟩ := h.named c hc
  rw [h.grown.here, hpath]
  exact hnew.free.locate_written hnew.absolute h.grown.tree hf haim

theorem locate_gone (h : Pending w w' copies) (aim : FileTree.Aim) (hc : c ∈ copies)
    (haim : aim.makes = false) (hgone : w'.tree.node? c.place = none) :
    ∃ d n, w'.tree.locate w'.here aim c.path.toText = .ok (.free d n) := by
  obtain ⟨name, hnew, hpath⟩ := h.named c hc
  rw [h.grown.here, hpath]
  exact hnew.free.locate_free hnew.absolute h.grown.tree hgone haim

/-- Before it was made, nothing was where the path of a file leads. -/
theorem locate_before (h : Pending w w' copies) (aim : FileTree.Aim) (hc : c ∈ copies)
    (haim : aim.makes = false) :
    ∃ d n, w.tree.locate w.here aim c.path.toText = .ok (.free d n) := by
  obtain ⟨name, hnew, hpath⟩ := h.named c hc
  obtain ⟨d, n, hloc, -⟩ := hnew.free
  rw [hpath]
  exact ⟨d, n, FileTree.locate_toText haim hnew.absolute hloc⟩

/-! ## Removing the files -/

theorem erase (h : Pending w w' copies) (hc : c ∈ copies) :
    Pending w { w' with tree := w'.tree.erase c.place } copies where
  grown := by
    refine ⟨h.grown.here, h.grown.sinks, h.grown.threshold, fun p => ?_⟩
    by_cases hp : p = c.place
    · subst hp
      exact .inl ((FileTree.node?_erase_self _ (h.ne_nil hc)).trans (h.node?_before hc).symm)
    · rw [FileTree.node?_erase_ne _ hp]
      exact h.grown.tree p
  named := h.named

/-- A path that is unlinked takes its own file away and nothing else. -/
theorem unlink_eq (h : Pending w w' copies) (hc : c ∈ copies)
    (hunlink : w'.tree.unlink w'.here c.path.toText = .ok tree) : tree = w'.tree.erase c.place := by
  rw [FileTree.unlink] at hunlink
  obtain ⟨f, hf⟩ | hgone := h.there_or_gone hc
  · rw [h.locate_there .entry hc rfl hf] at hunlink
    exact (Except.ok.inj hunlink).symm
  · obtain ⟨d, n, hfree⟩ := h.locate_gone .entry hc rfl hgone
    rw [hfree] at hunlink
    cases hunlink

/-- Removing a file goes well whether it is still there or not. -/
theorem exec_remove (h : Pending w w' copies) (hc : c ∈ copies) :
    exec (remove c.path) w' = (.ok ⟨⟩, { w' with tree := w'.tree.erase c.place }) := by
  have hnul : ¬c.path.toText.contains '\x00' = true := by rw [h.clean hc]; simp
  rw [remove, exec_recover, Action.exec_change, if_neg hnul, FileTree.unlink]
  obtain ⟨f, hf⟩ | hgone := h.there_or_gone hc
  · rw [h.locate_there .entry hc rfl hf]
    rfl
  · obtain ⟨d, n, hfree⟩ := h.locate_gone .entry hc rfl hgone
    rw [hfree, FileTree.erase_eq_self hgone]
    rfl

/-- Once the file made last is gone, only the others are pending. -/
theorem dropLast (h : Pending w w' (copies ++ [c])) (hgone : w'.tree.node? c.place = none) :
    Pending w w' copies where
  grown := by
    refine ⟨h.grown.here, h.grown.sinks, h.grown.threshold, fun p => ?_⟩
    by_cases hp : p = c.place
    · subst hp
      exact .inl (hgone.trans (h.node?_before (by simp)).symm)
    · refine (h.grown.tree p).imp_right fun ⟨hplace, hf⟩ => ⟨hplace.imp_left fun hmem => ?_, hf⟩
      simpa [hp] using hmem
  named := fun d hd => h.named d (List.mem_append_left _ hd)

theorem erase_last (h : Pending w w' (copies ++ [c])) :
    Pending w { w' with tree := w'.tree.erase c.place } copies := by
  have hc : c ∈ copies ++ [c] := by simp
  exact (h.erase hc).dropLast (FileTree.node?_erase_self _ (h.ne_nil hc))

end Pending

/-! ## Deleting some of the files -/

/-- Files at some paths are deleted, in any order and each when it is there, and nothing else is
done. -/
inductive Deletes (paths : List Path) : World → World → Prop where
  | done (w : World) : Deletes paths w w
  | delete {w w' : World} {path : Path} {tree : FileTree} (mem : path ∈ paths)
      (unlinked : w.tree.unlink w.here path.toText = .ok tree)
      (rest : Deletes paths { w with tree } w') : Deletes paths w w'

theorem Pending.deletes {copies : List Copy} (h : Pending w w' copies)
    (hdeletes : Deletes (copies.map Copy.path) w' w'') : Pending w w'' copies := by
  induction hdeletes with
  | done => exact h
  | delete mem unlinked _ ih =>
    obtain ⟨c, hc, rfl⟩ := List.mem_map.1 mem
    obtain rfl := h.unlink_eq hc unlinked
    exact ih (h.erase hc)

theorem deletes_remove {paths : List Path} (hpath : path ∈ paths) :
    Keeps (Deletes paths) (remove path) := by
  intro w
  rw [remove, exec_recover, Action.exec_change]
  by_cases hnul : path.toText.contains '\x00' = true
  · rw [if_pos hnul]
    exact .done w
  · rw [if_neg hnul]
    cases hunlink : w.tree.unlink w.here path.toText with
    | ok tree => exact .delete hpath hunlink (.done _)
    | error why => cases why <;> exact .done w

end Probe

end ClasspathProbe
