import ClasspathProbe.Artifact
import ClasspathProbe.Proofs.Path
import ClasspathProbe.Proofs.Text.Order

/-!
# Artifacts and sets of them

When an artifact can be made of two paths, and what a list without repetition knows of the artifacts
in it: two of them differ exactly when they are shown differently. Listings go by the compiled
paths alone: what they show is the same for every arrangement of a list exactly when artifacts with
one compiled path are shown alike (`rearranged_iff`).
-/

namespace ClasspathProbe

namespace Artifact

/-- The failure of an artifact whose compiled path is blank. -/
def blankFailure : Failure := .invalid [⟨[compiledField], .emptyArtifact⟩]

theorem of_eq (compiled : Path) (sources : Option Path) :
    Artifact.of compiled sources =
      if compiled.toText.isBlank then .error blankFailure else .ok ⟨compiled, sources⟩ := rfl

/-- Making artifacts one after the other goes through unless one of them is blank. -/
theorem mapM_of {α : Type} (compiled : α → Path) (sources : α → Option Path) (xs : List α) :
    (xs.mapM fun x => Artifact.of (compiled x) (sources x)) =
      if xs.any fun x => (compiled x).toText.isBlank then .error blankFailure
      else .ok (xs.map fun x => ⟨compiled x, sources x⟩) := by
  induction xs with
  | nil => rfl
  | cons x xs ih =>
    rw [List.mapM_cons, ih, of_eq]
    cases hx : (compiled x).toText.isBlank with
    | true => simp [hx, bind, Except.bind]
    | false =>
      cases hxs : xs.any fun x => (compiled x).toText.isBlank <;>
        simp [hx, hxs, bind, Except.bind, pure, Except.pure]

/-- The texts of an artifact's paths. -/
def shown (a : Artifact) : Text × Option Text := (a.compiled.toText, a.sources.map Path.toText)

theorem shown_inj {a b : Artifact} : a.shown = b.shown ↔ a = b := by
  obtain ⟨p, s⟩ := a
  obtain ⟨q, t⟩ := b
  simp only [shown, Prod.mk.injEq, Path.toText_inj, mk.injEq]
  cases s <;> cases t <;> simp [Path.toText_inj]

theorem nodup_eraseDups {α : Type} [BEq α] [LawfulBEq α] (as : List α) : as.eraseDups.Nodup := by
  match as with
  | [] => exact List.nodup_nil
  | a :: as =>
    rw [List.eraseDups_cons, List.nodup_cons]
    refine ⟨fun h => ?_, nodup_eraseDups _⟩
    simpa using List.mem_eraseDups.1 h
termination_by as.length
decreasing_by
  exact Nat.lt_succ_of_le (List.length_filter_le _ _)

/-- No two artifacts of a list without repetition are shown alike. -/
theorem nodup_shown {as : List Artifact} (h : as.Nodup) : (as.map shown).Nodup :=
  List.pairwise_map.2 (h.imp fun hne he => hne (shown_inj.1 he))

/-! ## Sorting a set -/

section Sorting

variable {α : Type} [BEq α] [LawfulBEq α] {le : α → α → Bool}

theorem mem_sorted {as : List α} {a : α} : a ∈ as.eraseDups.mergeSort le ↔ a ∈ as := by
  rw [List.mem_mergeSort, List.mem_eraseDups]

theorem nodup_sorted (as : List α) : (as.eraseDups.mergeSort le).Nodup :=
  (List.mergeSort_perm _ le).nodup_iff.2 (nodup_eraseDups as)

/-- Sorted by a total order, lists become equal exactly when they have the same members. -/
theorem sorted_eq_iff (htrans : ∀ a b c, le a b = true → le b c = true → le a c = true)
    (htotal : ∀ a b, (le a b || le b a) = true)
    (hantisymm : ∀ a b, le a b = true → le b a = true → a = b) {as bs : List α} :
    as.eraseDups.mergeSort le = bs.eraseDups.mergeSort le ↔ ∀ a, a ∈ as ↔ a ∈ bs := by
  constructor
  · intro h a
    have has : a ∈ as.eraseDups.mergeSort le ↔ a ∈ as := mem_sorted
    rw [← has, h, mem_sorted]
  · intro h
    have hperm : (as.eraseDups.mergeSort le).Perm (bs.eraseDups.mergeSort le) := by
      refine (List.perm_ext_iff_of_nodup (nodup_sorted as) (nodup_sorted bs)).2 fun a => ?_
      rw [mem_sorted, mem_sorted, h]
    exact hperm.eq_of_pairwise (fun a b _ _ => hantisymm a b)
      (List.pairwise_mergeSort htrans htotal _) (List.pairwise_mergeSort htrans htotal _)

end Sorting

/-! ## The order of listings -/

theorem compiledLe_trans (a b c : Artifact) (hab : compiledLe a b = true)
    (hbc : compiledLe b c = true) : compiledLe a c = true :=
  Text.le_trans hab hbc

theorem compiledLe_total (a b : Artifact) : (compiledLe a b || compiledLe b a) = true := by
  rw [Bool.or_eq_true]
  exact Text.le_total _ _

theorem mem_byCompiled {as : List Artifact} {a : Artifact} : a ∈ byCompiled as ↔ a ∈ as :=
  mem_sorted

theorem nodup_byCompiled (as : List Artifact) : (byCompiled as).Nodup := nodup_sorted as

theorem pairwise_compiledLe (as : List Artifact) :
    (byCompiled as).Pairwise fun a b => compiledLe a b = true :=
  List.pairwise_mergeSort compiledLe_trans compiledLe_total _

/-- The compiled paths are shown in the order of their characters. -/
theorem pairwise_byCompiled (as : List Artifact) :
    (byCompiled as).Pairwise fun a b =>
      a.compiled.toText = b.compiled.toText ∨ a.compiled.toText.Before b.compiled.toText :=
  (pairwise_compiledLe as).imp fun hab => Text.le_iff_before.1 hab

theorem byCompiled_perm {as bs : List Artifact} (h : as.Perm bs) :
    (byCompiled as).Perm (byCompiled bs) := by
  refine (List.perm_ext_iff_of_nodup (nodup_byCompiled as) (nodup_byCompiled bs)).2 fun a => ?_
  rw [mem_byCompiled, mem_byCompiled, h.mem_iff]

/-- The first artifact of a list is listed right behind those whose compiled paths come before its
own. -/
theorem byCompiled_cons (a : Artifact) (as : List Artifact) :
    ∃ front back, byCompiled (a :: as) = front ++ a :: back ∧
      front.length = (byCompiled (a :: as)).countP fun b => !compiledLe a b := by
  obtain ⟨front, back, hsplit, -, hfront⟩ := List.mergeSort_cons compiledLe_trans compiledLe_total a
    (as.filter fun b => !b == a).eraseDups
  rw [← List.eraseDups_cons] at hsplit
  change byCompiled (a :: as) = _ at hsplit
  refine ⟨front, back, hsplit, ?_⟩
  have hsorted := pairwise_compiledLe (a :: as)
  rw [hsplit, List.pairwise_append, List.pairwise_cons] at hsorted
  have hbehind : (a :: back).countP (fun b => !compiledLe a b) = 0 := by
    refine List.countP_eq_zero.2 fun b hb => ?_
    have hab : compiledLe a b = true := by
      rcases List.mem_cons.1 hb with rfl | hb
      · exact Text.le_refl _
      · exact hsorted.2.1.1 b hb
    simp [hab]
  rw [hsplit, List.countP_append, hbehind, List.countP_eq_length.2 hfront, Nat.add_zero]

/-- Two artifacts with one compiled path stay in the order of their list. -/
theorem byCompiled_pair {a b : Artifact} (hne : a ≠ b) (hpath : a.compiled = b.compiled) :
    byCompiled [a, b] = [a, b] := by
  have hkept : [b].filter (fun c => !c == a) = [b] :=
    List.filter_cons_of_pos (by simpa using Ne.symm hne)
  have hle : compiledLe a b = true := by
    rw [compiledLe, hpath]
    exact Text.le_refl _
  rw [byCompiled, List.eraseDups_cons, hkept, List.eraseDups_cons]
  exact List.mergeSort_of_pairwise (by simpa using hle)

/-- What a listing shows of each artifact is the same however its list is arranged exactly when
artifacts with one compiled path are shown alike. -/
theorem rearranged_iff {β : Type} (f : Artifact → β) {as : List Artifact} :
    (∀ others : List Artifact, others.Perm as →
      (byCompiled others).map f = (byCompiled as).map f) ↔
      ∀ a ∈ as, ∀ b ∈ as, a.compiled = b.compiled → f a = f b := by
  constructor
  · intro h a ha b hb hpath
    -- whichever of the two the list starts with stands at the same place of the listing
    have hat : ∀ c ∈ as, c.compiled = a.compiled →
        ((byCompiled as).map f)[(byCompiled as).countP fun d => !compiledLe a d]? = some (f c) := by
      intro c hc hcpath
      have hperm : as.Perm (c :: as.erase c) := List.perm_cons_erase hc
      obtain ⟨front, back, hsplit, hlength⟩ := byCompiled_cons c (as.erase c)
      have hle : compiledLe c = compiledLe a := by
        funext d
        rw [compiledLe, compiledLe, hcpath]
      have hfront : (front.map f).length = front.length := List.length_map _
      rw [(byCompiled_perm hperm).countP_eq, ← hle, ← hlength, ← h _ hperm.symm, hsplit,
        List.map_append, ← hfront, List.getElem?_append_right (Nat.le_refl _), Nat.sub_self]
      rfl
    have hab := (hat a ha rfl).symm.trans (hat b hb hpath.symm)
    exact Option.some.inj hab
  · intro h others hperm
    let tagged (a : Artifact) : Text × β := (a.compiled.toText, f a)
    have hsorted : ∀ bs : List Artifact,
        ((byCompiled bs).map tagged).Pairwise fun x y => Text.le x.1 y.1 = true := fun bs =>
      List.pairwise_map.2 (pairwise_compiledLe bs)
    have htagged : (byCompiled others).map tagged = (byCompiled as).map tagged := by
      refine ((byCompiled_perm hperm).map tagged).eq_of_pairwise (fun x y hx hy hxy hyx => ?_)
        (hsorted others) (hsorted as)
      obtain ⟨a, ha, rfl⟩ := List.mem_map.1 hx
      obtain ⟨b, hb, rfl⟩ := List.mem_map.1 hy
      have htext : a.compiled.toText = b.compiled.toText := Text.le_antisymm hxy hyx
      have ha' : a ∈ as := hperm.mem_iff.1 (mem_byCompiled.1 ha)
      have hf : f a = f b := h a ha' b (mem_byCompiled.1 hb) (Path.toText_inj.1 htext)
      exact Prod.ext htext hf
    have hshown := congrArg (List.map Prod.snd) htagged
    rwa [List.map_map, List.map_map] at hshown

/-! ## Listings of paths -/

theorem nodup_pathsInOrder (ps : List Path) : (pathsInOrder ps).Nodup := nodup_sorted ps

theorem mem_pathsInOrder {ps : List Path} {p : Path} : p ∈ pathsInOrder ps ↔ p ∈ ps := mem_sorted

theorem textLe_trans (p q r : Path) (hpq : Text.le p.toText q.toText = true)
    (hqr : Text.le q.toText r.toText = true) : Text.le p.toText r.toText = true :=
  Text.le_trans hpq hqr

theorem textLe_total (p q : Path) :
    (Text.le p.toText q.toText || Text.le q.toText p.toText) = true := by
  rw [Bool.or_eq_true]
  exact Text.le_total _ _

theorem pathsInOrder_eq_iff {ps qs : List Path} :
    pathsInOrder ps = pathsInOrder qs ↔ ∀ p, p ∈ ps ↔ p ∈ qs :=
  sorted_eq_iff textLe_trans textLe_total fun _ _ hpq hqp =>
    Path.toText_inj.1 (Text.le_antisymm hpq hqp)

/-- Paths are shown with each text before the next one. -/
theorem pairwise_pathsInOrder (ps : List Path) :
    (pathsInOrder ps).Pairwise fun p q => p.toText.Before q.toText := by
  have hsorted : (pathsInOrder ps).Pairwise fun p q => Text.le p.toText q.toText = true :=
    List.pairwise_mergeSort textLe_trans textLe_total _
  refine (hsorted.and (nodup_pathsInOrder ps)).imp fun {p q} ⟨hle, hne⟩ => ?_
  exact (Text.le_iff_before.1 hle).resolve_left fun heq => hne (Path.toText_inj.1 heq)

end Artifact

end ClasspathProbe
