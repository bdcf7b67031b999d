import ClasspathProbe.Program
import ClasspathProbe.Proofs.World.Action
import ClasspathProbe.Resolver
import ClasspathProbe.World.Edit

/-!
# Versions of build files

The version of a build file is the millisecond of its last change, and zero when that cannot be told
(`exec_version`). So it tells two states of a file apart when the milliseconds differ, and a file
that is there from one that is not, but for the first millisecond of all
(`Resolver.version_tells`): a file of that time can go and come unnoticed
(`Resolver.version_of_removed`).
-/

namespace ClasspathProbe.Resolver

open ClasspathProbe.Action (exec exec_ask exec_bind_error exec_bind_ok exec_pure exec_recover)

variable {r : Resolver} {w : World} {n n' : Int} {change change' : Option Int}

/-- Whether a time, in nanoseconds, lies in a millisecond. -/
def InMillisecond (ms t : Int) : Prop := ms * 1000000 ≤ t ∧ t < (ms + 1) * 1000000

theorem InMillisecond.unique {t : Int} (h : InMillisecond n t) (h' : InMillisecond n' t) :
    n = n' := by
  obtain ⟨hle, hlt⟩ := h
  obtain ⟨hle', hlt'⟩ := h'
  omega

theorem inMillisecond_fdiv (t : Int) : InMillisecond (Int.fdiv t 1000000) t := by
  rw [Int.fdiv_eq_ediv_of_nonneg t (by omega), InMillisecond]
  omega

/-- When the build file of a resolver was last changed, in nanoseconds, if that can be told. -/
def changedAt (r : Resolver) (w : World) : Option Int :=
  (w.tree.modified w.here r.buildFile.toText).toOption

/-- Whether a number is the version of a file with this last change. -/
def IsVersion (n : Int) : Option Int → Prop
  | some t => InMillisecond n t
  | none => n = 0

/-- Two last changes that have one version. -/
inductive OneVersion : Option Int → Option Int → Prop where
  | untold : OneVersion none none
  | told {t t' : Int} (ms : Int) (first : InMillisecond ms t) (second : InMillisecond ms t') :
      OneVersion (some t) (some t')
  | appeared {t : Int} (start : InMillisecond 0 t) : OneVersion none (some t)
  | vanished {t : Int} (start : InMillisecond 0 t) : OneVersion (some t) none

theorem IsVersion.eq_iff (h : IsVersion n change) (h' : IsVersion n' change') :
    n = n' ↔ OneVersion change change' := by
  constructor
  · rintro rfl
    cases change with
    | none =>
      obtain rfl : n = 0 := h
      cases change' with
      | none => exact .untold
      | some t' => exact .appeared h'
    | some t =>
      cases change' with
      | none =>
        obtain rfl : n = 0 := h'
        exact .vanished h
      | some t' => exact .told n h h'
  · intro hone
    cases hone with
    | untold => exact Eq.trans h (Eq.symm h')
    | told ms first second => exact (h.unique first).trans (h'.unique second).symm
    | appeared start => exact Eq.trans h (h'.unique start).symm
    | vanished start => exact (h.unique start).trans (Eq.symm h')

theorem exec_version_nul (h : '\x00' ∈ r.buildFile.toText) (w : World) :
    exec r.version w = (.error .embeddedNul, w) := by
  have hask : exec (Action.ask FileTree.modified r.buildFile.toText) w =
      (.error .embeddedNul, w) := by
    rw [exec_ask, if_pos (List.contains_iff_mem.2 h)]
  rw [version, exec_recover, exec_bind_error hask]
  rfl

/-- A refusal of the operating system, of whatever kind, counts as the version zero. -/
theorem exec_version (h : '\x00' ∉ r.buildFile.toText) (w : World) :
    ∃ n, exec r.version w = (.ok n, w) ∧ IsVersion n (r.changedAt w) := by
  have hnul : ¬r.buildFile.toText.contains '\x00' = true := mt List.contains_iff_mem.1 h
  rw [version, exec_recover, changedAt]
  cases hmodified : w.tree.modified w.here r.buildFile.toText with
  | ok t =>
    have hask : exec (Action.ask FileTree.modified r.buildFile.toText) w = (.ok t, w) := by
      rw [exec_ask, if_neg hnul, hmodified]
    rw [exec_bind_ok hask]
    exact ⟨_, rfl, inMillisecond_fdiv t⟩
  | error why =>
    have hask : exec (Action.ask FileTree.modified r.buildFile.toText) w =
        (.error (.refused why r.buildFile.toText), w) := by
      rw [exec_ask, if_neg hnul, hmodified]
    rw [exec_bind_error hask]
    exact ⟨0, rfl, rfl⟩

/-- **What a version tells.** A build file has a version in every world unless its path cannot be
written for the operating system. Two worlds give one version exactly when the last change cannot be
told in both, or lies in one millisecond in both, or can be told in one of them only and lies there
in the first millisecond of all. -/
theorem version_tells (r : Resolver) (w w' : World) :
    ('\x00' ∈ r.buildFile.toText → exec r.version w = (.error .embeddedNul, w)) ∧
    ('\x00' ∉ r.buildFile.toText →
      ∃ n n', exec r.version w = (.ok n, w) ∧ exec r.version w' = (.ok n', w') ∧
        IsVersion n (r.changedAt w) ∧ IsVersion n' (r.changedAt w') ∧
        (n = n' ↔ OneVersion (r.changedAt w) (r.changedAt w'))) := by
  refine ⟨fun hnul => exec_version_nul hnul w, fun hnul => ?_⟩
  obtain ⟨n, hexec, hn⟩ := exec_version hnul w
  obtain ⟨n', hexec', hn'⟩ := exec_version hnul w'
  exact ⟨n, n', hexec, hexec', hn, hn', hn.eq_iff hn'⟩

/-- A build file that was last changed at the start of time. -/
def epochWorld : World where
  tree := ⟨[(["p".toList], .directory 0),
    (["p".toList, "build.gradle".toList], .file ⟨[], false, 0⟩)]⟩
  here := []
  tempDirectory := "/t".toList
  environment := []

/-- **A build file can be removed without another version**, and for a path with NUL there is no
version but a failure. -/
theorem version_of_removed :
    (∃ r, of? (.ofText "p/build.gradle".toList) {} .standard = some r ∧
      let emptied := epochWorld.edit (·.removeAll "/p/build.gradle".toList)
      r.changedAt epochWorld = some 0 ∧ r.changedAt emptied = none ∧
      (exec r.version epochWorld).1 = .ok 0 ∧ (exec r.version emptied).1 = .ok 0) ∧
    ∃ r, of? (.ofText "a\x00/build.gradle".toList) {} .standard = some r ∧
      (exec r.version epochWorld).1 = .error .embeddedNul :=
  ⟨⟨_, rfl, rfl, rfl, rfl, rfl⟩, ⟨_, rfl, rfl⟩⟩

end ClasspathProbe.Resolver
