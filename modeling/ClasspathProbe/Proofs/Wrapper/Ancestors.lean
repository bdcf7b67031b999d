import ClasspathProbe.Proofs.FileTree.Spelling
import ClasspathProbe.Proofs.Wrapper.Nearest

/-!
# Wrappers and the directories above

The search for a wrapper goes up along the workspace's path as it is written, and `..` is a part of
it like any other. Without links a path leads where its parts do one after the other
(`FileTree.ahead`), so the wrapper lies in the directory that a beginning of the written path leads
to (`Wrapper.lies_on_written_path`). Where the rest goes back, that can be a directory beside the
workspace (`Wrapper.not_above_sibling`).
-/

namespace ClasspathProbe

open ClasspathProbe.Action (exec exec_bind)

/-! ## Trees without links -/

namespace FileTree

variable {t : FileTree} {here place : Location} {names names' : List Text} {node : Node}

/-- Whether a tree holds no link. -/
def LinkFree (t : FileTree) : Prop := ∀ place target, t.node? place ≠ some (.link target)

/-- Where names lead from a place when there is no link on the way. -/
def ahead (here : Location) (names : List Text) : Location :=
  names.foldl (fun place name =>
    if IsIdle name then place
    else if name = ['.', '.'] then place.dropLast
    else place ++ [name]) here

theorem linkFree_of_nodes (h : ∀ n ∈ t.nodes, ∀ target, n.2 ≠ .link target) : t.LinkFree := by
  intro place target hnode
  rw [node?] at hnode
  split at hnode
  · cases hnode
  · obtain ⟨front, back, hnodes, -⟩ := List.lookup_eq_some_iff.1 hnode
    exact h (place, .link target) (by simp [hnodes]) target rfl

theorem ahead_append (here : Location) (front back : List Text) :
    ahead here (front ++ back) = ahead (ahead here front) back :=
  List.foldl_append

theorem ahead_skips (h : Skips names names') (here : Location) :
    ahead here names = ahead here names' := by
  induction h generalizing here with
  | nil => rfl
  | keep name _ ih =>
    rw [ahead, ahead, List.foldl_cons, List.foldl_cons]
    exact ih _
  | skip idle _ ih =>
    rw [ahead, List.foldl_cons, if_pos idle]
    exact ih _

/-- Names that do not go back lead below. -/
theorem prefix_ahead (h : ['.', '.'] ∉ names) (here : Location) : here <+: ahead here names := by
  induction names generalizing here with
  | nil => exact List.prefix_rfl
  | cons name names ih =>
    obtain ⟨hname, hnames⟩ := not_or.1 (mt List.mem_cons.2 h)
    rw [ahead, List.foldl_cons, if_neg (Ne.symm hname)]
    split
    · exact ih hnames here
    · exact (List.prefix_append here [name]).trans (ih hnames _)

/-- The names of a place lead to it. -/
theorem ahead_of_plain (h : ∀ n ∈ names, Path.IsPart n ∧ n ≠ ['.', '.']) (here : Location) :
    ahead here names = here ++ names := by
  induction names generalizing here with
  | nil => rw [List.append_nil]; rfl
  | cons name names ih =>
    obtain ⟨⟨hpart, hup⟩, hnames⟩ := List.forall_mem_cons.1 h
    have hidle : ¬IsIdle name := fun hidle => hidle.elim hpart.1 hpart.2.1
    rw [ahead, List.foldl_cons, if_neg hidle, if_neg hup, ← ahead, ih hnames, List.append_assoc,
      List.singleton_append]

theorem LinkFree.descend (h : t.LinkFree) {jump : Location → List Text → Except Refusal Spot}
    (hd : t.descend .target jump here names = .ok (.found place node)) :
    place = ahead here names := by
  induction names generalizing here with
  | nil =>
    obtain ⟨rfl, -⟩ := Spot.found.inj (Except.ok.inj hd)
    rfl
  | cons name rest ih =>
    rw [FileTree.descend] at hd
    rw [ahead, List.foldl_cons]
    split at hd
    next hidle =>
      rw [if_pos hidle]
      exact ih hd
    next hidle =>
    rw [if_neg hidle]
    split at hd
    next hup =>
      rw [if_pos hup]
      exact ih hd
    next hup =>
    rw [if_neg hup]
    split at hd
    · cases hd
    split at hd
    · cases hd
    split at hd
    · split at hd <;> cases hd
    · exact ih hd
    · split at hd
      next hrest =>
        obtain ⟨rfl, -⟩ := Spot.found.inj (Except.ok.inj hd)
        rw [hrest]
        rfl
      next => cases hd
    · next hlink => exact absurd hlink (h _ _)

/-- What the text of a path leads to is where its parts do. -/
theorem LinkFree.look (h : t.LinkFree) {p : Path}
    (hlook : t.look here p.toText = .ok (place, node)) :
    place = ahead (startOf p.toText here) p.parts := by
  have hskips := Skips.steps_partsOf p.toText
  have hparts : Path.partsOf p.toText = p.parts := congrArg Path.parts (Path.ofText_toText p)
  rw [hparts] at hskips
  rw [← ahead_skips hskips]
  have hloc := locate_of_look hlook
  rw [locate, if_neg p.toText_ne_nil] at hloc
  split at hloc
  · cases hloc
  · exact h.descend hloc

end FileTree

open FileTree (ahead)

/-! ## Paths seen from the working directory -/

/-- The absolute form of a path leads from the root to where the path leads. -/
theorem World.ahead_absolute {w : World} (hhere : ∀ n ∈ w.here, Path.IsPart n ∧ n ≠ ['.', '.'])
    (p : Path) :
    ahead [] (w.absolute p).parts = ahead (FileTree.startOf p.toText w.here) p.parts := by
  rw [World.absolute, Path.join, FileTree.startOf_eq, Path.ofText_toText, Path.isAbsolute]
  by_cases hroot : p.root = .here
  · have hdirectory : w.directory.parts = w.here :=
      (Path.partsOf_slash _).trans (Path.partsOf_joined fun n hn => (hhere n hn).1)
    simp only [hroot, ne_eq, not_true_eq_false, decide_false, Bool.false_eq_true, if_false, if_true,
      hdirectory]
    rw [FileTree.ahead_append, FileTree.ahead_of_plain hhere, List.nil_append]
  · simp [hroot]

/-! ## The wrapper that is found -/

namespace Wrapper

variable {m : Machine} {settings : GradleSettings} {workspace p : Path} {w w' : World}

/-- What the search gives is one of the paths and leads to an executable file. -/
theorem of_exec_firstWrapper? {places : List Path}
    (h : (exec (firstWrapper? places) w).1 = .ok (some p)) : p ∈ places ∧ IsExecutable w p := by
  induction places with
  | nil => cases h
  | cons q places ih =>
    rw [firstWrapper?, exec_bind, Action.exec_isWrapper] at h
    cases hsight : w.sight q with
    | error e =>
      rw [hsight] at h
      cases h
    | ok s =>
      by_cases hs : s = .executable
      · subst hs
        rw [hsight] at h
        obtain rfl : q = p := by simpa [Except.map] using h
        exact ⟨List.mem_cons_self, sight_eq_executable_iff.1 hsight⟩
      · have hrest : (exec (firstWrapper? places) w).1 = .ok (some p) := by
          simpa [hsight, Except.map, hs] using h
        exact (ih hrest).imp (List.mem_cons_of_mem q) id

/-- What is found without asking for the command is the first executable file. -/
theorem of_exec_find (hfind : exec (find m settings workspace) w = (.ok p, w'))
    (hdeeds : w'.deeds = w.deeds) :
    (∃ d ∈ (w.absolute workspace).chain, p = d.join (.ofText (name m.isWindows settings))) ∧
      IsExecutable w p := by
  obtain ⟨asked, hanswers, hasked⟩ := exec_find_answers m settings workspace w
  rw [hfind] at hanswers hasked
  obtain rfl : asked = [] := by
    rw [hdeeds] at hasked
    exact List.self_eq_append_right.1 hasked
  generalize hnone : [] = asked at hanswers
  cases hanswers with
  | wrapper search =>
    obtain ⟨hmem, hexecutable⟩ := of_exec_firstWrapper? search
    obtain ⟨d, hd, rfl⟩ := List.mem_map.1 hmem
    exact ⟨⟨d, hd, rfl⟩, hexecutable⟩
  | command => cases hnone

/-- **A wrapper lies on the written path.** In a tree without links, the directory of a wrapper that
is found for a workspace is where a beginning of the workspace's path leads, and the workspace is
where the rest leads from there. So the wrapper lies in the workspace or above it when the rest does
not go back. -/
theorem lies_on_written_path {workspaceAt : Location} {time : Int}
    (hlinks : w.tree.LinkFree) (hhere : ∀ n ∈ w.here, Path.IsPart n ∧ n ≠ ['.', '.'])
    (hname : Path.IsPart (name m.isWindows settings) ∧ name m.isWindows settings ≠ ['.', '.'])
    (hworkspace : w.tree.look w.here workspace.toText = .ok (workspaceAt, .directory time))
    (hfind : exec (find m settings workspace) w = (.ok p, w')) (hdeeds : w'.deeds = w.deeds) :
    ∃ front back f, (w.absolute workspace).parts = front ++ back ∧
      w.tree.look w.here p.toText =
        .ok (ahead [] front ++ [name m.isWindows settings], .file f) ∧ f.executable = true ∧
      workspaceAt = ahead (ahead [] front) back ∧
      (['.', '.'] ∉ back → ahead [] front <+: workspaceAt) := by
  obtain ⟨⟨d, hd, rfl⟩, f, ⟨-, place, hlook⟩, hexecutable⟩ := of_exec_find hfind hdeeds
  obtain ⟨k, -, rfl⟩ := Path.mem_chain.1 hd
  have hroot : (Path.ofText (name m.isWindows settings)).root = .here := by
    by_contra hne
    exact hname.1.2.2 (List.mem_of_mem_head? (Path.head?_of_ofText_ne_here hne))
  have hpart : ∀ n ∈ [name m.isWindows settings], Path.IsPart n :=
    List.forall_mem_singleton.2 hname.1
  have hparts : (Path.ofText (name m.isWindows settings)).parts = [name m.isWindows settings] :=
    Path.partsOf_joined hpart
  have habs : (w.absolute workspace).root ≠ .here := Path.join_ne_here _ (Path.rootOf_slash_ne _)
  have hplace := hlinks.look hlook
  rw [FileTree.startOf_eq, Path.ofText_toText, Path.join, Path.isAbsolute] at hplace
  simp only [hroot, ne_eq, not_true_eq_false, decide_false, Bool.false_eq_true, if_false, hparts,
    Path.above, habs] at hplace
  generalize (w.absolute workspace).parts.length - k = n at hplace
  have hsplit := List.take_append_drop n (w.absolute workspace).parts
  have hat := hlinks.look hworkspace
  rw [← World.ahead_absolute hhere, ← hsplit, FileTree.ahead_append] at hat
  refine ⟨_, _, f, hsplit.symm, ?_, hexecutable, hat, fun hback => ?_⟩
  · rw [hlook, hplace, FileTree.ahead_append,
      FileTree.ahead_of_plain (List.forall_mem_singleton.2 hname)]
  · rw [hat]
    exact FileTree.prefix_ahead hback _

/-- A workspace beside the working directory, which holds a wrapper. -/
def siblingWorld : World where
  tree := ⟨[(["a".toList], .directory 0), (["a".toList, "b".toList], .directory 0),
    (["a".toList, "b".toList, "gradlew".toList], .file ⟨[], true, 0⟩),
    (["a".toList, "other".toList], .directory 0),
    (["a".toList, "other".toList, "build.gradle".toList], .file ⟨[], false, 0⟩)]⟩
  here := ["a".toList, "b".toList]
  tempDirectory := "/t".toList
  environment := []

/-- A machine that knows where one command is. -/
def knowingMachine : Machine where
  isWindows := false
  which := fun _ command =>
    if command = "gradle".toList then some (.ofText "/bin/gradle".toList) else none
  run := fun _ _ _ => .ok ([], [])

theorem linkFree_siblingWorld : siblingWorld.tree.LinkFree :=
  FileTree.linkFree_of_nodes (by simp [siblingWorld])

theorem look_siblingWorld :
    siblingWorld.tree.look siblingWorld.here (Path.ofText "../other".toList).toText =
      .ok (["a".toList, "other".toList], .directory 0) := rfl

theorem exec_find_siblingWorld :
    ∃ w', exec (find knowingMachine {} (.ofText "../other".toList)) siblingWorld =
      (.ok (.ofText "/a/b/gradlew".toList), w') ∧ w'.deeds = siblingWorld.deeds :=
  ⟨_, rfl, rfl⟩

theorem lies_on_written_path_sibling :
    ∃ front back f, (siblingWorld.absolute (.ofText "../other".toList)).parts = front ++ back ∧
      siblingWorld.tree.look siblingWorld.here "/a/b/gradlew".toList =
        .ok (ahead [] front ++ ["gradlew".toList], .file f) ∧ f.executable = true ∧
      ["a".toList, "other".toList] = ahead (ahead [] front) back ∧
      (['.', '.'] ∉ back → ahead [] front <+: ["a".toList, "other".toList]) := by
  obtain ⟨w', hfind, hdeeds⟩ := exec_find_siblingWorld
  exact lies_on_written_path linkFree_siblingWorld (by decide) (by decide) look_siblingWorld hfind
    hdeeds

/-- **The wrapper of a directory beside the workspace can be found**, for a workspace written from
there. -/
theorem not_above_sibling :
    siblingWorld.tree.LinkFree ∧
      siblingWorld.tree.look siblingWorld.here (Path.ofText "../other".toList).toText =
        .ok (["a".toList, "other".toList], .directory 0) ∧
      (∃ w', exec (find knowingMachine {} (.ofText "../other".toList)) siblingWorld =
        (.ok (.ofText "/a/b/gradlew".toList), w') ∧ w'.deeds = siblingWorld.deeds) ∧
      siblingWorld.tree.look siblingWorld.here "/a/b/gradlew".toList =
        .ok (["a".toList, "b".toList, "gradlew".toList], .file ⟨[], true, 0⟩) ∧
      ¬["a".toList, "b".toList] <+: ["a".toList, "other".toList] :=
  ⟨linkFree_siblingWorld, look_siblingWorld, exec_find_siblingWorld, rfl, by decide⟩

end Wrapper

end ClasspathProbe
