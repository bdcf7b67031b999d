import ClasspathProbe.Program
import ClasspathProbe.Proofs.FileTree.Absolute
import ClasspathProbe.Proofs.Text.Utf8
import ClasspathProbe.Proofs.Wrapper.Ancestors

/-!
# What is found can be run from anywhere

A wrapper is found under its absolute path, a command under a name that may be relative to the
working directory. In both cases the path that is given is absolute and its parts lead from the root
to an executable file, so it means that file in every directory that a process is started in
(`Wrapper.means_same_file`). The one exception is a command whose path is too long to be looked up,
which becomes so when it is made absolute (`Wrapper.path_too_long`).
-/

namespace ClasspathProbe

open ClasspathProbe.Action (exec)

/-- A text goes to the operating system and comes back. -/
theorem Raw.decode_encode (s : Text) : Raw.decode (Raw.encode s) = s := by
  rw [Raw.decode, Raw.encode, Raw.toBytes_ofBytes, Utf8.decode_encode]

variable {w w' : World} {p : Path}

/-! ## The search path -/

namespace Program

variable {name command : Text}

/-- What can be run from a real directory is an executable file. -/
theorem look_of_isRunnable (hground : w.tree.Grounded w.here) (h : isRunnable w name = true) :
    '\x00' ∉ name ∧
      ∃ place f, w.tree.look w.here name = .ok (place, .file f) ∧ f.executable = true := by
  rw [isRunnable, Bool.and_eq_true, Bool.and_eq_true, Bool.not_eq_true', FileTree.permitsExecution,
    FileTree.leadsToDirectory] at h
  obtain ⟨⟨hnul, hpermits⟩, hfile⟩ := h
  refine ⟨fun hmem => ?_, ?_⟩
  · rw [List.contains_iff_mem.2 hmem] at hnul
    cases hnul
  cases hlook : w.tree.look w.here name with
  | error why =>
    rw [hlook] at hpermits
    cases hpermits
  | ok found =>
    obtain ⟨place, node⟩ := found
    rw [hlook] at hpermits hfile
    cases node with
    | file f => exact ⟨place, f, rfl, hpermits⟩
    | directory time => cases hfile
    | link target => exact absurd hlook (FileTree.look_ne_link hground target)

theorem of_find? (h : find? w command = some p) :
    ∃ name, isRunnable w name = true ∧ p = w.absolute (.ofText name) := by
  rw [find?, Option.map_eq_some_iff] at h
  obtain ⟨name, hsearch, rfl⟩ := h
  refine ⟨name, ?_, rfl⟩
  rw [search?] at hsearch
  split at hsearch
  · split at hsearch
    next hrun => rwa [← Option.some.inj hsearch]
    next => cases hsearch
  · dsimp only at hsearch
    split at hsearch
    · cases hsearch
    · exact List.find?_some hsearch

end Program

/-! ## What the search gives -/

/-- A file that may be executed stays one when files are written. -/
theorem FileTree.Written.node?_executable {t t' : FileTree} {P : Location → Prop}
    {place : Location} {f : File} (h : t.Written P t') (hf : t.node? place = some (.file f))
    (hexecutable : f.executable = true) :
    ∃ g, t'.node? place = some (.file g) ∧ g.executable = true := by
  obtain he | ⟨-, g, writable, hg⟩ := h place
  · exact ⟨f, he.trans hf, hexecutable⟩
  · refine ⟨g, hg, ?_⟩
    obtain ⟨hnone, -⟩ | ⟨f', hf', hx⟩ := writable
    · cases hnone.symm.trans hf
    · obtain rfl := Node.file.inj (Option.some.inj (hf'.symm.trans hf))
      exact hx.trans hexecutable

namespace Wrapper

variable {m : Machine} {settings : GradleSettings} {workspace : Path}

/-- What the search gives is the absolute form of a name that leads to an executable file, which for
a wrapper is the path itself. -/
theorem name_of_exec_find (hwhich : m.which = Program.find?) (hground : w.tree.Grounded w.here)
    (h : exec (find m settings workspace) w = (.ok p, w')) :
    ∃ name, p = w.absolute (.ofText name) ∧ '\x00' ∉ name ∧
      (∃ place f, w.tree.look w.here name = .ok (place, .file f) ∧ f.executable = true) ∧
      (w'.deeds = w.deeds → name = p.toText) := by
  obtain ⟨asked, hanswers, hdeeds⟩ := exec_find_answers m settings workspace w
  rw [h] at hanswers hdeeds
  cases hanswers with
  | wrapper search =>
    obtain ⟨hmem, f, ⟨hnul, place, hlook⟩, hexecutable⟩ := of_exec_firstWrapper? search
    obtain ⟨d, hd, rfl⟩ := List.mem_map.1 hmem
    obtain ⟨k, -, rfl⟩ := Path.mem_chain.1 hd
    have habs : (((w.absolute workspace).above k).join
        (.ofText (Wrapper.name m.isWindows settings))).root ≠ .here :=
      Path.join_ne_here _ (w.absolute_ne_here workspace)
    refine ⟨_, ?_, ?_, ⟨place, f, hlook, hexecutable⟩, fun _ => rfl⟩
    · rw [Path.ofText_toText]
      exact (Path.join_of_ne_here _ habs).symm
    · exact fun hmem => Bool.false_ne_true (hnul.symm.trans (List.contains_iff_mem.2 hmem))
  | command search known =>
    rw [hwhich] at known
    obtain ⟨name, hrun, rfl⟩ := Program.of_find? known
    obtain ⟨hclean, hleads⟩ := Program.look_of_isRunnable hground hrun
    refine ⟨name, rfl, hclean, hleads, fun hsame => ?_⟩
    rw [hsame] at hdeeds
    cases List.self_eq_append_right.1 hdeeds

/-- **What is found can be run from anywhere.** The path that the search gives is absolute, without
NUL, and its parts lead from the root to an executable file, in the world that the search leaves. It
is the only candidate when a process is started with it, and in every directory it is looked up as
that file, unless it is longer than the longest path; a wrapper's path never is. -/
theorem means_same_file (hwhich : m.which = Program.find?) (hw : w.Stands)
    (h : exec (find m settings workspace) w = (.ok p, w')) :
    p.isAbsolute = true ∧ '\x00' ∉ p.toText ∧
    ∃ place f, f.executable = true ∧
      w'.tree.walk .target FileTree.mostLinks [] p.parts = .ok (.found place (.file f)) ∧
      (∀ path here, Program.candidates path p.toText = [p.toText] ∧
        w'.tree.look here (Raw.decode (Raw.encode p.toText)) =
          if FileTree.longestPath < (Utf8.encode p.toText).length then .error .nameTooLong
          else .ok (place, .file f)) ∧
      (w'.deeds = w.deeds → (Utf8.encode p.toText).length ≤ FileTree.longestPath) := by
  obtain ⟨name, rfl, hclean, ⟨place, f, hlook, hexecutable⟩, hwrapper⟩ :=
    name_of_exec_find hwhich hw.grounded h
  have habs := w.absolute_ne_here (.ofText name)
  have hlogs : w.OnlyLogs w' := (find_keeps onlyLogs_deedFrame m settings workspace).after h
  have hnode := FileTree.node?_of_locate_file (FileTree.locate_of_look hlook)
  obtain ⟨g, hafter, hg⟩ := hlogs.tree.node?_executable hnode hexecutable
  have hwalk := hlogs.tree.walk_file (hw.walk_absolute hlook) hafter
  refine ⟨by simpa [Path.isAbsolute] using habs, hw.not_mem_absolute hclean, place, g, hg, hwalk,
    fun path here => ⟨?_, ?_⟩, fun hdeeds => ?_⟩
  · have hslash := List.mem_of_mem_head? (Path.head?_toText habs)
    rw [Program.candidates, if_pos (List.contains_iff_mem.2 hslash)]
  · rw [Raw.decode_encode]
    exact FileTree.look_of_walk habs hwalk here
  · have hloc := FileTree.locate_of_look hlook
    rw [hwrapper hdeeds, FileTree.locate, if_neg (Path.toText_ne_nil _)] at hloc
    split at hloc
    · cases hloc
    · next hshort => exact Nat.not_lt.1 hshort

/-- A project that keeps its command in a directory of its own, where the search path has it. -/
def relativeWorld : World where
  tree := ⟨[(["p".toList], .directory 0), (["p".toList, "bin".toList], .directory 0),
    (["p".toList, "bin".toList, "gradle".toList], .file ⟨[], true, 0⟩)]⟩
  here := ["p".toList]
  tempDirectory := "/t".toList
  environment := [("PATH".toList, "bin".toList)]

theorem stands_relativeWorld : relativeWorld.Stands where
  grounded
    | 0 => ⟨0, rfl⟩
    | k + 1 => ⟨0, by rw [relativeWorld, List.take_succ_cons, List.take_nil]; rfl⟩
  names := List.forall_mem_singleton.2 ⟨by decide, by decide, by decide, by decide⟩

theorem means_same_file_relative :
    relativeWorld.Stands ∧
    ∃ w', exec (find .standard {} (.ofText ".".toList)) relativeWorld =
        (.ok (.ofText "/p/bin/gradle".toList), w') ∧
      ∃ place f, f.executable = true ∧
        ∀ here, w'.tree.look here "/p/bin/gradle".toList = .ok (place, .file f) := by
  have hfind : ∃ w', exec (find .standard {} (.ofText ".".toList)) relativeWorld =
      (.ok (.ofText "/p/bin/gradle".toList), w') := ⟨_, rfl⟩
  obtain ⟨w', hfind⟩ := hfind
  obtain ⟨-, -, place, f, hexecutable, -, hlook, -⟩ :=
    means_same_file rfl stands_relativeWorld hfind
  refine ⟨stands_relativeWorld, w', hfind, place, f, hexecutable, fun here => ?_⟩
  have := (hlook [] here).2
  rwa [Raw.decode_encode] at this

/-! ## A path that is too long -/

/-- A long name, and directories of this name in each other. -/
def longName : Text := List.replicate 194 'd'

def stairs : Nat → List (Location × Node)
  | 0 => []
  | k + 1 => (List.replicate (k + 1) longName, .directory 0) :: stairs k

theorem lookup_stairs {j k : Nat} (hj : 0 < j) (hjk : j ≤ k) :
    (stairs k).lookup (List.replicate j longName) = some (.directory 0) := by
  induction k with
  | zero => omega
  | succ k ih =>
    by_cases hlast : j = k + 1
    · rw [hlast, stairs, List.lookup_cons_self]
    · have hne : List.replicate j longName ≠ List.replicate (k + 1) longName := fun h => by
        have := congrArg List.length h
        rw [List.length_replicate, List.length_replicate] at this
        exact hlast this
      rw [stairs, List.lookup_cons, beq_false_of_ne hne]
      exact ih (by omega)

/-- The deepest directory is the working directory, and holds the command that the search path finds
there. -/
def deepWorld : World where
  tree := ⟨(List.replicate 21 longName ++ ["gradle".toList], .file ⟨[], true, 0⟩) :: stairs 21⟩
  here := List.replicate 21 longName
  tempDirectory := "/t".toList
  environment := [("PATH".toList, ":".toList)]

theorem stands_deepWorld : deepWorld.Stands where
  grounded k := by
    refine ⟨0, ?_⟩
    rw [deepWorld, List.take_replicate]
    by_cases hk : min k 21 = 0
    · rw [hk]
      rfl
    · have hne : List.replicate (min k 21) longName ≠ [] := by simpa using hk
      have hfile : List.replicate (min k 21) longName ≠
          List.replicate 21 longName ++ ["gradle".toList] := fun h => by
        have := congrArg List.length h
        simp only [List.length_append, List.length_replicate, List.length_singleton] at this
        omega
      rw [FileTree.node?, if_neg hne, List.lookup_cons, beq_false_of_ne hfile]
      exact lookup_stairs (by omega) (by omega)
  names n hn := by
    obtain rfl := List.eq_of_mem_replicate hn
    have hmem {c : Char} (hc : c ≠ 'd') : c ∉ longName := fun h => hc (List.eq_of_mem_replicate h)
    exact ⟨⟨by decide, by decide, hmem (by decide)⟩, by decide, hmem (by decide),
      by decide +kernel⟩

theorem length_joined (n : Nat) (last : Text) :
    (Text.joined ['/'] (List.replicate n longName ++ [last])).length = n * 195 + last.length := by
  induction n with
  | zero => simp [Text.joined]
  | succ n ih =>
    rw [List.replicate_succ, List.cons_append, Text.joined, List.length_append, List.length_append,
      ih, longName, List.length_replicate, List.length_singleton]
    · omega
    · simp

theorem exec_find_deepWorld :
    ∃ w', exec (find .standard {} (.ofText "/".toList)) deepWorld =
      (.ok (deepWorld.absolute (.ofText "gradle".toList)), w') := by
  have hsearch : exec (firstWrapper? (candidates deepWorld (name false {}) (.ofText "/".toList)))
      deepWorld = (.ok none, deepWorld) := rfl
  have hknown : Program.search? deepWorld "gradle".toList = some "gradle".toList := by
    decide +kernel
  have hgiven : (exec (find .standard {} (.ofText "/".toList)) deepWorld).1 = _ :=
    (exec_find_given hsearch).1
  have hwhich : Machine.standard.which deepWorld "gradle".toList =
      some (deepWorld.absolute (.ofText "gradle".toList)) := by
    change Program.find? deepWorld "gradle".toList = _
    rw [Program.find?, hknown]
    rfl
  rw [show ({} : GradleSettings).command = "gradle".toList from rfl, hwhich] at hgiven
  exact ⟨_, Prod.ext hgiven rfl⟩

/-- The path that is given is too long to be looked up, and so means nothing anywhere. -/
theorem path_too_long :
    deepWorld.Stands ∧
    ∃ p w', exec (find .standard {} (.ofText "/".toList)) deepWorld = (.ok p, w') ∧
      ∀ here, w'.tree.look here p.toText = .error .nameTooLong := by
  obtain ⟨w', hfind⟩ := exec_find_deepWorld
  refine ⟨stands_deepWorld, _, w', hfind, fun here => FileTree.look_of_error ?_⟩
  have hparts : (deepWorld.absolute (.ofText "gradle".toList)).parts =
      List.replicate 21 longName ++ ["gradle".toList] := stands_deepWorld.parts_absolute rfl
  have hlong : FileTree.longestPath <
      (Utf8.encode (deepWorld.absolute (.ofText "gradle".toList)).toText).length := by
    have hname : "gradle".toList.length = 6 := rfl
    refine Nat.lt_of_lt_of_le ?_ (Utf8.length_le_encode _)
    rw [Path.toText_of_ne fun h => deepWorld.absolute_ne_here _ h.1, List.length_append, hparts,
      length_joined, FileTree.longestPath]
    omega
  rw [FileTree.locate, if_neg (Path.toText_ne_nil _), if_pos hlong]

end Wrapper

end ClasspathProbe
