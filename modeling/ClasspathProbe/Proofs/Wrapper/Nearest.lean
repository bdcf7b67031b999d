import Mathlib.Data.List.Nodup
import ClasspathProbe.Proofs.BuildFile
import ClasspathProbe.Proofs.Path
import ClasspathProbe.Proofs.Resolver.Steps

/-!
# The nearest wrapper

A walk from parent to parent ends at the start of the path and passes every path above once
(`Path.Lineage`). Of the directories on it the search takes the first that holds an executable file
of the wrapper's name, whatever else has that name below it; only a walk that finds none asks for
the command (`Wrapper.nearest_wins`).
-/

namespace ClasspathProbe

open ClasspathProbe.Action (exec exec_bind_ok)

/-! ## Walks from parent to parent -/

namespace Path

variable {p q : Path} {ps : List Path}

@[simp] theorem above_zero (p : Path) : p.above 0 = p := by
  simp [above]

theorem parent_above (p : Path) (k : Nat) : (p.above k).parent = p.above (k + 1) := by
  rw [parent, above, above, above, mk.injEq]
  refine ⟨rfl, ?_⟩
  rw [List.take_take, List.length_take]
  congr 1
  omega

/-- The start of a path is its own parent, and nothing else is. -/
theorem parent_eq_self_iff : p.parent = p ↔ p.parts = [] := by
  obtain ⟨root, parts, h⟩ := p
  rw [parent, above, mk.injEq]
  constructor
  · rintro ⟨-, hparts⟩
    have hlength := congrArg List.length hparts
    rw [List.length_take] at hlength
    dsimp only at hlength ⊢
    exact List.eq_nil_of_length_eq_zero (by omega)
  · rintro rfl
    exact ⟨rfl, rfl⟩

/-- The paths that a walk from parent to parent passes, up to one that is its own parent. -/
inductive Lineage : Path → List Path → Prop where
  | start {p : Path} (top : p.parent = p) : Lineage p [p]
  | up {p : Path} {ps : List Path} (below : p.parent ≠ p) (rest : Lineage p.parent ps) :
      Lineage p (p :: ps)

theorem chain_of_nil (h : p.parts = []) : p.chain = [p] := by
  rw [chain, h]
  exact congrArg (· :: []) (above_zero p)

theorem chain_of_ne_nil (h : p.parts ≠ []) : p.chain = p :: p.parent.chain := by
  have hlength : p.parent.parts.length + 1 = p.parts.length := by
    have hpos := List.length_pos_iff.2 h
    rw [parent, above, List.length_take]
    omega
  rw [chain, chain, List.range_succ_eq_map, List.map_cons, above_zero, List.map_map, hlength]
  congr 1
  refine List.map_congr_left fun k _ => ?_
  have hup : ∀ k, p.above (k + 1) = p.parent.above k := by
    intro k
    induction k with
    | zero => rw [above_zero, parent]
    | succ k ih => rw [← parent_above, ih, parent_above]
  exact hup k

/-- Every walk ends. -/
theorem lineage_chain (p : Path) : p.Lineage p.chain := by
  generalize hn : p.parts.length = n
  induction n generalizing p with
  | zero =>
    have hnil := List.eq_nil_of_length_eq_zero hn
    rw [chain_of_nil hnil]
    exact .start (parent_eq_self_iff.2 hnil)
  | succ n ih =>
    have hne : p.parts ≠ [] := List.ne_nil_of_length_eq_add_one hn
    have hparent : p.parent.parts.length = n := by
      rw [parent, above, List.length_take]
      omega
    rw [chain_of_ne_nil hne]
    exact .up (fun h => hne (parent_eq_self_iff.1 h)) (ih p.parent hparent)

theorem Lineage.eq_chain (h : p.Lineage ps) : ps = p.chain := by
  induction h with
  | start top => rw [chain_of_nil (parent_eq_self_iff.1 top)]
  | up below _ ih => rw [ih, chain_of_ne_nil fun h => below (parent_eq_self_iff.2 h)]

theorem mem_chain : q ∈ p.chain ↔ ∃ k ≤ p.parts.length, q = p.above k := by
  rw [chain, List.mem_map]
  constructor
  · rintro ⟨k, hk, rfl⟩
    exact ⟨k, Nat.le_of_lt_succ (List.mem_range.1 hk), rfl⟩
  · rintro ⟨k, hk, rfl⟩
    exact ⟨k, List.mem_range.2 (Nat.lt_succ_of_le hk), rfl⟩

/-- No path is passed twice: each is shorter than the one before. -/
theorem nodup_chain (p : Path) : p.chain.Nodup := by
  refine List.Nodup.map_on (fun j hj k hk h => ?_) List.nodup_range
  have hlength := congrArg (fun q : Path => q.parts.length) h
  rw [List.mem_range] at hj hk
  simp only [above, List.length_take] at hlength
  omega

theorem getLast?_chain (p : Path) : p.chain.getLast? = some ⟨p.root, [], by simp⟩ := by
  rw [chain, List.range_succ, List.map_append, List.map_singleton, List.getLast?_concat, above]
  simp

end Path

/-! ## The first executable file -/

namespace Wrapper

variable {m : Machine} {settings : GradleSettings} {workspace : Path} {w : World}

/-- Whether a path leads to an executable file, links followed. -/
def IsExecutable (w : World) (p : Path) : Prop :=
  ∃ f, w.LeadsTo p.toText (.file f) ∧ f.executable = true

/-- Whether the tests of a path for an executable file tell anything. -/
def IsTold (w : World) (p : Path) : Prop := ∃ b, exec (isWrapper p) w = (.ok b, w)

theorem sight_eq_executable_iff {p : Path} : w.sight p = .ok .executable ↔ IsExecutable w p := by
  rw [World.sight, FileTree.sight, IsExecutable]
  cases hnul : p.toText.contains '\x00' with
  | true => simp only [World.LeadsTo, hnul, if_true]; simp
  | false =>
  simp only [World.LeadsTo, hnul, true_and, Bool.false_eq_true, if_false]
  cases hloc : w.tree.locate w.here .target p.toText with
  | error why =>
    rw [FileTree.look_of_error hloc]
    cases why <;> simp [Refusal.meansAbsent]
  | ok spot =>
    cases spot with
    | free d n =>
      rw [FileTree.look_of_free hloc]
      simp [Spot.sight]
    | found place node =>
      rw [FileTree.look_of_found hloc]
      cases node with
      | directory time => simp [Spot.sight]
      | link target => simp [Spot.sight]
      | file f => cases hx : f.executable <;> simp [Spot.sight, hx]

/-- Where the tests tell something, they tell whether there is an executable file. -/
theorem exec_isWrapper_of_told {p : Path} (h : IsTold w p) :
    ∃ b, exec (isWrapper p) w = (.ok b, w) ∧ (b = true ↔ IsExecutable w p) := by
  obtain ⟨b, hb⟩ := h
  refine ⟨b, hb, ?_⟩
  rw [Action.exec_isWrapper] at hb
  rw [← sight_eq_executable_iff]
  cases hsight : w.sight p with
  | error e =>
    rw [hsight] at hb
    cases hb
  | ok s =>
    rw [hsight] at hb
    obtain rfl : decide (s = .executable) = b := Except.ok.inj (Prod.mk.inj hb).1
    simp

/-- Whatever is no executable file is passed over. -/
theorem exec_firstWrapper?_append {front : List Path} (rest : List Path)
    (h : ∀ p ∈ front, IsTold w p ∧ ¬IsExecutable w p) :
    exec (firstWrapper? (front ++ rest)) w = exec (firstWrapper? rest) w := by
  induction front with
  | nil => rfl
  | cons p front ih =>
    obtain ⟨⟨htold, hnot⟩, hfront⟩ := List.forall_mem_cons.1 h
    obtain ⟨b, hb, hiff⟩ := exec_isWrapper_of_told htold
    obtain rfl : b = false := by simpa using fun hb => hnot (hiff.1 hb)
    rw [List.cons_append, firstWrapper?, exec_bind_ok hb]
    exact ih hfront

theorem exec_firstWrapper?_cons {p : Path} (rest : List Path) (h : IsExecutable w p) :
    exec (firstWrapper? (p :: rest)) w = (.ok (some p), w) := by
  have hb : exec (isWrapper p) w = (.ok true, w) := by
    rw [Action.exec_isWrapper, sight_eq_executable_iff.2 h]
    rfl
  rw [firstWrapper?, exec_bind_ok hb]
  rfl

/-- The failure to find an executable names the workspace as it was written. -/
theorem notFound_eq (settings : GradleSettings) (workspace : Path) :
    notFound settings workspace = .resolution
      { kind := .gradleNotFound
        sentence := "Could not find '".toList ++ settings.command ++ "' on PATH".toList
        details := [("workspace".toList, .text workspace.toText)]
        origin := none } := by
  obtain ⟨c, s, htext⟩ := List.exists_cons_of_ne_nil workspace.toText_ne_nil
  rw [notFound, ResolutionError.gradleNotFound, htext]
  rfl

/-- **The nearest wrapper wins, and the search path comes last.** The walk from the workspace up
passes each directory once and ends at the start of the path. When the tests on its way tell
something, the first executable file of the wrapper's name is given and nothing is asked for; when
there is none, the command is asked for once, and its path is given as it is known, or the failure
that names the workspace. -/
theorem nearest_wins (m : Machine) (settings : GradleSettings) (workspace : Path) (w : World) :
    let fileIn (directory : Path) := directory.join (.ofText (name m.isWindows settings))
    ∃ chain, (∀ ps, (w.absolute workspace).Lineage ps ↔ ps = chain) ∧ chain.Nodup ∧
      (∃ top, chain.getLast? = some top ∧ (top.toText = ['/'] ∨ top.toText = ['/', '/'])) ∧
      (∀ front directory rest, chain = front ++ directory :: rest →
        (∀ d ∈ front, IsTold w (fileIn d) ∧ ¬IsExecutable w (fileIn d)) →
        IsExecutable w (fileIn directory) →
        ∃ w', exec (find m settings workspace) w = (.ok (fileIn directory), w') ∧
          w'.deeds = w.deeds) ∧
      ((∀ d ∈ chain, IsTold w (fileIn d) ∧ ¬IsExecutable w (fileIn d)) →
        ∃ outcome w', exec (find m settings workspace) w = (outcome, w') ∧
          w'.deeds = w.deeds ++ [.asked settings.command] ∧
          (∀ p, m.which w settings.command = some p → outcome = .ok p) ∧
          (m.which w settings.command = none → outcome = .error (.resolution
            { kind := .gradleNotFound
              sentence := "Could not find '".toList ++ settings.command ++ "' on PATH".toList
              details := [("workspace".toList, .text workspace.toText)]
              origin := none }))) := by
  intro fileIn
  have hplaces : candidates w (name m.isWindows settings) workspace =
      (w.absolute workspace).chain.map fileIn := rfl
  refine ⟨(w.absolute workspace).chain, fun ps => ⟨Path.Lineage.eq_chain, ?_⟩,
    Path.nodup_chain _, ⟨_, Path.getLast?_chain _, ?_⟩, ?_, ?_⟩
  · rintro rfl
    exact Path.lineage_chain _
  · have habs : (w.absolute workspace).root ≠ .here := Path.join_ne_here _ (Path.rootOf_slash_ne _)
    cases hroot : (w.absolute workspace).root with
    | here => exact absurd hroot habs
    | slash => exact .inl rfl
    | twoSlashes => exact .inr rfl
  · intro front directory rest hchain hpassed hfound
    have hsearch : exec (firstWrapper? (candidates w (name m.isWindows settings) workspace)) w =
        (.ok (some (fileIn directory)), w) := by
      rw [hplaces, hchain, List.map_append, List.map_cons, exec_firstWrapper?_append,
        exec_firstWrapper?_cons _ hfound]
      exact List.forall_mem_map.2 hpassed
    obtain ⟨hgiven, hdeeds⟩ := exec_find_given hsearch
    rw [asks, List.append_nil] at hdeeds
    · exact ⟨_, Prod.ext hgiven rfl, hdeeds⟩
    · intro h
      cases h
  · intro hpassed
    have hsearch : exec (firstWrapper? (candidates w (name m.isWindows settings) workspace)) w =
        (.ok none, w) := by
      rw [hplaces, ← List.append_nil (List.map fileIn _), exec_firstWrapper?_append]
      · rfl
      · exact List.forall_mem_map.2 hpassed
    obtain ⟨hgiven, hdeeds⟩ := exec_find_given hsearch
    refine ⟨_, _, Prod.ext hgiven rfl, hdeeds, fun p hp => ?_, fun hunknown => ?_⟩
    · rw [hp]
    · rw [hunknown]
      exact congrArg Except.error (notFound_eq settings workspace)

/-- A directory and a file that may not be executed have the wrapper's name, and further up a link
of that name leads to a file that may. -/
def obstructedWorld : World where
  tree := ⟨[(["p".toList], .directory 0), (["p".toList, "q".toList], .directory 0),
    (["p".toList, "q".toList, "gradlew".toList], .directory 0),
    (["p".toList, "gradlew".toList], .file ⟨[], false, 0⟩),
    (["gradlew".toList], .link "bin/g".toList), (["bin".toList], .directory 0),
    (["bin".toList, "g".toList], .file ⟨[], true, 0⟩)]⟩
  here := ["p".toList]
  tempDirectory := "/t".toList
  environment := []

/-- A machine that knows no command. -/
def unknowingMachine : Machine where
  isWindows := false
  which := fun _ _ => none
  run := fun _ _ _ => .ok ([], [])

theorem nearest_wins_obstructed :
    (IsTold obstructedWorld (.ofText "/p/q/gradlew".toList) ∧
      IsTold obstructedWorld (.ofText "/p/gradlew".toList) ∧
      IsExecutable obstructedWorld (.ofText "/gradlew".toList)) ∧
    (∃ w', exec (find unknowingMachine {} (.ofText "q".toList)) obstructedWorld =
        (.ok (.ofText "/gradlew".toList), w') ∧ w'.deeds = []) ∧
    ∃ outcome w', exec (find { unknowingMachine with isWindows := true } {} (.ofText "q".toList))
        obstructedWorld = (outcome, w') ∧ w'.deeds = [.asked "gradle".toList] := by
  have hdirectory : exec (isWrapper (.ofText "/p/q/gradlew".toList)) obstructedWorld =
      (.ok false, obstructedWorld) := rfl
  have hfile : exec (isWrapper (.ofText "/p/gradlew".toList)) obstructedWorld =
      (.ok false, obstructedWorld) := rfl
  have hlink : IsExecutable obstructedWorld (.ofText "/gradlew".toList) :=
    ⟨⟨[], true, 0⟩, ⟨rfl, ["bin".toList, "g".toList], rfl⟩, rfl⟩
  have hpassed : ∀ {p : Path}, exec (isWrapper p) obstructedWorld = (.ok false, obstructedWorld) →
      IsTold obstructedWorld p ∧ ¬IsExecutable obstructedWorld p := by
    intro p hp
    obtain ⟨b, hb, hiff⟩ := exec_isWrapper_of_told ⟨false, hp⟩
    rw [hp] at hb
    obtain rfl := Except.ok.inj (Prod.mk.inj hb).1
    exact ⟨⟨false, hp⟩, fun h => Bool.false_ne_true (hiff.2 h)⟩
  refine ⟨⟨⟨false, hdirectory⟩, ⟨false, hfile⟩, hlink⟩, ?_, ?_⟩
  · obtain ⟨chain, hchain, -, -, hfound, -⟩ :=
      nearest_wins unknowingMachine {} (.ofText "q".toList) obstructedWorld
    obtain rfl := (hchain _).1 (Path.lineage_chain _)
    refine hfound [.ofText "/p/q".toList, .ofText "/p".toList] (.ofText "/".toList) [] rfl ?_ hlink
    exact List.forall_mem_cons.2 ⟨hpassed hdirectory, List.forall_mem_singleton.2 (hpassed hfile)⟩
  · obtain ⟨chain, hchain, -, -, -, hnone⟩ :=
      nearest_wins { unknowingMachine with isWindows := true } {} (.ofText "q".toList)
        obstructedWorld
    obtain rfl := (hchain _).1 (Path.lineage_chain _)
    have hnothing : ∀ d ∈ [Path.ofText "/p/q".toList, .ofText "/p".toList, .ofText "/".toList],
        IsTold obstructedWorld (d.join (.ofText "gradlew.bat".toList)) ∧
          ¬IsExecutable obstructedWorld (d.join (.ofText "gradlew.bat".toList)) :=
      List.forall_mem_cons.2 ⟨hpassed rfl, List.forall_mem_cons.2 ⟨hpassed rfl,
        List.forall_mem_singleton.2 (hpassed rfl)⟩⟩
    obtain ⟨outcome, w', hfind, hdeeds, -⟩ := hnone hnothing
    exact ⟨outcome, w', hfind, hdeeds⟩

end Wrapper

end ClasspathProbe
