import Mathlib.Data.List.Forall2
import ClasspathProbe.Proofs.Probe.Failed
import ClasspathProbe.Proofs.Probe.Pending

/-!
# A block between making files and removing them

`withScripts` runs a block over copies of scripts when all of them can be made, and else fails
before the block. In both cases no file is left, whichever of them the block deleted and however it
ended (`withScripts_brackets`). What carries the proof is that the files made so far are the ones
still to be removed, before the block and behind it.
-/

namespace ClasspathProbe.Probe

open ClasspathProbe.Action (exec Keeps exec_bind_ok exec_bind_error)

variable {settings : GradleSettings} {w w' w'' w₁ w₂ : World} {name : Text} {names : List Text}
  {path : Path} {e : Failure}

/-! ## Reading the scripts of this library -/

/-- A name of a file in a directory, not the path of one. -/
structure IsPlainName (name : Text) : Prop where
  ne_nil : name ≠ []
  noSlash : '/' ∉ name
  noNul : '\x00' ∉ name

namespace IsPlainName

theorem clean (h : IsPlainName name) : name.contains '\x00' = false := by simpa using h.noNul

theorem head?_ne (h : IsPlainName name) : name.head? ≠ some '/' := fun hslash =>
  h.noSlash (List.mem_of_mem_head? hslash)

theorem toText_ofText (h : IsPlainName name) : (Path.ofText name).toText = name := by
  have hroot : (Path.ofText name).root = .here := Path.rootOf_root .here h.head?_ne
  have hpieces : Text.pieces '/' name = [name] := Text.pieces_of_not_mem h.noSlash
  by_cases hdot : name = ['.']
  · subst hdot
    rfl
  · have hparts : (Path.ofText name).parts = [name] := by
      have hpart : Path.IsPart name := ⟨h.ne_nil, hdot, h.noSlash⟩
      change Path.partsOf name = [name]
      rw [Path.partsOf, hpieces]
      exact List.filter_cons_of_pos (decide_eq_true hpart)
    rw [Path.toText_of_ne (by simp [hparts]), hroot, hparts]
    rfl

theorem steps_eq (h : IsPlainName name) : FileTree.steps name = [name] := by
  have hend : Text.endsWith ['/'] name = false := by
    rw [Text.endsWith, Bool.eq_false_iff]
    intro hsuffix
    rw [List.isSuffixOf_iff_suffix] at hsuffix
    exact h.noSlash (hsuffix.subset (by simp))
  have hkept : [name].filter (!·.isEmpty) = [name] :=
    List.filter_cons_of_pos (by simpa using h.ne_nil)
  rw [FileTree.steps, Text.pieces_of_not_mem h.noSlash, hend, hkept]
  rfl

end IsPlainName

theorem node?_resources (hscript : ∀ p : Probe, p.scriptName ≠ name) :
    resources.node? (directory ++ [name]) = none := by
  have hne : directory ++ [name] ≠ [] := by simp
  rw [FileTree.node?, if_neg hne, List.lookup_eq_none_iff]
  intro n hn
  simp only [resources, List.mem_cons, List.not_mem_nil, or_false] at hn
  rcases hn with rfl | rfl | rfl
  · simp [directory]
  · simpa using Ne.symm (hscript .project)
  · simpa using Ne.symm (hscript .buildScripts)

/-- A single name that is none of a script leads to no file. -/
theorem descend_resources (hscript : ∀ p : Probe, p.scriptName ≠ name)
    {jump : Location → List Text → Except Refusal Spot} {place : Location} {f : File} :
    resources.descend .target jump directory [name] ≠ .ok (.found place (.file f)) := by
  have hends : ∀ here m, resources.node? here = some (.directory m) →
      resources.descend .target jump here [] ≠ .ok (.found place (.file f)) := by
    intro here m hdirectory
    rw [FileTree.descend, hdirectory]
    simp
  rw [FileTree.descend, node?_resources hscript]
  split
  · exact hends directory 0 rfl
  split
  · exact hends [] 0 rfl
  split
  · simp
  split
  · simp
  · simp

theorem read_resources (hplain : IsPlainName name) {bytes : List UInt8}
    (h : resources.read directory name = .ok bytes) :
    ∃ p : Probe, p.scriptName = name ∧ p.bytes = bytes := by
  by_cases hscript : ∃ p : Probe, p.scriptName = name
  · obtain ⟨p, rfl⟩ := hscript
    have hread : resources.read directory p.scriptName = .ok p.bytes := by cases p <;> rfl
    exact ⟨p, rfl, Except.ok.inj (hread.symm.trans h)⟩
  · have hnone : ∀ p : Probe, p.scriptName ≠ name := fun p hp => hscript ⟨p, hp⟩
    have hstart : FileTree.startOf name directory = directory := if_neg hplain.head?_ne
    rw [FileTree.read, FileTree.look, FileTree.locate, if_neg hplain.ne_nil, hstart,
      hplain.steps_eq] at h
    split at h
    · cases h
    · cases hwalk : resources.walk .target FileTree.mostLinks directory [name] with
      | error why =>
        rw [hwalk] at h
        cases h
      | ok spot =>
        rw [hwalk] at h
        cases spot with
        | free d n => cases h
        | found place node =>
          cases node with
          | file f => exact absurd hwalk (descend_resources hnone)
          | directory m => cases h
          | link target => cases h

theorem script_of_read (hplain : IsPlainName name) {bytes : List UInt8}
    (h : exec (readScript name) w = (.ok bytes, w')) :
    ∃ p : Probe, p.scriptName = name ∧ p.bytes = bytes := by
  have hroot : (Path.ofText name).root = .here := Path.rootOf_root .here hplain.head?_ne
  have hrelative : ¬(Path.ofText name).isAbsolute = true := by simp [Path.isAbsolute, hroot]
  have hclean : ¬name.contains '\x00' = true := by rw [hplain.clean]; simp
  rw [readScript] at h
  dsimp only at h
  rw [if_neg hrelative, if_neg hclean, hplain.toText_ofText] at h
  cases hread : resources.read directory name with
  | ok content =>
    rw [hread] at h
    obtain rfl := Except.ok.inj (Prod.mk.inj h).1
    exact read_resources hplain hread
  | error why =>
    rw [hread] at h
    cases h

/-! ## Making the copies -/

/-- A script was copied into a new file. -/
structure Copies (settings : GradleSettings) (name : Text) (w w' : World) (c : Copy) : Prop where
  made : exec (materialize settings name) w = (.ok c.path, w')
  holds : Holds w w' c.path c.place
  file : w'.tree.node? c.place = some (.file ⟨c.bytes, false, 0⟩)
  read : ∃ w₀, exec (readScript name) w₀ = (.ok c.bytes, w₀)
  settled : w'.tempDirectory = w.tempDirectory?

/-- Scripts were copied into new files, one after the other. -/
inductive Fills (settings : GradleSettings) : World → List Text → List Copy → World → Prop where
  | nil (w : World) : Fills settings w [] [] w
  | cons {w w' w'' : World} {name : Text} {names : List Text} {c : Copy} {copies : List Copy}
      (first : Copies settings name w w' c) (rest : Fills settings w' names copies w'') :
      Fills settings w (name :: names) (c :: copies) w''

theorem copies_or_fails (settings : GradleSettings) (hplain : IsPlainName name) (w : World) :
    (∃ c w', Copies settings name w w' c) ∨
      ∃ e w', exec (materialize settings name) w = (.error e, w') := by
  obtain ⟨w', -, hsettled, ⟨e, hfailed, -⟩ | ⟨path, place, bytes, hok, hholds, hfile, hread⟩⟩ :=
    exec_materialize settings hplain.clean w
  · exact .inr ⟨e, w', hfailed⟩
  · exact .inl ⟨⟨path, place, bytes⟩, w', hok, hholds, hfile, hread, hsettled⟩

/-- Either all scripts are copied, or there is a first one that is not. -/
theorem fills_or_fails (settings : GradleSettings) (hplain : ∀ name ∈ names, IsPlainName name)
    (w : World) :
    (∃ copies w', Fills settings w names copies w') ∨
      ∃ front name back copies w' e w'', names = front ++ name :: back ∧
        Fills settings w front copies w' ∧
        exec (materialize settings name) w' = (.error e, w'') := by
  induction names generalizing w with
  | nil => exact .inl ⟨[], w, .nil w⟩
  | cons name names ih =>
    obtain ⟨hname, hnames⟩ := List.forall_mem_cons.1 hplain
    obtain ⟨c, w', hfirst⟩ | ⟨e, w'', hfailed⟩ := copies_or_fails settings hname w
    · obtain ⟨copies, w'', hrest⟩ | ⟨front, next, back, copies, w₁, e, w'', rfl, hrest, hfailed⟩ :=
        ih hnames w'
      · exact .inl ⟨c :: copies, w'', .cons hfirst hrest⟩
      · exact .inr ⟨name :: front, next, back, c :: copies, w₁, e, w'', rfl, .cons hfirst hrest,
          hfailed⟩
    · exact .inr ⟨[], name, names, [], w, e, w'', rfl, .nil w, hfailed⟩

/-- Whether scripts of these names exist and a file with the bytes of each can be made in turn. -/
def Ready (settings : GradleSettings) : List Text → World → Prop
  | [], _ => True
  | name :: names, w =>
    (∃ p : Probe, p.scriptName = name ∧ MakesFile settings w p.bytes) ∧
      Ready settings names (exec (materialize settings name) w).2

theorem Copies.script {c : Copy} (h : Copies settings name w w' c) (hplain : IsPlainName name) :
    ∃ p : Probe, p.scriptName = name ∧ p.bytes = c.bytes := by
  obtain ⟨w₀, hread⟩ := h.read
  exact script_of_read hplain hread

theorem Copies.makesFile {c : Copy} (h : Copies settings name w w' c) (hplain : IsPlainName name) :
    ∃ p : Probe, p.scriptName = name ∧ MakesFile settings w p.bytes := by
  obtain ⟨p, rfl, -⟩ := h.script hplain
  exact ⟨p, rfl, (exists_exec_materialize_iff p).1 ⟨_, _, h.made⟩⟩

theorem Fills.ready_append {front back : List Text} {copies : List Copy}
    (h : Fills settings w front copies w') (hplain : ∀ name ∈ front, IsPlainName name) :
    Ready settings (front ++ back) w ↔ Ready settings back w' := by
  induction h with
  | nil => exact Iff.rfl
  | cons first _ ih =>
    obtain ⟨hname, hnames⟩ := List.forall_mem_cons.1 hplain
    have hafter : (exec (materialize settings _) _).2 = _ := congrArg Prod.snd first.made
    rw [List.cons_append, Ready, hafter, ih hnames]
    exact and_iff_right (first.makesFile hname)

/-! ## The files that the block sees -/

/-- The files made for some copies are all there, at different places. Each holds what was copied
into it, unless records are added to it. -/
structure Present (w w' : World) (copies : List Copy) : Prop extends Pending w w' copies where
  file : ∀ c ∈ copies, ∃ f, w'.tree.node? c.place = some (.file f) ∧
    (f.bytes = c.bytes ∨ w.IsLogPlace c.place)
  apart : (copies.map Copy.place).Nodup

namespace Present

variable {copies : List Copy} {c : Copy}

theorem refl (w : World) : Present w w [] := ⟨.refl w, by simp, by simp⟩

theorem add (h : Present w w' copies) (hc : Copies settings name w' w'' c) :
    Present w w'' (copies ++ [c]) := by
  have hfree : w'.tree.node? c.place = none := by
    obtain ⟨file, hnew, -⟩ := hc.holds.named
    exact hnew.free.node?_eq
  have hother : ∀ d ∈ copies, d.place ≠ c.place := by
    intro d hd heq
    obtain ⟨f, hf, -⟩ := h.file d hd
    rw [heq, hfree] at hf
    cases hf
  refine ⟨h.toPending.add hc.holds, fun d hd => ?_, ?_⟩
  · rcases List.mem_append.1 hd with hold | hlast
    · obtain ⟨f, hf, hbytes⟩ := h.file d hold
      obtain hsame | ⟨hplace, g, -, hg⟩ := hc.holds.grown.tree d.place
      · exact ⟨f, hsame.trans hf, hbytes⟩
      · have hlog : w'.IsLogPlace d.place := hplace.resolve_left (hother d hold)
        exact ⟨g, hg, .inr (h.grown.isLogPlace_iff.1 hlog)⟩
    · obtain rfl := List.mem_singleton.1 hlast
      exact ⟨_, hc.file, .inl rfl⟩
  · rw [List.map_append, List.nodup_append]
    refine ⟨h.apart, by simp, ?_⟩
    intro p hp q hq
    obtain ⟨d, hd, rfl⟩ := List.mem_map.1 hp
    obtain rfl : q = c.place := by simpa using hq
    exact hother d hd

theorem fills {names : List Text} {more : List Copy} (h : Present w w' copies)
    (hfills : Fills settings w' names more w'') : Present w w'' (copies ++ more) := by
  induction hfills generalizing copies with
  | nil => rwa [List.append_nil]
  | cons first _ ih =>
    have hrest := ih (h.add first)
    rwa [List.append_assoc] at hrest

theorem locate (h : Present w w' copies) (hc : c ∈ copies) :
    ∃ place f, w'.tree.locate w'.here .target c.path.toText = .ok (.found place (.file f)) ∧
      (f.bytes = c.bytes ∨ w.IsLogPlace place) := by
  obtain ⟨f, hf, hbytes⟩ := h.file c hc
  exact ⟨c.place, f, h.locate_there .target hc rfl hf, hbytes⟩

/-- The paths of the files are different, because they lead to different places. -/
theorem nodup_paths (h : Present w w' copies) : (copies.map Copy.path).Nodup := by
  have hplaces : copies.Pairwise fun c d => c.place ≠ d.place := List.pairwise_map.1 h.apart
  refine List.pairwise_map.2 (hplaces.imp_of_mem fun {c d} hc hd hne hpath => ?_)
  obtain ⟨f, hf, -⟩ := h.file c hc
  obtain ⟨g, hg, -⟩ := h.file d hd
  have hleft := h.locate_there .target hc rfl hf
  have hright := h.locate_there .target hd rfl hg
  rw [hpath, hright] at hleft
  exact hne (Spot.found.inj (Except.ok.inj hleft)).1.symm

end Present

/-- Whether a path leads to a file with the script of a name in it, or to one that records are added
to. -/
def LeadsToScript (w w' : World) (name : Text) (path : Path) : Prop :=
  ∃ p : Probe, p.scriptName = name ∧ ∃ place f,
    w'.tree.locate w'.here .target path.toText = .ok (.found place (.file f)) ∧
      (f.bytes = p.bytes ∨ w.IsLogPlace place)

theorem Fills.leadsToScript {w₀ : World} {copies : List Copy}
    (h : Fills settings w₁ names copies w₂) (hplain : ∀ name ∈ names, IsPlainName name)
    (hleads : ∀ c ∈ copies, ∃ place f,
      w'.tree.locate w'.here .target c.path.toText = .ok (.found place (.file f)) ∧
        (f.bytes = c.bytes ∨ w₀.IsLogPlace place)) :
    List.Forall₂ (LeadsToScript w₀ w') names (copies.map Copy.path) := by
  induction h with
  | nil => exact .nil
  | cons first _ ih =>
    obtain ⟨hname, hnames⟩ := List.forall_mem_cons.1 hplain
    obtain ⟨⟨place, f, hloc, hbytes⟩, hrest⟩ := List.forall_mem_cons.1 hleads
    obtain ⟨p, hp, hcopied⟩ := first.script hname
    rw [← hcopied] at hbytes
    exact .cons ⟨p, hp, place, f, hloc, hbytes⟩ (ih hnames hrest)

/-! ## Removing them again -/

/-- A tree without the files of some copies. -/
def erased (copies : List Copy) (tree : FileTree) : FileTree :=
  copies.foldr (fun c tree => tree.erase c.place) tree

section Cleaning

variable {α : Type}

/-- What comes behind some copies ends as it does, and the files of the copies are removed. -/
theorem Fills.exec_before {w₀ : World} {front back : List Text} {more : List Copy}
    {body : List Path → Action α} {outcome : Except Failure α}
    (h : Fills settings w front more w₁) (ready : List Path) (copies : List Copy)
    (hrest : exec (withScriptsAfter settings (ready ++ more.map Copy.path) back body) w₁ =
      (outcome, w₂)) (hpending : Pending w₀ w₂ (copies ++ more)) :
    exec (withScriptsAfter settings ready (front ++ back) body) w =
      (outcome, { w₂ with tree := erased more w₂.tree }) ∧
    Pending w₀ { w₂ with tree := erased more w₂.tree } copies := by
  induction h generalizing ready copies with
  | nil =>
    rw [List.append_nil] at hpending
    rw [List.map_nil, List.append_nil] at hrest
    exact ⟨hrest, hpending⟩
  | @cons w w' w₁ name names c more first _ ih =>
    -- the file of `c` is pending for what is inside, and the last one to be removed behind it
    have hrest' : exec (withScriptsAfter settings (ready ++ [c.path] ++ more.map Copy.path) back
        body) w₁ = (outcome, w₂) := by
      rwa [List.append_assoc]
    have hpending' : Pending w₀ w₂ (copies ++ [c] ++ more) := by
      rwa [List.append_assoc]
    obtain ⟨hinner, hlast⟩ := ih (ready ++ [c.path]) (copies ++ [c]) hrest' hpending'
    refine ⟨?_, hlast.erase_last⟩
    rw [List.cons_append, withScriptsAfter, exec_bind_ok first.made, exec_ensuring, hinner,
      hlast.exec_remove (by simp)]
    rfl

theorem Fills.exec_withScripts {front back : List Text} {copies : List Copy}
    {body : List Path → Action α} {outcome : Except Failure α}
    (h : Fills settings w front copies w₁)
    (hrest : exec (withScriptsAfter settings (copies.map Copy.path) back body) w₁ = (outcome, w₂))
    (hpending : Pending w w₂ copies) :
    exec (withScripts settings (front ++ back) body) w =
      (outcome, { w₂ with tree := erased copies w₂.tree }) ∧
    w.OnlyLogs { w₂ with tree := erased copies w₂.tree } := by
  obtain ⟨hrun, hnone⟩ := h.exec_before [] [] hrest hpending
  exact ⟨hrun, hnone.grown.mono fun p hp => hp.resolve_left (by simp)⟩

end Cleaning

/-! ## The bracket -/

theorem Copies.canName {c : Copy} (h : Copies settings name w w' c) (hcan : CanName settings w) :
    CanName settings w' := by
  have hhere : w'.here = w.here := h.holds.grown.here
  obtain ⟨directory, -, hdirectory, -⟩ := materialize_path h.made
  have hkept : w'.tempDirectory? = w.tempDirectory? := by
    rw [hdirectory, World.tempDirectory?_of_eq (h.settled.trans hdirectory)]
  exact ⟨hcan.tempPrefix, hcan.tempSuffix, hhere ▸ hcan.here, hkept ▸ hcan.tempDirectory⟩

theorem Fills.canName {copies : List Copy} (h : Fills settings w names copies w')
    (hcan : CanName settings w) : CanName settings w' := by
  induction h with
  | nil => exact hcan
  | cons first _ ih => exact ih (first.canName hcan)

/-- **Files for the time of a block.** When a file with every script can be made, the block runs once
over these new files, and what it gives or fails with comes out. Else the block does not run, and the
failure names the first script that cannot be put into a file, be it that there is none, that no file
is made, or that the copy is stopped. In both cases nothing is left that was not there before, but for
records in logs. -/
theorem withScripts_brackets {α : Type} {body : List Path → Action α}
    (hplain : ∀ name ∈ names, IsPlainName name) (hcan : CanName settings w)
    (hbody : ∀ paths, Keeps (Deletes paths) (body paths)) :
    (Ready settings names w →
      ∃ paths w₁ tree, List.Forall₂ (LeadsToScript w w₁) names paths ∧ paths.Nodup ∧
        (∀ path ∈ paths, path.isAbsolute = true ∧
          ∃ d n, w.tree.locate w.here .entry path.toText = .ok (.free d n)) ∧
        exec (withScripts settings names body) w =
          ((exec (body paths) w₁).1, { (exec (body paths) w₁).2 with tree }) ∧
        w.tree.Written w.IsLogPlace tree) ∧
    (¬Ready settings names w →
      ∃ front name back e w', names = front ++ name :: back ∧ Ready settings front w ∧
        ¬Ready settings (front ++ [name]) w ∧ NamesScript name e ∧ w.OnlyLogs w' ∧
        ∀ {β : Type} (block : List Path → Action β),
          exec (withScripts settings names block) w = (.error e, w')) := by
  obtain ⟨copies, w₁, hfills⟩ | ⟨front, name, back, copies, w₁, e, w₂, rfl, hfills, hfailed⟩ :=
    fills_or_fails settings hplain w
  · have hpresent : Present w w₁ copies := (Present.refl w).fills hfills
    have hready : Ready settings (names ++ []) w := (hfills.ready_append hplain).2 trivial
    rw [List.append_nil] at hready
    refine ⟨fun _ => ?_, fun hnot => absurd hready hnot⟩
    have hpending := hpresent.deletes (hbody (copies.map Copy.path) w₁)
    have hblock : exec (withScriptsAfter settings (copies.map Copy.path) [] body) w₁ =
        exec (body (copies.map Copy.path)) w₁ := rfl
    obtain ⟨hrun, hlogs⟩ := hfills.exec_withScripts hblock hpending
    rw [List.append_nil] at hrun
    refine ⟨copies.map Copy.path, w₁, _, ?_, hpresent.nodup_paths, ?_, hrun, hlogs.tree⟩
    · exact hfills.leadsToScript hplain fun c hc => hpresent.locate hc
    · intro path hpath
      obtain ⟨c, hc, rfl⟩ := List.mem_map.1 hpath
      exact ⟨hpresent.isAbsolute hc, hpresent.locate_before .entry hc rfl⟩
  · have hfront : ∀ name ∈ front, IsPlainName name := fun n hn =>
      hplain n (List.mem_append_left _ hn)
    have hname : IsPlainName name := hplain name (by simp)
    have hnot : ∀ more, ¬Ready settings (front ++ name :: more) w := by
      intro more hready
      obtain ⟨⟨p, rfl, hmakes⟩, -⟩ := (hfills.ready_append hfront).1 hready
      exact not_failed_of_makesFile p hmakes hfailed
    refine ⟨fun hready => absurd hready (hnot back), fun _ => ?_⟩
    have hready : Ready settings (front ++ []) w := (hfills.ready_append hfront).2 trivial
    rw [List.append_nil] at hready
    have hcan₁ : CanName settings w₁ := hfills.canName hcan
    obtain ⟨hnames, hlogs⟩ := failed_of_not_mem hname.ne_nil hname.noNul hcan₁ hfailed
    have hpending : Pending w w₂ copies :=
      ((Present.refl w).fills hfills).toPending.onlyLogs hlogs
    have hclean : ∀ {β : Type} (block : List Path → Action β),
        exec (withScripts settings (front ++ name :: back) block) w =
          (.error e, { w₂ with tree := erased copies w₂.tree }) ∧
        w.OnlyLogs { w₂ with tree := erased copies w₂.tree } := fun block =>
      hfills.exec_withScripts (exec_bind_error hfailed _) hpending
    refine ⟨front, name, back, e, _, rfl, hready, hnot [], hnames, ?_, fun block =>
      (hclean block).1⟩
    exact (hclean fun _ => pure ()).2

/-- A world in which the first name for a temporary file is taken. -/
def busyWorld : World where
  tree := ⟨[(["t".toList], .directory 0),
    (["t".toList, "classpath00000001.gradle".toList], .file ⟨[1], false, 0⟩)]⟩
  here := []
  tempDirectory := "/t".toList
  environment := []

theorem canName_busyWorld : CanName {} busyWorld :=
  ⟨by decide, by decide, by simp [busyWorld], fun _ => not_mem_bareDirectory⟩

/-- One script, the other one, and the first again. -/
def threeNames : List Text :=
  [Probe.scriptName .project, Probe.scriptName .buildScripts, Probe.scriptName .project]

/-- A block that deletes the first of its files and then fails. -/
def failingBlock : List Path → Action Unit
  | [] => throw .emptyCommand
  | path :: _ => do
    remove path
    throw .emptyCommand

theorem failingBlock_deletes (paths : List Path) : Keeps (Deletes paths) (failingBlock paths) := by
  intro w
  cases paths with
  | nil => exact .done w
  | cons path paths =>
    have hremove : Deletes (path :: paths) w (exec (remove path) w).2 :=
      deletes_remove (by simp) w
    rw [failingBlock, Action.exec_bind]
    generalize exec (remove path) w = r at hremove
    obtain ⟨outcome, w'⟩ := r
    cases outcome <;> exact hremove

theorem isPlainName_scriptName (p : Probe) : IsPlainName p.scriptName := by
  cases p <;> exact ⟨by decide, by decide, by decide⟩

theorem ready_threeNames : Ready {} threeNames busyWorld :=
  ⟨⟨.project, rfl, _, _, _, rfl, rfl⟩, ⟨.buildScripts, rfl, _, _, _, rfl, rfl⟩,
    ⟨.project, rfl, _, _, _, rfl, rfl⟩, trivial⟩

theorem not_ready_fullWorld : ¬Ready {} threeNames fullWorld := by
  rintro ⟨⟨p, -, file, place, w', -, hdisk⟩, -⟩
  cases hdisk

theorem withScripts_brackets_threeNames :
    ((∀ name ∈ threeNames, IsPlainName name) ∧ CanName {} busyWorld ∧ CanName {} fullWorld ∧
      (∀ paths, Keeps (Deletes paths) (failingBlock paths)) ∧ Ready {} threeNames busyWorld ∧
      ¬Ready {} threeNames fullWorld) ∧
    (∃ paths w₁ tree, paths.length = 3 ∧ paths.Nodup ∧
      exec (withScripts {} threeNames failingBlock) busyWorld =
        ((exec (failingBlock paths) w₁).1, { (exec (failingBlock paths) w₁).2 with tree }) ∧
      busyWorld.tree.Written busyWorld.IsLogPlace tree) ∧
    ∃ name e w', NamesScript name e ∧ fullWorld.OnlyLogs w' ∧
      exec (withScripts {} threeNames failingBlock) fullWorld = (.error e, w') := by
  have hplain : ∀ name ∈ threeNames, IsPlainName name := by
    simp [threeNames, isPlainName_scriptName]
  obtain ⟨hready, -⟩ := withScripts_brackets hplain canName_busyWorld failingBlock_deletes
  obtain ⟨paths, w₁, tree, hpaths, hnodup, -, hrun, hwritten⟩ := hready ready_threeNames
  obtain ⟨-, hfull⟩ := withScripts_brackets hplain canName_fullWorld failingBlock_deletes
  obtain ⟨front, name, back, e, w', -, -, -, hnames, hlogs, hfails⟩ := hfull not_ready_fullWorld
  exact ⟨⟨hplain, canName_busyWorld, canName_fullWorld, failingBlock_deletes, ready_threeNames,
    not_ready_fullWorld⟩, ⟨paths, w₁, tree, hpaths.length_eq.symm, hnodup, hrun, hwritten⟩, name, e,
    w', hnames, hlogs, hfails failingBlock⟩

end ClasspathProbe.Probe
