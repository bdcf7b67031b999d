import ClasspathProbe.Proofs.Probe.Materialize

/-!
# Scripts that cannot be copied

Putting a script into a file is given up when the operating system refuses something, be it the new
file, the reading of the script, or the copy of its bytes; what was made of the file is removed then,
and the failure names the script. A name with NUL in it never gets as far as the operating system. It
is refused in another way, after the file was made, and that file stays (`failed_copy`).
-/

namespace ClasspathProbe.Probe

open ClasspathProbe.Action (exec exec_bind_ok exec_bind_error)

variable {settings : GradleSettings} {w w' : World} {name : Text} {e : Failure}

/-! ## Names for temporary files -/

/-- Neither the settings nor the world put NUL into the names of temporary files. A directory of a
real system has no NUL in its name. -/
structure CanName (settings : GradleSettings) (w : World) : Prop where
  tempPrefix : '\x00' ∉ settings.tempPrefix
  tempSuffix : '\x00' ∉ settings.tempSuffix
  here : ∀ name ∈ w.here, '\x00' ∉ name
  tempDirectory : ∀ directory, w.tempDirectory? = some directory → '\x00' ∉ directory

theorem not_mem_padded (n : Nat) : '\x00' ∉ Text.padStart '0' 8 (Text.ofNat n) := by
  rw [Text.padStart, List.mem_append]
  rintro (hfill | hdigit)
  · cases List.eq_of_mem_replicate hfill
  · have hdigit : Char.isDigit '\x00' = true :=
      Nat.isDigit_of_mem_toDigits (by decide) (by decide) hdigit
    cases hdigit

theorem not_mem_inDirectory {c : Char} (hslash : c ≠ '/') {directory name : Text}
    (hdirectory : c ∉ directory) (hname : c ∉ name) : c ∉ Path.inDirectory directory name := by
  rw [Path.inDirectory]
  split
  · exact hname
  split
  · exact fun h => (List.mem_append.1 h).elim hdirectory hname
  · simp [hdirectory, hslash, hname]

namespace CanName

theorem fullName (h : CanName settings w) {directory : Text} (hdirectory : '\x00' ∉ directory) :
    '\x00' ∉ w.fullName directory := by
  intro hnul
  obtain ⟨part, hpart, hc⟩ := Path.exists_mem_of_mem_normal (by decide) (by decide) hnul
  rcases Path.mem_parts_join hpart with hhere | htemp
  · have hmem : '\x00' ∈ '/' :: Text.joined ['/'] w.here :=
      (Path.mem_ofText (by decide) (by decide)).1 ⟨part, hhere, hc⟩
    rcases List.mem_cons.1 hmem with hslash | hjoined
    · cases hslash
    · obtain ⟨name, hname, hc⟩ := (Text.mem_joined (by decide)).1 hjoined
      exact h.here name hname hc
  · exact hdirectory ((Path.mem_ofText (by decide) (by decide)).1 ⟨part, htemp, hc⟩)

theorem tempName (h : CanName settings w) {directory : Text}
    (hdirectory : w.tempDirectory? = some directory) (n : Nat) :
    '\x00' ∉ tempName settings (w.fullName directory) n := by
  refine not_mem_inDirectory (by decide) (h.fullName (h.tempDirectory directory hdirectory)) ?_
  rw [List.mem_append, List.mem_append]
  rintro ((hfront | hdigits) | hsuffix)
  · exact h.tempPrefix hfront
  · exact not_mem_padded _ hdigits
  · exact h.tempSuffix hsuffix

end CanName

/-- With names that can be given to the operating system, only it can refuse a new file. -/
theorem createTemp_failed {directory : Text} (hclean : ∀ n, '\x00' ∉ tempName settings directory n)
    {tries : Nat} (h : exec (createTemp settings directory tries) w = (.error e, w')) :
    ∃ why, e = .system why := by
  induction tries generalizing w with
  | zero => exact ⟨.noUsableName, (Except.error.inj (Prod.mk.inj h).1).symm⟩
  | succ tries ih =>
    have hnext : '\x00' ∉ nextName settings directory w := hclean (w.namesTried + 1)
    rw [exec_createTemp_succ, if_neg (by simpa using hnext)] at h
    split at h
    · cases h
    · exact ih h
    · obtain ⟨he, -⟩ := Prod.mk.inj h
      exact ⟨_, (Except.error.inj he).symm⟩

theorem makeTemp_failed (hcan : CanName settings w)
    (h : exec (makeTemp settings) w = (.error e, w')) : ∃ why, e = .system why := by
  cases hdirectory : w.tempDirectory? with
  | none =>
    rw [exec_makeTemp_of_none settings hdirectory] at h
    exact ⟨_, (Except.error.inj (Prod.mk.inj h).1).symm⟩
  | some directory =>
    rw [exec_makeTemp_of_directory settings hdirectory] at h
    exact createTemp_failed (hcan.tempName hdirectory) h

/-! ## Names with NUL -/

theorem exec_readScript_nul (hnul : '\x00' ∈ name) (w : World) :
    exec (readScript name) w = (.error .embeddedNul, w) := by
  rw [readScript]
  dsimp only
  split
  · have hshown : '\x00' ∈ (Path.ofText name).toText :=
      (Path.mem_toText_ofText (by decide) (by decide)).2 hnul
    rw [Action.exec_ask, if_pos (List.contains_iff_mem.2 hshown)]
  · rw [if_pos (List.contains_iff_mem.2 hnul)]
    rfl

/-! ## Failures to copy -/

/-- Whether a new temporary file can be made, with nothing in it yet. -/
def CreatesFile (settings : GradleSettings) (w : World) : Prop :=
  ∃ made w', exec (makeTemp settings) w = (.ok made, w')

/-- Whether a new temporary file with some bytes can be made: the disk takes all of them. -/
def MakesFile (settings : GradleSettings) (w : World) (bytes : List UInt8) : Prop :=
  ∃ file place w', exec (makeTemp settings) w = (.ok (file, place), w') ∧ w.disk file bytes = none

theorem CreatesFile.makes (h : CreatesFile settings w) :
    ∃ file place n, Makes settings w file place n := by
  obtain ⟨e, n, hrefused⟩ | hmakes := exec_makeTemp settings w
  · obtain ⟨made, w', hmade⟩ := h
    cases hrefused.symm.trans hmade
  · exact hmakes

theorem MakesFile.makes {bytes : List UInt8} (h : MakesFile settings w bytes) :
    ∃ file place n, Makes settings w file place n ∧ w.disk file bytes = none := by
  obtain ⟨file, place, w', hmade, hdisk⟩ := h
  obtain ⟨file', place', n, hmakes⟩ := CreatesFile.makes ⟨_, _, hmade⟩
  obtain ⟨rfl, rfl⟩ := Prod.mk.inj (Except.ok.inj (Prod.mk.inj (hmade.symm.trans hmakes.made)).1)
  exact ⟨file, place, n, hmakes, hdisk⟩

/-- A script of this library can be put into a file exactly when the disk takes a file with its
bytes. -/
theorem exists_exec_materialize_iff (p : Probe) :
    (∃ path w', exec (materialize settings p.scriptName) w = (.ok path, w')) ↔
      MakesFile settings w p.bytes := by
  constructor
  · rintro ⟨path, w', hok⟩
    obtain ⟨e, n, hrefused⟩ | ⟨file, place, n, hmakes⟩ := exec_makeTemp settings w
    · cases (exec_materialize_unmade hrefused).symm.trans hok
    · cases hdisk : w.disk file p.bytes with
      | none => exact ⟨file, place, _, hmakes.made, hdisk⟩
      | some short =>
        have hstopped := hmakes.exec_materialize_stopped (exec_readScript_own p _) hdisk
        cases hstopped.symm.trans hok
  · intro h
    obtain ⟨file, place, n, hmakes, hdisk⟩ := h.makes
    exact ⟨_, _, hmakes.exec_materialize_copied (exec_readScript_own p _) hdisk⟩

theorem not_failed_of_makesFile (p : Probe) (hmakes : MakesFile settings w p.bytes) :
    exec (materialize settings p.scriptName) w ≠ (.error e, w') := by
  intro hfailed
  obtain ⟨path, w₁, hok⟩ := (exists_exec_materialize_iff p).2 hmakes
  cases hok.symm.trans hfailed

/-- A failure to put a script into a file that names the script and what the system refused. -/
def NamesScript (name : Text) (e : Failure) : Prop :=
  ∃ failure why, e = .resolution failure ∧ failure.kind = .probeScript ∧
    failure.sentence = "Failed to materialize probe script: ".toList ++ SystemError.message why ∧
    failure.details = [("script_name".toList, .text name)] ∧ failure.origin = some (.system why)

theorem namesScript_of_system (hname : name ≠ []) (why : SystemError) :
    NamesScript name (materializeError name (.system why)) := by
  refine ⟨_, why, rfl, rfl, rfl, ?_, rfl⟩
  cases name with
  | nil => exact absurd rfl hname
  | cons c s => rfl

/-- What a new file holds before a script is copied into it: nothing, but for records. -/
theorem node?_created {file : Text} {place : Location} (hnew : IsNew w file place) (n : Nat) :
    ∃ f, (created w n (.ofText file) place).tree.node? place = some (.file f) ∧
      (f.bytes = [] ∨ w.IsLogPlace place) := by
  have hfile : (w.tree.insert place (.file ⟨[], false, 0⟩)).node? place =
      some (.file ⟨[], false, 0⟩) := FileTree.node?_insert_self _ _ hnew.free.ne_nil
  obtain hsame | ⟨hlog, f, -, hf⟩ :=
    (World.take_onlyLogs _ (creation (.ofText file))).tree place
  · exact ⟨_, hsame.trans hfile, .inl rfl⟩
  · exact ⟨f, hf, .inr ((holds_opened hnew n).grown.isLogPlace_iff.1 hlog)⟩

theorem exec_giveUp_nul (name : Text) (file : Path) (w : World) :
    exec (giveUp name file .embeddedNul) w = (.error .embeddedNul, w) := rfl

theorem failed_unmade (hname : name ≠ []) (hcan : CanName settings w)
    (hunmade : ¬CreatesFile settings w)
    (h : exec (materialize settings name) w = (.error e, w')) :
    NamesScript name e ∧ w.OnlyLogs w' := by
  obtain ⟨cause, n, hrefused⟩ | ⟨file, place, n, hmakes⟩ := exec_makeTemp settings w
  · obtain ⟨why, rfl⟩ := makeTemp_failed hcan hrefused
    obtain ⟨he, rfl⟩ := Prod.mk.inj ((exec_materialize_unmade hrefused).symm.trans h)
    obtain rfl := Except.error.inj he
    exact ⟨namesScript_of_system hname why, rfl, rfl, rfl, .refl _⟩
  · exact absurd ⟨_, _, hmakes.made⟩ hunmade

theorem failed_uncopied (hname : name ≠ []) (hnul : '\x00' ∉ name)
    (hcreates : CreatesFile settings w)
    (h : exec (materialize settings name) w = (.error e, w')) :
    NamesScript name e ∧ w.OnlyLogs w' := by
  have hclean : name.contains '\x00' = false := by simpa using hnul
  obtain ⟨file, place, n, hmakes⟩ := hcreates.makes
  obtain ⟨bytes, hread, hdisk, -⟩ | ⟨why, w₁, hcopy, hheld, -⟩ :=
    exec_copy (holds_created hmakes.isNew n) hclean file
  · rw [created_disk] at hdisk
    cases (hmakes.exec_materialize_copied hread hdisk).symm.trans h
  · have hrun := hmakes.exec_materialize_uncopied hcopy (hheld.exec_giveUp name why)
    obtain ⟨he, rfl⟩ := Prod.mk.inj (hrun.symm.trans h)
    obtain rfl := Except.error.inj he
    exact ⟨namesScript_of_system hname why, hheld.erase⟩

/-- A script whose name has no NUL fails by naming it, and leaves no file. -/
theorem failed_of_not_mem (hname : name ≠ []) (hnul : '\x00' ∉ name) (hcan : CanName settings w)
    (h : exec (materialize settings name) w = (.error e, w')) :
    NamesScript name e ∧ w.OnlyLogs w' := by
  by_cases hcreates : CreatesFile settings w
  · exact failed_uncopied hname hnul hcreates h
  · exact failed_unmade hname hcan hcreates h

/-- What is left of a script whose name has NUL in it, once a file was made for it. -/
theorem failed_of_mem (hnul : '\x00' ∈ name) (hcreates : CreatesFile settings w)
    (h : exec (materialize settings name) w = (.error e, w')) :
    e = .embeddedNul ∧ ∃ place f, w.tree.node? place = none ∧
      w'.tree.node? place = some (.file f) ∧ (f.bytes = [] ∨ w.IsLogPlace place) ∧
      w.Extends (fun p => p = place ∨ w.IsLogPlace p) w' := by
  obtain ⟨file, place, n, hmakes⟩ := hcreates.makes
  have hread := exec_readScript_nul hnul (created w n (.ofText file) place)
  have hcopy : exec (copy name file place) (created w n (.ofText file) place) =
      (.error .embeddedNul, created w n (.ofText file) place) := exec_bind_error hread _
  have hrun := hmakes.exec_materialize_uncopied hcopy (exec_giveUp_nul name _ _)
  obtain ⟨he, rfl⟩ := Prod.mk.inj (hrun.symm.trans h)
  obtain ⟨f, hf, hbytes⟩ := node?_created hmakes.isNew n
  exact ⟨(Except.error.inj he).symm, place, f, hmakes.isNew.free.node?_eq, hf, hbytes,
    (holds_created hmakes.isNew n).grown⟩

/-- A world with nothing but a directory for temporary files. -/
def bareWorld : World where
  tree := ⟨[(["t".toList], .directory 0)]⟩
  here := []
  tempDirectory := "/t".toList
  environment := []

/-- The bare world on a disk with room for a hundred bytes. -/
def fullWorld : World := { bareWorld with disk := fun _ _ => some ⟨100, .noSpace⟩ }

theorem not_mem_bareDirectory {directory : Text} (h : some "/t".toList = some directory) :
    '\x00' ∉ directory := by
  obtain rfl := Option.some.inj h
  decide

theorem canName_bareWorld : CanName {} bareWorld :=
  ⟨by decide, by decide, by simp [bareWorld], fun _ => not_mem_bareDirectory⟩

theorem canName_fullWorld : CanName {} fullWorld :=
  ⟨by decide, by decide, by simp [fullWorld, bareWorld], fun _ => not_mem_bareDirectory⟩

def missingName : Text := "missing.gradle".toList

/-- A name with NUL between two letters. -/
def nulName : Text := ['a', '\x00', 'b']

/-- Where the first temporary file of the bare world is made. -/
def firstPlace : Location := ["t".toList, "classpath00000001.gradle".toList]

end ClasspathProbe.Probe
