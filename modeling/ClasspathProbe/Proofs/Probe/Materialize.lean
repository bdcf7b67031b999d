import ClasspathProbe.Probe.Materialize
import ClasspathProbe.Proofs.FileTree.NewFile
import ClasspathProbe.Proofs.World.TempDirectory

/-!
# Files for probe scripts

A script is copied into a file at a place where nothing was (`Holds`). While the file is there only
logs are written elsewhere, so its path leads to it until it is removed, and what is left then is
the tree from before with more in its logs.
-/

namespace ClasspathProbe.Probe

open ClasspathProbe.Action (exec Keeps LogFrame exec_bind exec_bind_ok exec_bind_error of_exec_bind
  exec_recover)

variable {settings : GradleSettings} {w w' w'' : World} {name text : Text} {path : Path}
  {place : Location} {e : Failure}

/-! ## Names of temporary files -/

theorem head?_tempName (settings : GradleSettings) {directory : Text}
    (h : directory.head? = some '/') (n : Nat) :
    (tempName settings directory n).head? = some '/' := by
  have hfilled : directory.isEmpty = false := by
    cases directory with
    | nil => cases h
    | cons c rest => rfl
  rw [tempName, Path.inDirectory, hfilled, Bool.or_false]
  split
  next hslash => exact of_decide_eq_true hslash
  split
  · rw [List.head?_append, h]
    rfl
  · rw [List.head?_append, h]
    rfl

/-- The name that is tried next for a temporary file in a directory. -/
def nextName (settings : GradleSettings) (directory : Text) (w : World) : Text :=
  tempName settings directory (w.namesTried + 1)

/-! ## Making a temporary file -/

/-- A name under which a file was made: it can be given to the system, and nothing was there. -/
structure IsNew (w : World) (name : Text) (place : Location) : Prop where
  absolute : name.head? = some '/'
  clean : name.contains '\x00' = false
  free : w.tree.FreeAt w.here name place

/-- Whether a name is new is told by the tree and the working directory. -/
theorem IsNew.congr (h : IsNew w name place) (htree : w'.tree = w.tree) (hhere : w'.here = w.here) :
    IsNew w' name place := by
  refine ⟨h.absolute, h.clean, ?_⟩
  rw [htree, hhere]
  exact h.free

theorem exec_createTemp_succ (settings : GradleSettings) (directory : Text) (tries : Nat)
    (w : World) :
    exec (createTemp settings directory (tries + 1)) w =
      if (nextName settings directory w).contains '\x00' then
        (.error .embeddedNul, { w with namesTried := w.namesTried + 1 })
      else
        match w.tree.createNew w.here (nextName settings directory w) with
        | .ok (place, tree) =>
          (.ok (nextName settings directory w, place),
            { w with namesTried := w.namesTried + 1, tree })
        | .error .fileExists =>
          exec (createTemp settings directory tries) { w with namesTried := w.namesTried + 1 }
        | .error why =>
          (.error (.refused why (nextName settings directory w)),
            { w with namesTried := w.namesTried + 1 }) := by
  rw [createTemp, exec_bind_ok (Action.exec_modify _ _), exec_bind_ok (Action.exec_get _)]
  have hname : tempName settings directory (w.namesTried + 1) = nextName settings directory w := rfl
  dsimp only
  rw [hname]
  by_cases hnul : (nextName settings directory w).contains '\x00' = true
  · rw [if_pos hnul, if_pos hnul]
    rfl
  · rw [if_neg hnul, if_neg hnul]
    cases hnew : w.tree.createNew w.here (nextName settings directory w) with
    | ok made => rfl
    | error why => cases why <;> rfl

/-- Making a file in a directory only counts names and, when it succeeds, leaves an empty file where
nothing was. -/
theorem exec_createTemp (settings : GradleSettings) {directory : Text}
    (habs : directory.head? = some '/') (tries : Nat) (w : World) :
    ∃ n, (∃ e, exec (createTemp settings directory tries) w =
        (.error e, { w with namesTried := n })) ∨
      ∃ place, IsNew w (tempName settings directory n) place ∧
        exec (createTemp settings directory tries) w = (.ok (tempName settings directory n, place),
          { w with namesTried := n, tree := w.tree.insert place (.file ⟨[], false, 0⟩) }) := by
  induction tries generalizing w with
  | zero => exact ⟨w.namesTried, .inl ⟨_, rfl⟩⟩
  | succ tries ih =>
    rw [exec_createTemp_succ]
    split
    · exact ⟨_, .inl ⟨_, rfl⟩⟩
    next hnul =>
    split
    · next place tree hnew =>
      obtain ⟨hfree, rfl⟩ := FileTree.createNew_eq_ok hnew
      have hclean : (nextName settings directory w).contains '\x00' = false := by simpa using hnul
      exact ⟨_, .inr ⟨place, ⟨head?_tempName settings habs _, hclean, hfree⟩, rfl⟩⟩
    · -- the name is taken, and the next one is tried in a world that differs in the count alone
      obtain ⟨n, ⟨e, herr⟩ | ⟨place, hnew, hok⟩⟩ := ih { w with namesTried := w.namesTried + 1 }
      · exact ⟨n, .inl ⟨e, herr⟩⟩
      · exact ⟨n, .inr ⟨place, hnew.congr rfl rfl, hok⟩⟩
    · exact ⟨_, .inl ⟨_, rfl⟩⟩

theorem exec_makeTemp_of_directory (settings : GradleSettings) {directory : Text}
    (h : w.tempDirectory? = some directory) :
    exec (makeTemp settings) w =
      exec (createTemp settings (w.fullName directory) mostNames) w.settled :=
  exec_bind_ok (Action.exec_fixTempDirectory h) _

theorem exec_makeTemp_of_none (settings : GradleSettings) (h : w.tempDirectory? = none) :
    exec (makeTemp settings) w = (.error (.system (.noUsableDirectory w.tempCandidates)), w) :=
  exec_bind_error (Action.exec_fixTempDirectory_none h) _

/-- The world with a new empty file in it, made under the name that was tried as the `n`-th. -/
def opened (w : World) (n : Nat) (place : Location) : World :=
  { w.settled with namesTried := n, tree := w.tree.insert place (.file ⟨[], false, 0⟩) }

/-- A temporary file is made under a name, at a place. -/
structure Makes (settings : GradleSettings) (w : World) (name : Text) (place : Location)
    (n : Nat) : Prop where
  isNew : IsNew w name place
  named : ∃ directory, w.tempDirectory? = some directory ∧
    name = tempName settings (w.fullName directory) n
  made : exec (makeTemp settings) w = (.ok (name, place), opened w n place)

/-- Making a temporary file fixes the directory and counts names, whether it succeeds or not. -/
theorem exec_makeTemp (settings : GradleSettings) (w : World) :
    (∃ e n, exec (makeTemp settings) w = (.error e, { w.settled with namesTried := n })) ∨
      ∃ name place n, Makes settings w name place n := by
  cases hdirectory : w.tempDirectory? with
  | none =>
    rw [exec_makeTemp_of_none settings hdirectory, World.settled_of_none hdirectory]
    exact .inl ⟨_, w.namesTried, rfl⟩
  | some directory =>
    have hrun := exec_makeTemp_of_directory settings hdirectory
    obtain ⟨n, ⟨e, herr⟩ | ⟨place, hnew, hok⟩⟩ :=
      exec_createTemp settings (w.head?_fullName directory) mostNames w.settled
    · exact .inl ⟨e, n, hrun.trans herr⟩
    · exact .inr ⟨_, place, n, hnew.congr rfl rfl, ⟨directory, hdirectory, rfl⟩, hrun.trans hok⟩

/-! ## Reading a script -/

/-- Reading a script changes nothing, and only the operating system can refuse it. -/
theorem exec_readScript (hclean : name.contains '\x00' = false) (w : World) :
    (∃ bytes, exec (readScript name) w = (.ok bytes, w)) ∨
      ∃ e, exec (readScript name) w = (.error (.system e), w) := by
  rw [readScript]
  dsimp only
  by_cases habs : (Path.ofText name).root = .here
  · rw [if_neg (by simp [Path.isAbsolute, habs]), if_neg (by rw [hclean]; simp)]
    cases resources.read directory (Path.ofText name).toText with
    | ok bytes => exact .inl ⟨bytes, rfl⟩
    | error why => exact .inr ⟨_, rfl⟩
  · have hname := Path.contains_toText hclean
    rw [if_pos (by simpa [Path.isAbsolute] using habs), Action.exec_ask,
      if_neg (by rw [hname]; simp)]
    cases w.tree.read w.here (Path.ofText name).toText with
    | ok bytes => exact .inl ⟨bytes, rfl⟩
    | error why => exact .inr ⟨_, rfl⟩

/-- The scripts of this library can always be read. -/
theorem exec_readScript_own (p : Probe) (w : World) :
    exec (readScript p.scriptName) w = (.ok p.bytes, w) := by
  cases p <;> rfl

/-! ## As long as a file is there -/

/-- The second world is the first with a file where nothing was, made under a name that the path
reads, and with more in the logs. -/
structure Holds (w w' : World) (path : Path) (place : Location) : Prop where
  grown : w.Extends (fun p => p = place ∨ w.IsLogPlace p) w'
  named : ∃ name, IsNew w name place ∧ path = .ofText name
  file : ∃ f, w'.tree.node? place = some (.file f)

namespace Holds

theorem onlyLogs (h : Holds w w' path place) (hlogs : w'.OnlyLogs w'') :
    Holds w w'' path place where
  grown := h.grown.trans (hlogs.mono fun _ hp => .inr (h.grown.isLogPlace_iff.1 hp))
  named := h.named
  file := by
    obtain ⟨f, hf⟩ := h.file
    obtain he | ⟨-, g, -, hg⟩ := hlogs.tree place
    · exact ⟨f, he.trans hf⟩
    · exact ⟨g, hg⟩

theorem ne_nil (h : Holds w w' path place) : place ≠ [] := by
  obtain ⟨name, hnew, -⟩ := h.named
  exact hnew.free.ne_nil

/-- The path of the file leads to it. -/
theorem locate (h : Holds w w' path place) {aim : FileTree.Aim} (haim : aim.makes = false)
    {f : File} (hf : w'.tree.node? place = some (.file f)) :
    w'.tree.locate w'.here aim path.toText = .ok (.found place (.file f)) := by
  obtain ⟨name, hnew, rfl⟩ := h.named
  rw [h.grown.here]
  exact hnew.free.locate_written hnew.absolute h.grown.tree hf haim

theorem clean (h : Holds w w' path place) : path.toText.contains '\x00' = false := by
  obtain ⟨name, hnew, rfl⟩ := h.named
  exact Path.contains_toText hnew.clean

/-- Removing the file succeeds and takes away nothing else. -/
theorem exec_remove (h : Holds w w' path place) :
    exec (remove path) w' = (.ok ⟨⟩, { w' with tree := w'.tree.erase place }) := by
  obtain ⟨f, hf⟩ := h.file
  have hunlink : w'.tree.unlink w'.here path.toText = .ok (w'.tree.erase place) := by
    rw [FileTree.unlink, h.locate rfl hf]
    rfl
  rw [remove, exec_recover, Action.exec_change, if_neg (by rw [h.clean]; simp), hunlink]

/-- Without the file the world is that of before, with more in its logs. -/
theorem erase (h : Holds w w' path place) :
    w.OnlyLogs { w' with tree := w'.tree.erase place } := by
  obtain ⟨name, hnew, -⟩ := h.named
  exact ⟨h.grown.here, h.grown.sinks, h.grown.threshold,
    h.grown.tree.erase h.ne_nil hnew.free.node?_eq⟩

end Holds

/-! ## Copying a script -/

/-- The record of a new temporary file. -/
def creation (path : Path) : Log.Record :=
  ⟨logger, Log.debug, "Creating temporary gradle file ".toList ++ path.toText⟩

/-- The world with a new empty file in it and the record of that in its logs. -/
def created (w : World) (n : Nat) (path : Path) (place : Location) : World :=
  (opened w n place).take (creation path)

/-- A new file changes, beside the log and the tree, the count of names and fixes the directory for
temporary files. -/
theorem created_eq (w : World) (n : Nat) (path : Path) (place : Location) :
    ∃ tree log, created w n path place = { w.settled with namesTried := n, tree, log } := by
  obtain ⟨tree, log, htake⟩ := World.take_eq (opened w n place) (creation path)
  exact ⟨tree, log, htake⟩

@[simp] theorem created_deeds (w : World) (n : Nat) (path : Path) (place : Location) :
    (created w n path place).deeds = w.deeds := by
  obtain ⟨tree, log, hcreated⟩ := created_eq w n path place
  rw [hcreated]
  rfl

@[simp] theorem created_disk (w : World) (n : Nat) (path : Path) (place : Location) :
    (created w n path place).disk = w.disk := by
  obtain ⟨tree, log, hcreated⟩ := created_eq w n path place
  rw [hcreated]
  rfl

@[simp] theorem created_tempDirectory (w : World) (n : Nat) (path : Path) (place : Location) :
    (created w n path place).tempDirectory = w.tempDirectory? := by
  obtain ⟨tree, log, hcreated⟩ := created_eq w n path place
  rw [hcreated]
  rfl

theorem holds_opened (hnew : IsNew w name place) (n : Nat) :
    Holds w (opened w n place) (.ofText name) place where
  grown := ⟨rfl, rfl, rfl, .insert (.inl ⟨hnew.free.node?_eq, rfl⟩) (.inl rfl)⟩
  named := ⟨name, hnew, rfl⟩
  file := ⟨_, FileTree.node?_insert_self _ _ hnew.free.ne_nil⟩

theorem holds_created (hnew : IsNew w name place) (n : Nat) :
    Holds w (created w n (.ofText name) place) (.ofText name) place :=
  (holds_opened hnew n).onlyLogs (World.take_onlyLogs _ _)

/-- Writing bytes into the file of a script. -/
theorem Holds.fill (h : Holds w w' path place) (bytes : List UInt8) :
    Holds w { w' with tree := w'.tree.insert place (.file ⟨bytes, false, 0⟩) } path place := by
  have hself := FileTree.node?_insert_self w'.tree (.file ⟨bytes, false, 0⟩) h.ne_nil
  refine ⟨⟨h.grown.here, h.grown.sinks, h.grown.threshold, fun p => ?_⟩, h.named, _, hself⟩
  by_cases hp : p = place
  · subst hp
    obtain ⟨name, hnew, -⟩ := h.named
    exact .inr ⟨.inl rfl, _, .inl ⟨hnew.free.node?_eq, rfl⟩, hself⟩
  · rw [FileTree.node?_insert_ne _ _ hp]
    exact h.grown.tree p

/-- The world with the file of a script in it. -/
def filled (w : World) (n : Nat) (path : Path) (place : Location) (bytes : List UInt8) : World :=
  { created w n path place with
    tree := (created w n path place).tree.insert place (.file ⟨bytes, false, 0⟩) }

theorem holds_filled (hnew : IsNew w name place) (n : Nat) (bytes : List UInt8) :
    Holds w (filled w n (.ofText name) place bytes) (.ofText name) place :=
  (holds_created hnew n).fill bytes

theorem node?_filled (hnew : IsNew w name place) (n : Nat) (path : Path) (bytes : List UInt8) :
    (filled w n path place bytes).tree.node? place = some (.file ⟨bytes, false, 0⟩) :=
  FileTree.node?_insert_self _ _ hnew.free.ne_nil

theorem exec_copy_read {bytes : List UInt8} (h : exec (readScript name) w = (.ok bytes, w))
    (file : Text) (place : Location) :
    exec (copy name file place) w =
      match w.disk file bytes with
      | none => (.ok ⟨⟩, { w with tree := w.tree.insert place (.file ⟨bytes, false, 0⟩) })
      | some short =>
        (.error (.system (.stopped short.why)),
          { w with tree := w.tree.insert place (.file ⟨bytes.take short.taken, false, 0⟩) }) := by
  rw [copy, exec_bind_ok h, exec_bind_ok (Action.exec_get w)]
  cases w.disk file bytes <;> rfl

/-- A script is copied as a whole, or the operating system refuses that and there is a file still. -/
theorem exec_copy (h : Holds w w' path place) (hclean : name.contains '\x00' = false)
    (file : Text) :
    (∃ bytes, exec (readScript name) w' = (.ok bytes, w') ∧ w'.disk file bytes = none ∧
      exec (copy name file place) w' =
        (.ok ⟨⟩, { w' with tree := w'.tree.insert place (.file ⟨bytes, false, 0⟩) })) ∨
      ∃ why w'', exec (copy name file place) w' = (.error (.system why), w'') ∧
        Holds w w'' path place ∧ w''.deeds = w'.deeds ∧ w''.tempDirectory = w'.tempDirectory := by
  obtain ⟨bytes, hread⟩ | ⟨why, hread⟩ := exec_readScript hclean w'
  · have hcopy := exec_copy_read hread file place
    cases hdisk : w'.disk file bytes with
    | none =>
      rw [hdisk] at hcopy
      exact .inl ⟨bytes, hread, hdisk, hcopy⟩
    | some short =>
      rw [hdisk] at hcopy
      exact .inr ⟨_, _, hcopy, h.fill _, rfl, rfl⟩
  · exact .inr ⟨why, w', exec_bind_error hread _, h, rfl, rfl⟩

theorem Holds.exec_giveUp (h : Holds w w' path place) (name : Text) (why : SystemError) :
    exec (giveUp name path (.system why)) w' =
      (.error (materializeError name (.system why)), { w' with tree := w'.tree.erase place }) :=
  exec_bind_ok h.exec_remove _

theorem exec_materialize_unmade (h : exec (makeTemp settings) w = (.error e, w')) :
    exec (materialize settings name) w = (.error (materializeError name e), w') := by
  rw [materialize]
  exact exec_bind_error (by rw [exec_recover, h]; rfl) _

namespace Makes

variable {file : Text} {n : Nat}

/-- What is left of putting a script into a file once that is made. -/
theorem exec_materialize (h : Makes settings w file place n) :
    exec (materialize settings name) w =
      exec (do
        Action.recover (copy name file place) (giveUp name (.ofText file))
        return .ofText file) (created w n (.ofText file) place) := by
  have hpath : (opened w n place).absolute (.ofText file) = .ofText file :=
    Path.join_of_ne_here _ (Path.ofText_ne_here h.isNew.absolute)
  rw [materialize, exec_bind_ok (by rw [exec_recover, h.made])]
  dsimp only
  rw [exec_bind_ok (Action.exec_view _ _), exec_bind_ok (Action.exec_log _ _ _ _), hpath]
  rfl

/-- A script that is copied is in its file. -/
theorem exec_materialize_copied (h : Makes settings w file place n) {bytes : List UInt8}
    (hread : exec (readScript name) (created w n (.ofText file) place) =
      (.ok bytes, created w n (.ofText file) place)) (hdisk : w.disk file bytes = none) :
    exec (materialize settings name) w =
      (.ok (.ofText file), filled w n (.ofText file) place bytes) := by
  have htaken : (created w n (.ofText file) place).disk file bytes = none := by
    rwa [created_disk]
  have hcopy := exec_copy_read hread file place
  rw [htaken] at hcopy
  rw [h.exec_materialize, exec_bind_ok (by rw [exec_recover, hcopy])]
  rfl

/-- A script that is not copied is given up. -/
theorem exec_materialize_uncopied (h : Makes settings w file place n) {cause : Failure}
    (hcopy : exec (copy name file place) (created w n (.ofText file) place) = (.error e, w'))
    (hgiven : exec (giveUp name (.ofText file) e) w' = (.error cause, w'')) :
    exec (materialize settings name) w = (.error cause, w'') := by
  rw [h.exec_materialize]
  exact exec_bind_error (by rw [exec_recover, hcopy]; exact hgiven) _

/-- When the copy of a script is stopped, its file is removed. -/
theorem exec_materialize_stopped (h : Makes settings w file place n) {bytes : List UInt8}
    (hread : exec (readScript name) (created w n (.ofText file) place) =
      (.ok bytes, created w n (.ofText file) place)) {short : Shortfall}
    (hdisk : w.disk file bytes = some short) :
    let part := filled w n (.ofText file) place (bytes.take short.taken)
    exec (materialize settings name) w =
      (.error (materializeError name (.system (.stopped short.why))),
        { part with tree := part.tree.erase place }) := by
  intro part
  have hshort : (created w n (.ofText file) place).disk file bytes = some short := by
    rwa [created_disk]
  have hcopy := exec_copy_read hread file place
  rw [hshort] at hcopy
  exact h.exec_materialize_uncopied hcopy
    ((holds_filled h.isNew n (bytes.take short.taken)).exec_giveUp name _)

end Makes

/-- Copying a script fails and leaves no file, or has a file made that holds what was read. -/
theorem exec_materialize (settings : GradleSettings) (hclean : name.contains '\x00' = false)
    (w : World) :
    ∃ w', w'.deeds = w.deeds ∧ w'.tempDirectory = w.tempDirectory? ∧
      ((∃ e, exec (materialize settings name) w = (.error e, w') ∧ w.OnlyLogs w') ∨
        ∃ path place bytes, exec (materialize settings name) w = (.ok path, w') ∧
          Holds w w' path place ∧ w'.tree.node? place = some (.file ⟨bytes, false, 0⟩) ∧
          ∃ w₀, exec (readScript name) w₀ = (.ok bytes, w₀)) := by
  obtain ⟨e, n, herr⟩ | ⟨file, place, n, hmakes⟩ := exec_makeTemp settings w
  · refine ⟨{ w.settled with namesTried := n }, rfl, rfl,
      .inl ⟨materializeError name e, exec_materialize_unmade herr, ?_⟩⟩
    exact ⟨rfl, rfl, rfl, .refl _⟩
  · have hholds := holds_created hmakes.isNew n
    have hdeeds := created_deeds w n (.ofText file) place
    have htemp := created_tempDirectory w n (.ofText file) place
    obtain ⟨bytes, hread, hdisk, -⟩ | ⟨why, w₁, hcopy, hheld, hdeeds₁, htemp₁⟩ :=
      exec_copy hholds hclean file
    · rw [created_disk] at hdisk
      exact ⟨filled w n (.ofText file) place bytes, hdeeds, htemp, .inr ⟨_, place, bytes,
        hmakes.exec_materialize_copied hread hdisk, holds_filled hmakes.isNew n bytes,
        node?_filled hmakes.isNew n _ bytes, _, hread⟩⟩
    · -- `giveUp` removes the file for refusals of the system, and copying fails in no other way
      have hrun := hmakes.exec_materialize_uncopied hcopy (hheld.exec_giveUp name why)
      exact ⟨{ w₁ with tree := w₁.tree.erase place }, hdeeds₁.trans hdeeds, htemp₁.trans htemp,
        .inl ⟨_, hrun, hheld.erase⟩⟩

/-- The path of the file for a script under the name that is tried as the `n`-th in a directory. -/
def scriptPath (settings : GradleSettings) (directory : Text) (n : Nat) : Path :=
  .ofText (tempName settings directory n)

theorem materialize_path (h : exec (materialize settings name) w = (.ok path, w')) :
    ∃ directory n, w.tempDirectory? = some directory ∧
      path = scriptPath settings (w.fullName directory) n := by
  obtain ⟨e, n, herr⟩ | ⟨file, place, n, hmakes⟩ := exec_makeTemp settings w
  · cases (exec_materialize_unmade herr).symm.trans h
  · rw [hmakes.exec_materialize] at h
    obtain ⟨-, w₁, -, h⟩ := of_exec_bind h
    obtain rfl := Except.ok.inj (Prod.mk.inj h).1
    obtain ⟨directory, hdirectory, rfl⟩ := hmakes.named
    exact ⟨directory, n, hdirectory, rfl⟩

/-! ## Scripts for as long as they are needed -/

section WithScripts

variable {α : Type}

theorem exec_ensuring (x : Action α) (cleanUp : Action Unit) (w : World) :
    exec (ensuring x cleanUp) w =
      match exec cleanUp (exec x w).2 with
      | (.ok _, w') => ((exec x w).1, w')
      | (.error e, w') => (.error e, w') := by
  rw [ensuring, exec_bind_ok (Action.exec_attempt x w), exec_bind]
  generalize exec cleanUp (exec x w).2 = r
  obtain ⟨outcome, w'⟩ := r
  cases outcome with
  | error e => rfl
  | ok a => cases (exec x w).1 <;> rfl

/-- Something that only adds to logs runs while a file is there, which then is removed. -/
theorem Holds.exec_ensuring (h : Holds w w' path place) {x : Action α}
    (hx : w'.OnlyLogs (exec x w').2) :
    exec (ensuring x (remove path)) w' =
      ((exec x w').1, { (exec x w').2 with tree := (exec x w').2.tree.erase place }) := by
  rw [Probe.exec_ensuring, (h.onlyLogs hx).exec_remove]

/-- Whatever is done with scripts, no file of theirs is left, and nothing else is changed. -/
theorem withScriptsAfter_onlyLogs (settings : GradleSettings) {names : List Text}
    {body : List Path → Action α} (hclean : ∀ name ∈ names, name.contains '\x00' = false)
    (hbody : ∀ paths, Keeps World.OnlyLogs (body paths)) (ready : List Path) :
    Keeps World.OnlyLogs (withScriptsAfter settings ready names body) := by
  induction names generalizing ready with
  | nil => exact hbody ready
  | cons name names ih =>
    intro w
    obtain ⟨hname, hnames⟩ := List.forall_mem_cons.1 hclean
    rw [withScriptsAfter]
    obtain ⟨w', -, -, ⟨e, herr, hlogs⟩ | ⟨path, place, bytes, hok, hholds, -⟩⟩ :=
      exec_materialize settings hname w
    · rwa [exec_bind_error herr]
    · -- the rest runs while the file is there, and only adds to logs: the file removed is this one
      have hrest := ih hnames (ready ++ [path]) w'
      rw [exec_bind_ok hok, hholds.exec_ensuring hrest]
      exact (hholds.onlyLogs hrest).erase

variable {body : List Path → Action α}

theorem exec_withScripts_error (h : exec (materialize settings name) w = (.error e, w')) :
    exec (withScripts settings [name] body) w = (.error e, w') :=
  exec_bind_error h _

/-- A body that only adds to logs runs over one script. -/
theorem exec_withScripts_ok (h : exec (materialize settings name) w = (.ok path, w'))
    (hholds : Holds w w' path place) (hbody : w'.OnlyLogs (exec (body [path]) w').2) :
    exec (withScripts settings [name] body) w =
      ((exec (body [path]) w').1,
        { (exec (body [path]) w').2 with tree := (exec (body [path]) w').2.tree.erase place }) := by
  rw [withScripts, withScriptsAfter, exec_bind_ok h]
  exact hholds.exec_ensuring hbody

end WithScripts

/-! ## Relations kept -/

section Kept

variable {R : World → World → Prop} {α : Type}

/-- A relation that changes of the tree and of what is counted and fixed for temporary files keep as
well. -/
structure FileFrame (R : World → World → Prop) : Prop extends LogFrame R where
  tree : ∀ (w : World) (tree : FileTree), R w { w with tree }
  names : ∀ (w : World) (namesTried : Nat), R w { w with namesTried }
  directory : ∀ (w : World) (tempDirectory : Option Text), R w { w with tempDirectory }

theorem makeTemp_keeps (hR : FileFrame R) (settings : GradleSettings) :
    Keeps R (makeTemp settings) := by
  intro w
  have hcounted (n : Nat) : R w { w.settled with namesTried := n } :=
    hR.trans (hR.directory w w.tempDirectory?) (hR.names _ n)
  obtain ⟨e, n, hfailed⟩ | ⟨name, place, n, hmakes⟩ := exec_makeTemp settings w
  · rw [hfailed]
    exact hcounted n
  · rw [hmakes.made]
    exact hR.trans (hcounted n) (hR.tree _ _)

theorem readScript_keeps (hR : LogFrame R) (name : Text) : Keeps R (readScript name) := by
  rw [readScript]
  dsimp only
  split
  · exact .ask hR _ _
  · split
    · exact .throw hR _
    · split
      · exact .pure hR _
      · exact .throw hR _

theorem copy_keeps (hR : FileFrame R) (name file : Text) (place : Location) :
    Keeps R (copy name file place) := by
  refine .bind hR.toLogFrame (readScript_keeps hR.toLogFrame name) fun bytes w => ?_
  rw [exec_bind_ok (Action.exec_get w)]
  split <;> exact hR.tree w _

theorem remove_keeps (hR : FileFrame R) (path : Path) : Keeps R (remove path) := by
  have hchange : Keeps R (Action.change FileTree.unlink path.toText) := by
    intro w
    rw [Action.exec_change]
    split
    · exact hR.refl w
    · split
      · exact hR.tree w _
      · exact hR.refl w
  refine .recover hR.toLogFrame hchange fun e => ?_
  split
  · exact .pure hR.toLogFrame _
  · exact .throw hR.toLogFrame _

theorem giveUp_keeps (hR : FileFrame R) (name : Text) (file : Path) (e : Failure) :
    Keeps R (giveUp name file e) := by
  cases e with
  | system why => exact .bind hR.toLogFrame (remove_keeps hR file) fun _ => .throw hR.toLogFrame _
  | _ => exact .throw hR.toLogFrame _

theorem materialize_keeps (hR : FileFrame R) (settings : GradleSettings) (name : Text) :
    Keeps R (materialize settings name) := by
  have hlog := hR.toLogFrame
  rw [materialize]
  refine .bind hlog (.recover hlog (makeTemp_keeps hR settings) fun e => .throw hlog _) fun made => ?_
  refine .bind hlog (.of_exec hlog fun _ => rfl) fun path => ?_
  refine .bind hlog (.log hlog _ _ _) fun _ => ?_
  refine .bind hlog ?_ fun _ => .pure hlog path
  exact .recover hlog (copy_keeps hR name made.1 made.2) (giveUp_keeps hR name path)

theorem ensuring_keeps (hR : LogFrame R) {x : Action α} {cleanUp : Action Unit} (hx : Keeps R x)
    (hclean : Keeps R cleanUp) : Keeps R (ensuring x cleanUp) := by
  intro w
  have hboth : R w (exec cleanUp (exec x w).2).2 := hR.trans (hx w) (hclean _)
  rw [exec_ensuring]
  generalize exec cleanUp (exec x w).2 = r at hboth
  obtain ⟨outcome, w'⟩ := r
  cases outcome <;> exact hboth

theorem withScriptsAfter_keeps (hR : FileFrame R) (settings : GradleSettings)
    {body : List Path → Action α} (hbody : ∀ paths, Keeps R (body paths)) (names : List Text)
    (ready : List Path) : Keeps R (withScriptsAfter settings ready names body) := by
  induction names generalizing ready with
  | nil => exact hbody ready
  | cons name names ih =>
    rw [withScriptsAfter]
    refine .bind hR.toLogFrame (materialize_keeps hR settings name) fun path => ?_
    exact ensuring_keeps hR.toLogFrame (ih _) (remove_keeps hR path)

end Kept

end ClasspathProbe.Probe
