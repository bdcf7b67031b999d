import ClasspathProbe.Proofs.BuildFile
import ClasspathProbe.Proofs.FileTree.Sight
import ClasspathProbe.Proofs.Settings.Reading
import ClasspathProbe.Proofs.World.Log

/-!
# The surroundings of settings

Settings are looked for in the environment and in the environment file of the working directory. A
look gives the environment as it is and the values of the file's lines (`Surroundings.of_exec_now`),
unless the file is no text or cannot be looked for (`Surroundings.exec_now_error_iff`). It can warn
about lines that say nothing. Only when records are added to the environment file itself
can the next look find something else in it (`World.SparesEnvFile`).
-/

namespace ClasspathProbe

open ClasspathProbe.Action (exec exec_bind_ok of_exec_bind of_exec_pure Keeps)

variable {w w' : World} {f : File} {pairs : List (Text × Option Text)}

namespace World

/-- What the environment file of a working directory gives: nothing when there is none, or else the
values of its lines, with what they refer to put in. -/
inductive EnvFileGives (w : World) : List (Text × Option Text) → Prop where
  | absent (h : ∀ f, ¬w.LeadsTo usualEnvFile.toText (.file f)) : EnvFileGives w []
  | read {f : File} {text : Text} (hfile : w.LeadsTo usualEnvFile.toText (.file f))
    (htext : Utf8.decodeStrict f.bytes = .ok text) :
    EnvFileGives w (EnvFile.values w.environment (EnvFile.ofText (Text.oneLineEnd text)))

/-- Why the environment file of a working directory is not read, though it may be there: it is no
text, or a test of its path is refused. -/
inductive EnvFileFails (w : World) : Failure → Prop where
  | undecodable {f : File} {fault : Utf8.Fault}
    (hfile : w.LeadsTo usualEnvFile.toText (.file f))
    (h : Utf8.decodeStrict f.bytes = .error fault) : EnvFileFails w (.undecodable (.utf8 fault))
  | refused {why : Refusal} (h : w.tree.look w.here usualEnvFile.toText = .error why)
    (hwhy : why.meansAbsent = false) : EnvFileFails w (.refused why usualEnvFile.toText)

/-- Whether no record is added to the environment file. -/
def SparesEnvFile (w : World) : Prop :=
  ∀ spot, w.tree.locate w.here .target usualEnvFile.toText = .ok spot → ¬w.IsLogPlace spot.place

theorem leadsTo_envFile_iff (h : w.OnlyLogs w') (hspares : w.SparesEnvFile) :
    w'.LeadsTo usualEnvFile.toText (.file f) ↔ w.LeadsTo usualEnvFile.toText (.file f) := by
  have hway := h.tree.locate w.here .target usualEnvFile.toText
  rw [LeadsTo, LeadsTo, h.here]
  generalize hbefore : w.tree.locate w.here .target usualEnvFile.toText = before at hway
  generalize hafter : w'.tree.locate w.here .target usualEnvFile.toText = later at hway
  cases hway with
  | same kept => simp only [FileTree.look, hbefore, hafter]
  | written spot hplace => exact absurd hplace (hspares spot hbefore)
  | refused why => simp only [FileTree.look, hbefore, hafter]
  | blocked =>
    simp [FileTree.look_of_error hbefore, FileTree.look_of_error hafter]

/-- The second world differs from the first, of what settings depend on, in files that records are
added to only. -/
structure OnlyReads (w w' : World) : Prop where
  onlyLogs : w.OnlyLogs w'
  environment : w'.environment = w.environment

theorem onlyReads_frame : Action.LogFrame OnlyReads where
  refl w := ⟨.refl w, rfl⟩
  trans h h' := ⟨h.onlyLogs.trans h'.onlyLogs, h'.environment.trans h.environment⟩
  take w r := by
    obtain ⟨tree, log, htake⟩ := take_eq w r
    exact ⟨take_onlyLogs w r, by rw [htake]⟩

theorem EnvFileGives.of_onlyReads (hgives : w'.EnvFileGives pairs) (h : w.OnlyReads w')
    (hspares : w.SparesEnvFile) : w.EnvFileGives pairs := by
  cases hgives with
  | absent hno => exact .absent fun f hf => hno f ((leadsTo_envFile_iff h.onlyLogs hspares).2 hf)
  | read hfile htext =>
    rw [h.environment]
    exact .read ((leadsTo_envFile_iff h.onlyLogs hspares).1 hfile) htext

end World

theorem Action.exec_isFile_of_leadsTo {p : Path} (h : w.LeadsTo p.toText (.file f)) :
    exec (Action.isFile p) w = (.ok true, w) := by
  obtain ⟨hnul, place, hlook⟩ := h
  rw [Action.isFile, Action.exec_test, hnul, FileTree.leadsToFile, hlook]
  rfl

theorem Action.exec_isFile_of_refused {p : Path} {why : Refusal}
    (hnul : p.toText.contains '\x00' = false) (h : w.tree.look w.here p.toText = .error why)
    (hwhy : why.meansAbsent = false) :
    exec (Action.isFile p) w = (.error (.refused why p.toText), w) := by
  rw [Action.isFile, Action.exec_test, hnul, FileTree.leadsToFile, h]
  dsimp only [Except.map]
  rw [hwhy]
  rfl

/-- A test for a file that is neither passed nor refused is failed. -/
theorem Action.exec_isFile_of_absent {p : Path} (h : ∀ f, ¬w.LeadsTo p.toText (.file f))
    (hlook : ∀ why, w.tree.look w.here p.toText = .error why → why.meansAbsent = true) :
    exec (Action.isFile p) w = (.ok false, w) := by
  rw [Action.isFile, Action.exec_test, FileTree.leadsToFile]
  split
  next => rfl
  next hnul =>
    cases hfound : w.tree.look w.here p.toText with
    | error why =>
      dsimp only [Except.map]
      rw [hlook why hfound]
      rfl
    | ok found =>
      obtain ⟨place, node⟩ := found
      cases node with
      | file f => exact absurd ⟨by simpa using hnul, place, hfound⟩ (h f)
      | _ => rfl

namespace Surroundings

open ClasspathProbe.Action (exec_ask_read exec_bind_error)

/-- Warning about lines does not fail. -/
theorem exec_warn (numbers : List Nat) (w : World) :
    ∃ w', w'.environment = w.environment ∧ exec (forIn numbers PUnit.unit fun number _ => do
      Action.log envFileLogger Log.warning (unreadableLine number)
      return ForInStep.yield PUnit.unit) w = (.ok PUnit.unit, w') := by
  induction numbers generalizing w with
  | nil => exact ⟨w, rfl, rfl⟩
  | cons number numbers ih =>
    let record : Log.Record := ⟨envFileLogger, Log.warning, unreadableLine number⟩
    obtain ⟨w', hkept, hrest⟩ := ih (w.take record)
    refine ⟨w', hkept.trans (World.onlyReads_frame.take w record).environment, ?_⟩
    rw [List.forIn_cons]
    exact hrest

/-- An environment file that is there is decoded, and its lines give values. -/
theorem exec_readEnvFile_of_leadsTo (hfile : w.LeadsTo usualEnvFile.toText (.file f)) :
    (∀ fault, Utf8.decodeStrict f.bytes = .error fault →
      exec (readEnvFile (.ok .utf8) usualEnvFile) w = (.error (.undecodable (.utf8 fault)), w)) ∧
    ∀ text, Utf8.decodeStrict f.bytes = .ok text →
      ∃ w', exec (readEnvFile (.ok .utf8) usualEnvFile) w =
        (.ok (EnvFile.values w.environment (EnvFile.ofText (Text.oneLineEnd text))), w') := by
  have hutf8 : exec (Action.ofExcept (.ok Encoding.utf8)) w = (.ok .utf8, w) := rfl
  have hdecode : Encoding.utf8.decode f.bytes = (Utf8.decodeStrict f.bytes).mapError .utf8 := rfl
  rw [readEnvFile, exec_bind_ok (Action.exec_isFile_of_leadsTo hfile), if_pos rfl,
    exec_bind_ok hutf8, exec_bind_ok (exec_ask_read hfile), hdecode]
  constructor
  · intro fault hbytes
    rw [hbytes]
    rfl
  · intro text hbytes
    have htext : exec (Action.ofExcept (((Utf8.decodeStrict f.bytes).mapError
        Encoding.Fault.utf8).mapError Failure.undecodable)) w = (.ok text, w) := by
      rw [hbytes]
      rfl
    obtain ⟨w', hkept, hwarn⟩ :=
      exec_warn (EnvFile.unreadable (EnvFile.ofText (Text.oneLineEnd text))) w
    refine ⟨w', ?_⟩
    rw [exec_bind_ok htext]
    dsimp only
    rw [exec_bind_ok hwarn, ← hkept]
    rfl

theorem exec_readEnvFile_of_fails {e : Failure} (h : w.EnvFileFails e) :
    exec (readEnvFile (.ok .utf8) usualEnvFile) w = (.error e, w) := by
  cases h with
  | refused hlook hwhy => exact exec_bind_error (Action.exec_isFile_of_refused rfl hlook hwhy) _
  | undecodable hfile hbytes => exact (exec_readEnvFile_of_leadsTo hfile).1 _ hbytes

/-- Reading the environment file fails as it must, or gives what it must. -/
theorem exec_readEnvFile_ends (w : World) :
    (∃ e, w.EnvFileFails e ∧ exec (readEnvFile (.ok .utf8) usualEnvFile) w = (.error e, w)) ∨
    ∃ pairs w', w.EnvFileGives pairs ∧
      exec (readEnvFile (.ok .utf8) usualEnvFile) w = (.ok pairs, w') := by
  by_cases hfails : ∃ e, w.EnvFileFails e
  · obtain ⟨e, he⟩ := hfails
    exact .inl ⟨e, he, exec_readEnvFile_of_fails he⟩
  right
  by_cases hfile : ∃ f, w.LeadsTo usualEnvFile.toText (.file f)
  · obtain ⟨f, hf⟩ := hfile
    cases hbytes : Utf8.decodeStrict f.bytes with
    | error fault => exact absurd ⟨_, .undecodable hf hbytes⟩ hfails
    | ok text =>
      obtain ⟨w', hread⟩ := (exec_readEnvFile_of_leadsTo hf).2 text hbytes
      exact ⟨_, w', .read hf hbytes, hread⟩
  · have hnone : ∀ f, ¬w.LeadsTo usualEnvFile.toText (.file f) := not_exists.1 hfile
    have habsent : exec (Action.isFile usualEnvFile) w = (.ok false, w) := by
      refine Action.exec_isFile_of_absent hnone fun why hlook => ?_
      cases hwhy : why.meansAbsent with
      | true => rfl
      | false => exact absurd ⟨_, .refused hlook hwhy⟩ hfails
    refine ⟨[], w, .absent hnone, ?_⟩
    rw [readEnvFile, exec_bind_ok habsent]
    rfl

theorem of_exec_readEnvFile (h : exec (readEnvFile (.ok .utf8) usualEnvFile) w = (.ok pairs, w')) :
    w.EnvFileGives pairs := by
  obtain ⟨e, -, hread⟩ | ⟨pairs', w₁, hgives, hread⟩ := exec_readEnvFile_ends w
  · cases hread.symm.trans h
  · cases hread.symm.trans h
    exact hgives

theorem of_exec_readEnvFile_error {e : Failure}
    (h : exec (readEnvFile (.ok .utf8) usualEnvFile) w = (.error e, w')) : w.EnvFileFails e := by
  obtain ⟨e', hfails, hread⟩ | ⟨pairs, w₁, -, hread⟩ := exec_readEnvFile_ends w
  · cases hread.symm.trans h
    exact hfails
  · cases hread.symm.trans h

theorem of_exec_now_error {start : Text} {e : Failure}
    (h : exec (now { start }) w = (.error e, w')) : w.EnvFileFails e := by
  rcases Action.of_exec_bind_error h with hfiles | ⟨files, w₁, -, hrest⟩
  · rw [List.mapM_cons] at hfiles
    rcases Action.of_exec_bind_error hfiles with hread | ⟨pairs, w₁, -, hrest⟩
    · exact of_exec_readEnvFile_error hread
    · cases hrest
  · cases hrest

/-- A look fails exactly when the environment file cannot be had. -/
theorem exec_now_error_iff {start : Text} {e : Failure} :
    (exec (now { start }) w).1 = .error e ↔ w.EnvFileFails e := by
  constructor
  · intro h
    exact of_exec_now_error (Prod.ext h rfl)
  · intro h
    have hfiles : exec ([usualEnvFile].mapM (readEnvFile (.ok .utf8))) w = (.error e, w) := by
      rw [List.mapM_cons]
      exact exec_bind_error (exec_readEnvFile_of_fails h) _
    rw [now, exec_bind_error hfiles]

/-- The surroundings of a moment, looked at as usual. -/
theorem of_exec_now {start : Text} {s : Surroundings}
    (h : exec (now { start }) w = (.ok s, w')) :
    ∃ pairs, w.EnvFileGives pairs ∧ s = ⟨{ start }, w.environment, pairs⟩ := by
  obtain ⟨files, w₁, hfiles, hrest⟩ := of_exec_bind h
  have hkept : w₁.environment = w.environment := by
    have hkeeps := Keeps.mapM World.onlyReads_frame
      (readEnvFile_keeps World.onlyReads_frame (.ok .utf8)) [usualEnvFile]
    exact (hkeeps.after hfiles).environment
  rw [List.mapM_cons] at hfiles
  obtain ⟨pairs, w₂, hread, hmore⟩ := of_exec_bind hfiles
  obtain ⟨rfl, -⟩ := of_exec_pure hmore
  obtain ⟨rfl, -⟩ := of_exec_pure hrest
  refine ⟨pairs, of_exec_readEnvFile hread, ?_⟩
  have hall : ∀ {α : Type} (as : List α), as.filter (fun _ => true) = as := fun as =>
    List.filter_eq_self.2 fun _ _ => rfl
  simp [hkept, hall]

end Surroundings

end ClasspathProbe
