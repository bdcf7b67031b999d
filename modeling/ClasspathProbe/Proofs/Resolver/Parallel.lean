import ClasspathProbe.Proofs.Resolver.Session
import ClasspathProbe.Proofs.World.Agreement

/-!
# Resolutions with more logging

Resolvers end alike in a world and in one with more logging (`Resolver.agrees_classpath`,
`Resolver.agrees_buildScriptClasspath`), when their machine answers alike in both
(`Machine.Overlooks`): nothing that a resolver does by itself reads the bytes of a file that records
are added to.
-/

namespace ClasspathProbe

open ClasspathProbe.Action (Agrees Keeps exec exec_bind_ok exec_bind_error)
open World (OnlyLogs Parallel Quieter)

variable {P : Location → Prop} {w w' : World}

/-- Whether a machine answers alike in worlds that differ in logging only. -/
structure Machine.Overlooks (m : Machine) (P : Location → Prop) : Prop where
  which : ∀ {w w'}, Quieter P w w' → m.which w' = m.which w
  run : ∀ {w w'}, Quieter P w w' → m.run w' = m.run w

/-! ## The executable -/

namespace Wrapper

theorem agrees_firstWrapper? (places : List Path) : Agrees (Parallel P) (firstWrapper? places) :=
  .reads (exec_firstWrapper?_self · places) fun w w' h => by
    rw [exec_firstWrapper? fun p _ => h.sight_eq p]

theorem agrees_find {m : Machine} (hm : m.Overlooks P) (settings : GradleSettings)
    (workspace : Path) : Agrees (Parallel P) (find m settings workspace) := by
  have hcandidates : ∀ w w', Parallel P w w' →
      candidates w' (name m.isWindows settings) workspace =
        candidates w (name m.isWindows settings) workspace := by
    intro w w' h
    rw [candidates, candidates, World.absolute_of_here h.here]
  have hask : Agrees (Parallel P) (askWhich m settings.command) := fun w w' h =>
    ⟨congrArg Except.ok (congrFun (hm.which h.toQuieter) _), h.withDeed (.asked _), h.logsOpen⟩
  rw [find]
  refine .bind (.view hcandidates) fun places => ?_
  refine .bind (agrees_firstWrapper? places) fun found => ?_
  cases found with
  | some wrapper => exact .bind (Parallel.agrees_log _ _ _) fun _ => .pure wrapper
  | none =>
    refine .bind hask fun answer => ?_
    cases answer with
    | some command => exact .bind (Parallel.agrees_log _ _ _) fun _ => .pure command
    | none => exact .throw _

end Wrapper

/-! ## The call of the build tool -/

namespace Invocation

theorem agrees_run {m : Machine} (hm : m.Overlooks P) (command : List Text) (directory : Path) :
    Agrees (Parallel P) (run m command directory) := by
  intro w w' h
  rw [exec_run, exec_run, hm.run h.toQuieter]
  exact ⟨rfl, h.withDeed (.ran command directory h.tree), h.logsOpen⟩

theorem agrees_report (errors : Text) : Agrees (Parallel P) (report errors) := by
  rw [report]
  induction BuildReport.warnings errors with
  | nil => exact .pure _
  | cons text texts ih => exact .bind (Parallel.agrees_log _ _ _) fun _ => ih

end Invocation

/-! ## Files for probe scripts -/

namespace Probe

theorem tempDirectory?_quieter (h : Quieter P w w') : w'.tempDirectory? = w.tempDirectory? :=
  World.tempDirectory?_congr h.here h.disk h.tempDirectory
    (fun _ name _ => congrArg (List.lookup name) h.environment) fun _ _ => by rw [h.tree.sight_eq]

theorem settled_quieter (h : Quieter P w w') : Quieter P w.settled w'.settled :=
  { h with tempDirectory := tempDirectory?_quieter h }

/-- In both worlds a file is made at the same place in a directory, or none. -/
theorem createTemp_quieter (settings : GradleSettings) {directory : Text}
    (habs : directory.head? = some '/') (tries : Nat) (h : Quieter P w w') :
    ∃ n, (∃ e, exec (createTemp settings directory tries) w = (.error e, { w with namesTried := n }) ∧
        exec (createTemp settings directory tries) w' =
          (.error e, { w' with namesTried := n })) ∨
      ∃ place, IsNew w (tempName settings directory n) place ∧
        IsNew w' (tempName settings directory n) place ∧
        exec (createTemp settings directory tries) w = (.ok (tempName settings directory n, place),
          { w with namesTried := n, tree := w.tree.insert place (.file ⟨[], false, 0⟩) }) ∧
        exec (createTemp settings directory tries) w' = (.ok (tempName settings directory n, place),
          { w' with namesTried := n, tree := w'.tree.insert place (.file ⟨[], false, 0⟩) }) := by
  induction tries generalizing w w' with
  | zero =>
    refine ⟨w.namesTried, .inl ⟨_, rfl, ?_⟩⟩
    rw [← h.namesTried]
    rfl
  | succ tries ih =>
    have hname : nextName settings directory w' = nextName settings directory w := by
      rw [nextName, nextName, h.namesTried]
    rw [exec_createTemp_succ, exec_createTemp_succ, hname, h.namesTried]
    by_cases hnul : (nextName settings directory w).contains '\x00' = true
    · rw [if_pos hnul, if_pos hnul]
      exact ⟨_, .inl ⟨_, rfl, rfl⟩⟩
    rw [if_neg hnul, if_neg hnul]
    obtain ⟨why, hw, hw'⟩ | ⟨place, hw, hw'⟩ :=
      h.tree.createNew w.here (nextName settings directory w)
    · rw [← h.here] at hw'
      rw [hw, hw']
      cases why with
      | fileExists =>
        obtain ⟨n, hfailed | ⟨place, hnew, hnew', hmade⟩⟩ := ih (h.withNames (w.namesTried + 1))
        · exact ⟨n, .inl hfailed⟩
        · exact ⟨n, .inr ⟨place, hnew.congr rfl rfl, hnew'.congr rfl rfl, hmade⟩⟩
      | _ => exact ⟨_, .inl ⟨_, rfl, rfl⟩⟩
    · rw [← h.here] at hw'
      have hhead := head?_tempName settings habs (w.namesTried + 1)
      have hclean : (nextName settings directory w).contains '\x00' = false := by simpa using hnul
      have hfree := (FileTree.createNew_eq_ok hw).1
      have hfree' := (FileTree.createNew_eq_ok hw').1
      rw [hw, hw']
      exact ⟨_, .inr ⟨place, ⟨hhead, hclean, hfree⟩, ⟨hhead, hclean, hfree'⟩, rfl, rfl⟩⟩

/-- In both worlds a temporary file is made under the same name at the same place, or none. -/
theorem makeTemp_quieter (settings : GradleSettings) (h : Quieter P w w') :
    (∃ e n, exec (makeTemp settings) w = (.error e, { w.settled with namesTried := n }) ∧
      exec (makeTemp settings) w' = (.error e, { w'.settled with namesTried := n })) ∨
      ∃ name place n, Makes settings w name place n ∧ Makes settings w' name place n := by
  have hsame := tempDirectory?_quieter h
  cases hdirectory : w.tempDirectory? with
  | none =>
    have hdirectory' := hsame.trans hdirectory
    have hcandidates : w'.tempCandidates = w.tempCandidates :=
      World.tempCandidates_congr h.here fun name _ => congrArg (List.lookup name) h.environment
    rw [exec_makeTemp_of_none settings hdirectory, exec_makeTemp_of_none settings hdirectory',
      World.settled_of_none hdirectory, World.settled_of_none hdirectory', hcandidates]
    refine .inl ⟨_, w.namesTried, rfl, ?_⟩
    rw [← h.namesTried]
  | some directory =>
    have hrun := exec_makeTemp_of_directory settings hdirectory
    have hrun' := exec_makeTemp_of_directory settings (hsame.trans hdirectory)
    rw [World.fullName_of_here h.here] at hrun'
    obtain ⟨n, ⟨e, hw, hw'⟩ | ⟨place, hnew, hnew', hw, hw'⟩⟩ :=
      createTemp_quieter settings (w.head?_fullName directory) mostNames (settled_quieter h)
    · exact .inl ⟨e, n, hrun.trans hw, hrun'.trans hw'⟩
    · refine .inr ⟨_, place, n,
        ⟨hnew.congr rfl rfl, ⟨directory, hdirectory, rfl⟩, hrun.trans hw⟩,
        ⟨hnew'.congr rfl rfl, ⟨directory, hsame.trans hdirectory, ?_⟩, hrun'.trans hw'⟩⟩
      rw [World.fullName_of_here h.here]

theorem parallel_filled {name : Text} {place : Location} (h : Parallel P w w')
    (hnew : IsNew w name place) (n : Nat) (bytes : List UInt8) :
    Parallel P (filled w n (.ofText name) place bytes)
      (filled w' n (.ofText name) place bytes) := by
  have hfile : Quieter P (opened w n place) (opened w' n place) :=
    ((settled_quieter h.toQuieter).withNames n).withTree (h.tree.insert place _)
  have hopen : (opened w n place).LogsOpen P := h.logsOpen.extends (holds_opened hnew n).grown
  have hcreated := hfile.take hopen (creation (.ofText name))
  exact ⟨hcreated.withTree (hcreated.tree.insert place _),
    h.logsOpen.extends (holds_filled hnew n bytes).grown⟩

/-- A body that agrees and only adds to logs does so over a script. -/
theorem agrees_withScripts {α : Type} (settings : GradleSettings) (p : Probe)
    {body : List Path → Action α} (hkeeps : ∀ paths, Keeps OnlyLogs (body paths))
    (hbody : ∀ paths, Agrees (Parallel P) (body paths)) :
    Agrees (Parallel P) (withScripts settings [p.scriptName] body) := by
  intro w w' h
  obtain ⟨e, n, hw, hw'⟩ | ⟨name, place, n, hmakes, hmakes'⟩ :=
    makeTemp_quieter settings h.toQuieter
  · rw [exec_withScripts_error (exec_materialize_unmade hw),
      exec_withScripts_error (exec_materialize_unmade hw')]
    exact ⟨rfl, (settled_quieter h.toQuieter).withNames n, h.logsOpen⟩
  · have hdisk : w'.disk name p.bytes = w.disk name p.bytes := by rw [h.disk]
    cases hcopied : w.disk name p.bytes with
    | none =>
      have hmade := hmakes.exec_materialize_copied (exec_readScript_own p _) hcopied
      have hmade' := hmakes'.exec_materialize_copied (exec_readScript_own p _)
        (hdisk.trans hcopied)
      have hholds := holds_filled hmakes.isNew n p.bytes
      have hrun := hkeeps [.ofText name] (filled w n (.ofText name) place p.bytes)
      obtain ⟨hsame, hafter⟩ :=
        hbody [.ofText name] _ _ (parallel_filled h hmakes.isNew n p.bytes)
      rw [exec_withScripts_ok hmade hholds hrun,
        exec_withScripts_ok hmade' (holds_filled hmakes'.isNew n p.bytes) (hkeeps _ _)]
      exact ⟨hsame, hafter.withTree (hafter.tree.erase place),
        h.logsOpen.extends (hholds.onlyLogs hrun).erase⟩
    | some short =>
      have hstopped := hmakes.exec_materialize_stopped (exec_readScript_own p _) hcopied
      have hstopped' := hmakes'.exec_materialize_stopped (exec_readScript_own p _)
        (hdisk.trans hcopied)
      have hpart := parallel_filled h hmakes.isNew n (p.bytes.take short.taken)
      have hholds := holds_filled hmakes.isNew n (p.bytes.take short.taken)
      rw [exec_withScripts_error hstopped, exec_withScripts_error hstopped']
      exact ⟨rfl, hpart.withTree (hpart.tree.erase place), h.logsOpen.extends hholds.erase⟩

end Probe

/-! ## Resolutions -/

namespace Resolver

variable {r : Resolver}

theorem agrees_call (hm : r.machine.Overlooks P) (p : Probe) :
    Agrees (Parallel P) (r.call p) := by
  rw [call_eq]
  refine Probe.agrees_withScripts r.settings p (callBody_keeps onlyLogs_deedFrame r p)
    fun scripts => ?_
  exact .bind (Wrapper.agrees_find hm _ _) fun gradle => Invocation.agrees_run hm _ _

theorem agrees_readOutput (output : Text) : Agrees (Parallel P) (readOutput output) := by
  rw [readOutput]
  refine .bind (Parallel.agrees_log _ _ _) fun _ => ?_
  cases Marker.parse output with
  | ok artifacts => exact .pure artifacts
  | error e => exact .throw e

theorem agrees_usable (artifacts : List Artifact) : Agrees (Parallel P) (usable artifacts) :=
  .reads (fun w => exec_usable_of_sight (fun _ => rfl) artifacts) fun w w' h => by
    rw [exec_usable_of_sight h.sight_eq]

theorem agrees_celebrate (r : Resolver) (what : Text) (artifacts : List Artifact) :
    Agrees (Parallel P) (r.celebrate what artifacts) := by
  rw [celebrate]
  split
  · exact .pure _
  · exact Parallel.agrees_log _ _ _

theorem agrees_probe (hm : r.machine.Overlooks P) (p : Probe) :
    Agrees (Parallel P) (r.probe p) := by
  rw [probe]
  refine .bind (Parallel.agrees_log _ _ _) fun _ => ?_
  refine .bind (agrees_call hm p) fun streams => ?_
  refine .bind (Invocation.agrees_report _) fun _ => ?_
  exact .bind (agrees_readOutput _) fun artifacts => agrees_usable artifacts

theorem agrees_classpath (hm : r.machine.Overlooks P) : Agrees (Parallel P) r.classpath := by
  rw [classpath]
  refine .bind (agrees_probe hm .project) fun artifacts => ?_
  exact .bind (agrees_celebrate r _ artifacts) fun _ => .pure artifacts

theorem agrees_buildScriptClasspath (hm : r.machine.Overlooks P) :
    Agrees (Parallel P) r.buildScriptClasspath := by
  rw [buildScriptClasspath]
  split
  · exact .pure []
  · refine .bind (agrees_probe hm .buildScripts) fun artifacts => ?_
    exact .bind (agrees_celebrate r _ artifacts) fun _ => .pure _

theorem agrees_version (r : Resolver) : Agrees (Parallel P) r.version := by
  rw [version]
  refine .recover (.bind (.ask fun w w' h => ?_) fun time => .pure _) fun e => ?_
  · rw [h.tree.modified_eq, h.here]
  · split
    · exact .pure 0
    · exact .throw _

end Resolver

end ClasspathProbe
