import ClasspathProbe.Proofs.Probe.Materialize
import ClasspathProbe.Proofs.Resolver.Steps

/-!
# Sessions of calls

Whatever resolvers are asked and however their calls end, nothing is left of the probe scripts: a
call only adds to the logs (`Call.after_onlyLogs`), and so does a whole session
(`Call.afterAll_onlyLogs`).
-/

namespace ClasspathProbe

open ClasspathProbe.Action (Keeps LogFrame exec)
open World (OnlyLogs onlyLogs_frame)

variable {R : World → World → Prop}

namespace Resolver

theorem clean_scriptName (p : Probe) : p.scriptName.contains '\x00' = false := by
  cases p <;> rfl

/-- What a call does while its script is there. -/
def callBody (r : Resolver) (p : Probe) (scripts : List Path) : Action (Text × Text) := do
  let gradle ← Wrapper.find r.machine r.settings r.directory
  Invocation.run r.machine (Invocation.commandLine r.settings gradle scripts [p.task]) r.directory

theorem call_eq (r : Resolver) (p : Probe) :
    r.call p = Probe.withScripts r.settings [p.scriptName] (r.callBody p) := rfl

theorem callBody_keeps (hR : DeedFrame R) (r : Resolver) (p : Probe) (scripts : List Path) :
    Keeps R (r.callBody p scripts) :=
  .bind hR.toLogFrame (Wrapper.find_keeps hR r.machine r.settings r.directory) fun _ =>
    Invocation.run_keeps hR r.machine _ r.directory

theorem call_onlyLogs (r : Resolver) (p : Probe) : Keeps OnlyLogs (r.call p) := by
  rw [call_eq]
  refine Probe.withScriptsAfter_onlyLogs r.settings ?_ (callBody_keeps onlyLogs_deedFrame r p) []
  exact List.forall_mem_singleton.2 (clean_scriptName p)

/-! What the call of the executable keeps is kept by all that a resolver does. -/

theorem probe_keeps (hR : LogFrame R) {r : Resolver} {p : Probe} (hcall : Keeps R (r.call p)) :
    Keeps R (r.probe p) := by
  rw [probe]
  refine .bind hR (.log hR _ _ _) fun _ => ?_
  refine .bind hR hcall fun streams => ?_
  refine .bind hR (Invocation.report_keeps hR _) fun _ => ?_
  exact .bind hR (readOutput_keeps hR _) fun artifacts => usable_keeps hR artifacts

theorem classpath_keeps (hR : LogFrame R) {r : Resolver} (hcall : Keeps R (r.call .project)) :
    Keeps R r.classpath := by
  rw [classpath]
  refine .bind hR (probe_keeps hR hcall) fun artifacts => ?_
  exact .bind hR (celebrate_keeps hR r _ artifacts) fun _ => .pure hR artifacts

theorem buildScriptClasspath_keeps (hR : LogFrame R) {r : Resolver}
    (hcall : Keeps R (r.call .buildScripts)) : Keeps R r.buildScriptClasspath := by
  rw [buildScriptClasspath]
  split
  · exact .pure hR []
  · refine .bind hR (probe_keeps hR hcall) fun artifacts => ?_
    exact .bind hR (celebrate_keeps hR r _ artifacts) fun _ => .pure hR _

end Resolver

/-! ## Sessions -/

/-- A call of a resolver: for the classpath of its project, or for that of its build scripts. -/
structure Call where
  resolver : Resolver
  probe : Probe

namespace Call

/-- The world after a call, whether it returned or failed. -/
def after (w : World) (c : Call) : World :=
  match c.probe with
  | .project => (exec c.resolver.classpath w).2
  | .buildScripts => (exec c.resolver.buildScriptClasspath w).2

theorem after_keeps (hR : LogFrame R) (w : World) {c : Call}
    (hcall : Keeps R (c.resolver.call c.probe)) : R w (c.after w) := by
  obtain ⟨r, p⟩ := c
  cases p with
  | project => exact Resolver.classpath_keeps hR hcall w
  | buildScripts => exact Resolver.buildScriptClasspath_keeps hR hcall w

theorem after_onlyLogs (w : World) (c : Call) : w.OnlyLogs (c.after w) :=
  after_keeps onlyLogs_frame w (c.resolver.call_onlyLogs c.probe)

/-- The world after a session of calls. -/
def afterAll (w : World) (calls : List Call) : World := calls.foldl after w

theorem afterAll_onlyLogs (w : World) (calls : List Call) : w.OnlyLogs (afterAll w calls) := by
  induction calls generalizing w with
  | nil => exact .refl w
  | cons c calls ih => exact (after_onlyLogs w c).trans (ih (c.after w))

/-- **No probe script survives.** In every session every call leaves the tree as it was before the
call, but for files that records are added to: at any other place there is what was there before. -/
theorem tree_after_call (w : World) (calls : List Call) (c : Call) (place : Location) :
    (c.after (afterAll w calls)).tree.node? place = (afterAll w calls).tree.node? place ∨
      w.IsLogPlace place ∧ ∃ f, (c.after (afterAll w calls)).tree.node? place = some (.file f) ∧
        ((afterAll w calls).tree.node? place = none ∨
          ∃ g, (afterAll w calls).tree.node? place = some (.file g)) := by
  have hbefore := afterAll_onlyLogs w calls
  obtain hsame | ⟨hlog, f, hw, hf⟩ := (after_onlyLogs (afterAll w calls) c).tree place
  · exact .inl hsame
  · refine .inr ⟨hbefore.isLogPlace_iff.1 hlog, f, hf, ?_⟩
    obtain ⟨hnone, -⟩ | ⟨g, hg, -⟩ := hw
    · exact .inl hnone
    · exact .inr ⟨g, hg⟩

end Call

end ClasspathProbe
