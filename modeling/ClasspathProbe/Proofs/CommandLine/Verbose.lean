import ClasspathProbe.Proofs.CommandLine.Agreement
import ClasspathProbe.Proofs.Log.Verbose

/-!
# Runs with details

A command line that asks for details besides (`AddsVerbose`) changes the log of a run and nothing
else (`verbose_only_logs`): the run ends alike, and leaves a world with more records and with longer
files where records are added to (`LogsAt`). A machine that read such a file could tell
(`verbose_shows`), so the machine must not (`Machine.Overlooks`). The machine at hand cannot tell as
long as no log goes to a file (`Machine.standard_overlooks`).
-/

namespace ClasspathProbe

/-! ## The machine at hand -/

section

variable {P : Location → Prop} {w w' : World}

theorem Program.loadFirst_eq (htree : w'.tree = w.tree) (here : Location) (zero : Text)
    (arguments candidates : List Text) (seen : Option Refusal) :
    loadFirst w' here zero arguments candidates seen =
      loadFirst w here zero arguments candidates seen := by
  induction candidates generalizing seen with
  | nil => rfl
  | cons name rest ih =>
    rw [loadFirst, loadFirst, htree]
    cases load w.tree here mostInterpreters name zero arguments with
    | ok image => rfl
    | error why => exact ih _

/-- Commands and processes do not depend on the log unless it is in a file. -/
theorem Machine.standard_overlooks (hP : ∀ p, ¬P p) : Machine.standard.Overlooks P where
  which := by
    intro w w' h
    have htree := h.tree.same hP
    have hrunnable : Program.isRunnable w' = Program.isRunnable w := by
      funext name
      rw [Program.isRunnable, Program.isRunnable, htree, h.here]
    have habsolute : w'.absolute = w.absolute := funext (World.absolute_of_here h.here)
    funext command
    change Program.find? w' command = Program.find? w command
    rw [Program.find?, Program.find?, Program.search?, Program.search?, hrunnable, habsolute,
      World.variableText?, World.variableText?, h.environment]
  run := by
    intro w w' h
    have htree := h.tree.same hP
    funext command directory
    change Program.run w' command directory = Program.run w command directory
    simp only [Program.run, World.variableText?, htree, h.here, h.environment,
      Program.loadFirst_eq htree]

end

end ClasspathProbe

namespace ClasspathProbe.CommandLine

open ClasspathProbe.Action (exec)
open World (Quieter)

variable {α β : Type} {P : Location → Prop} {w w' : World}

/-! ## Words -/

/-- Command lines that are accepted and say the same, but that the second alone asks for details;
`common` and `common'` are what is read of them up to the command. -/
structure AddsVerbose (words words' : List Text) (common common' : Words) : Prop where
  notNone : words ≠ []
  read : commonGrammar.read words = .ok common
  readDetails : commonGrammar.read words' = .ok common'
  operands : common'.operands = common.operands
  switches : common'.switches.filter (fun s => decide (s.1 ≠ .verbose)) = common.switches
  details : common'.has .verbose = true

namespace AddsVerbose

variable {words words' : List Text} {common common' : Words}

/-- The word for details can be put in front of all others. -/
theorem cons (hne : words ≠ []) (hread : commonGrammar.read words = .ok common)
    (hquiet : common.has .verbose = false) :
    AddsVerbose words ("--verbose".toList :: words) common
      { common with switches := (.verbose, []) :: common.switches } where
  notNone := hne
  read := hread
  readDetails := by
    change commonGrammar.readAfter none words = _ at hread
    have hword : commonGrammar.readWord "--verbose".toList = .ok ([(.verbose, [])], none) := rfl
    rw [Grammar.read, Grammar.readAfter, if_neg (by decide), if_pos (by decide), hword]
    change (commonGrammar.readAfter none words >>= _) = _
    rw [hread]
    rfl
  operands := rfl
  switches := by
    rw [List.filter_cons_of_neg (by decide), List.filter_eq_self]
    intro s hs
    rw [Words.has, List.any_eq_false] at hquiet
    simpa using hquiet s hs
  details := rfl

theorem has_verbose (h : AddsVerbose words words' common common') :
    common.has .verbose = false := by
  rw [Words.has, ← h.switches, List.any_eq_false]
  intro s hs
  simpa using (List.mem_filter.1 hs).2

theorem notNoneDetails (h : AddsVerbose words words' common common') : words' ≠ [] := by
  rintro rfl
  have hnone : common' = {} := (Except.ok.inj h.readDetails).symm
  have hdetails := h.details
  rw [hnone] at hdetails
  cases hdetails

theorem value?_config (h : AddsVerbose words words' common common') :
    common'.value? .config = common.value? .config := by
  have hne : Switch.config ≠ .verbose := by decide
  rw [Words.value?, Words.value?, ← h.switches, ← List.filter_reverse,
    FileTree.lookup_filter_ne _ hne]

theorem answerQuestions_eq (h : AddsVerbose words words' common common') :
    answerQuestions common' = answerQuestions common := by
  rw [answerQuestions, answerQuestions, ← h.switches, List.find?_filter]
  congr 2
  funext s
  obtain ⟨o, value⟩ := s
  cases o <;> rfl

end AddsVerbose

/-! ## Runs -/

/-- Whether the log of a run with these settings has its file at a place. -/
def LogsAt (config : Option Text) (w : World) (place : Location) : Prop :=
  ∃ settings w₁ w₂, exec (readSettings config) w = (.ok settings, w₁) ∧
    exec (Log.setUp settings.logging none) w₁ = (.ok ⟨⟩, w₂) ∧ w₂.IsLogPlace place

/-- An outcome in a world, and the same one in a world with more logging. -/
def Louder (P : Location → Prop) (r r' : Except Failure α × World) : Prop :=
  r'.1 = r.1 ∧ Quieter P r.2 r'.2

theorem louder_stage_bind {x : Stage α} {f g : α → Stage β}
    (h : ∀ a w₁, exec x.run w = (.ok (.ok a), w₁) →
      Louder P (exec (f a).run w₁) (exec (g a).run w₁)) :
    Louder P (exec (x >>= f).run w) (exec (x >>= g).run w) := by
  generalize hx : exec x.run w = r
  obtain ⟨outcome, w₁⟩ := r
  cases outcome with
  | error e =>
    rw [exec_stage_break hx, exec_stage_break hx]
    exact ⟨rfl, .refl w₁⟩
  | ok outcome =>
    cases outcome with
    | error o =>
      rw [exec_stage_finish hx, exec_stage_finish hx]
      exact ⟨rfl, .refl w₁⟩
    | ok a =>
      rw [exec_stage_bind hx, exec_stage_bind hx]
      exact h a w₁ hx

theorem Louder.ended {r r' : Except Failure (Except Outcome Outcome) × World}
    (h : Louder P r r') : Louder P (ended r) (ended r') := by
  obtain ⟨outcome, w₁⟩ := r
  obtain ⟨outcome', w₁'⟩ := r'
  obtain ⟨hsame, hquieter⟩ := h
  obtain rfl : outcome' = outcome := hsame
  rcases outcome' with e | o | o
  · exact ⟨rfl, hquieter⟩
  · exact ⟨rfl, hquieter⟩
  · exact ⟨rfl, hquieter⟩

theorem of_exec_unlessFailed {title : Text} {x : Action α} {a : α}
    (h : exec (unlessFailed title x).run w = (.ok (.ok a), w')) : exec x w = (.ok a, w') := by
  generalize hx : exec x w = r
  obtain ⟨outcome, w₁⟩ := r
  cases outcome with
  | ok b =>
    rw [exec_unlessFailed_ok hx] at h
    obtain ⟨hvalue, rfl⟩ := Prod.mk.inj h
    rw [Except.ok.inj (Except.ok.inj hvalue)]
  | error e =>
    by_cases he : ∃ cause, e = .resolution cause
    · obtain ⟨cause, rfl⟩ := he
      rw [exec_unlessFailed_resolution hx] at h
      cases h
    · rw [exec_unlessFailed_break hx (not_exists.1 he)] at h
      cases h

theorem readSettings_level {config : Option Text} {settings : Settings}
    (hcached : ∀ s ∈ w.cached, s.logging.HasLevel)
    (h : exec (readSettings config) w = (.ok settings, w')) : settings.logging.HasLevel := by
  cases config with
  | some name => exact Settings.ofFile_level _ w settings w' h
  | none =>
    obtain ⟨seen, w₁, hget, h⟩ := Action.of_exec_bind h
    obtain ⟨hseen, rfl⟩ := Prod.mk.inj hget
    obtain rfl := Except.ok.inj hseen
    cases hc : w.cached with
    | some s =>
      rw [hc] at h
      obtain ⟨hs, -⟩ := Prod.mk.inj h
      obtain rfl := Except.ok.inj hs
      exact hcached s hc
    | none =>
      rw [hc] at h
      obtain ⟨s, w₂, hload, h⟩ := Action.of_exec_bind h
      obtain ⟨_, w₃, -, h⟩ := Action.of_exec_bind h
      obtain ⟨hs, -⟩ := Prod.mk.inj h
      obtain rfl := Except.ok.inj hs
      exact Settings.load_level w s w₂ hload

/-- Without a file in the settings a run keeps no log in one. -/
theorem not_logsAt {config : Option Text}
    (h : ∀ settings w₁, exec (readSettings config) w = (.ok settings, w₁) →
      settings.logging.file = none) (place : Location) : ¬LogsAt config w place := by
  rintro ⟨settings, w₁, w₂, hread, hlog, path, least, hsink, -⟩
  have hopen := Log.setUp_logsOpen_none (P := fun _ => False) (h settings w₁ hread) hlog
  obtain ⟨_, _, hfalse, -⟩ := hopen _ hsink
  exact hfalse

section Verbose

variable {words words' : List Text} {common common' : Words}

/-- From the set-up of the log on a run with details ends as the run without them. -/
theorem louder_setUp {m : Machine} {settings : Settings} (hm : m.Overlooks P)
    (hlevel : settings.logging.HasLevel)
    (hP : ∀ w', exec (Log.setUp settings.logging none) w = (.ok ⟨⟩, w') →
      ∀ place, w'.IsLogPlace place → P place) (command : Command) (rest : List Text) :
    Louder P
      (exec (ExceptT.lift (Log.setUp settings.logging none) >>= fun _ =>
        proceed m settings command rest).run w)
      (exec (ExceptT.lift (Log.setUp settings.logging (some "DEBUG".toList)) >>= fun _ =>
        proceed m settings command rest).run w) := by
  obtain ⟨hsame, hquieter⟩ := Log.setUp_quieter (P := P) hlevel w
  generalize hquiet : exec (Log.setUp settings.logging none) w = r at hsame hquieter
  generalize hdetails : exec (Log.setUp settings.logging (some "DEBUG".toList)) w = r'
    at hsame hquieter
  obtain ⟨outcome, w₁⟩ := r
  obtain ⟨outcome', w₁'⟩ := r'
  obtain rfl : outcome' = outcome := hsame
  cases outcome' with
  | error e =>
    rw [exec_stage_break (exec_lift_error hquiet), exec_stage_break (exec_lift_error hdetails)]
    exact ⟨rfl, hquieter⟩
  | ok done =>
    have hopen := (Log.setUp_logsOpen hquiet).mono (hP w₁ hquiet)
    obtain ⟨hends, hafter⟩ := agrees_proceed hm settings command rest w₁ w₁' ⟨hquieter, hopen⟩
    rw [exec_stage_bind (exec_lift_ok hquiet), exec_stage_bind (exec_lift_ok hdetails)]
    exact ⟨hends, hafter.toQuieter⟩

/-- **Asking for details only changes the log.** Where nothing outside reads what is logged, both
runs end alike, and the worlds after them differ only in the log and in the bytes of its file. -/
theorem verbose_only_logs (m : Machine) (h : AddsVerbose words words' common common')
    (hm : m.Overlooks (LogsAt (common.value? .config) w))
    (hcached : ∀ s ∈ w.cached, s.logging.HasLevel) :
    (exec (run m words') w).1 = (exec (run m words) w).1 ∧
      Quieter (LogsAt (common.value? .config) w) (exec (run m words) w).2
        (exec (run m words') w).2 := by
  have hchecks : checkCommon common' = checkCommon common := by
    rw [checkCommon, checkCommon, h.answerQuestions_eq, h.value?_config]
  rw [exec_run_eq, exec_run_eq, stages_eq m h.notNone h.read,
    stages_eq m h.notNoneDetails h.readDetails, hchecks]
  -- up to the set-up of the log both runs are one, and nothing is changed but by the settings
  refine Louder.ended (louder_stage_bind fun _ w₁ hcheck => ?_)
  obtain rfl := world_of_agrees (agrees_checkCommon same_of_eq common) hcheck
  rw [stagesAfter, stagesAfter, h.operands, h.value?_config, h.has_verbose, h.details]
  refine louder_stage_bind fun target w₂ hcommand => ?_
  obtain rfl := world_of_agrees (agrees_readCommand same_of_eq common.operands) hcommand
  obtain ⟨command, rest⟩ := target
  refine louder_stage_bind fun settings w₁ hload => ?_
  have hread := of_exec_unlessFailed hload
  have hlevel := readSettings_level hcached hread
  rw [if_neg Bool.false_ne_true, if_pos rfl]
  exact louder_setUp hm hlevel
    (fun w' hquiet place hplace => ⟨settings, w₁, w', hread, hquiet, hplace⟩) command rest

/-- A project whose log has a file. -/
def loggedWorld : World :=
  { jarWorld with cached := some { logging := { file := some (.ofText "/x.log".toList) } } }

def jarWords : Words := ⟨[], ["classpath".toList, "p".toList, "--json".toList]⟩

theorem addsVerbose_jarLine :
    AddsVerbose jarLine.usage ("--verbose".toList :: jarLine.usage) jarWords
      { jarWords with switches := [(.verbose, [])] } :=
  .cons (by decide) rfl rfl

theorem verbose_only_logs_jarLine :
    (LogsAt none loggedWorld ["x.log".toList] ∧ jarMachine.Overlooks (LogsAt none loggedWorld) ∧
      (exec (run jarMachine ("--verbose".toList :: jarLine.usage)) loggedWorld).1 =
        (exec (run jarMachine jarLine.usage) loggedWorld).1 ∧
      Quieter (LogsAt none loggedWorld) (exec (run jarMachine jarLine.usage) loggedWorld).2
        (exec (run jarMachine ("--verbose".toList :: jarLine.usage)) loggedWorld).2) ∧
    Machine.standard.Overlooks (LogsAt none jarWorld) ∧
      (exec (run .standard ("--verbose".toList :: jarLine.usage)) jarWorld).1 =
        (exec (run .standard jarLine.usage) jarWorld).1 ∧
      Quieter (LogsAt none jarWorld) (exec (run .standard jarLine.usage) jarWorld).2
        (exec (run .standard ("--verbose".toList :: jarLine.usage)) jarWorld).2 := by
  have hlogs : LogsAt none loggedWorld ["x.log".toList] :=
    ⟨_, _, _, rfl, rfl, _, _, List.mem_cons_of_mem _ (List.mem_singleton_self _), _, rfl, rfl⟩
  have hlevel : ∀ s ∈ loggedWorld.cached, s.logging.HasLevel := by
    rintro _ ⟨⟩
    decide
  have hdefault : ∀ s ∈ jarWorld.cached, s.logging.HasLevel := by
    rintro _ ⟨⟩
    decide
  have hconstant : jarMachine.Overlooks (LogsAt none loggedWorld) := ⟨fun _ => rfl, fun _ => rfl⟩
  have hstandard : Machine.standard.Overlooks (LogsAt none jarWorld) := by
    refine Machine.standard_overlooks (not_logsAt fun settings w₁ hread => ?_)
    obtain ⟨hsettings, -⟩ := Prod.mk.inj hread
    obtain rfl := Except.ok.inj hsettings
    rfl
  exact ⟨⟨hlogs, hconstant, verbose_only_logs jarMachine addsVerbose_jarLine hconstant hlevel⟩,
    hstandard, verbose_only_logs .standard addsVerbose_jarLine hstandard hdefault⟩

/-- A machine whose build reports a jar named for the number of lines in the log. -/
def countingMachine : Machine where
  isWindows := false
  which := fun _ _ => some (.ofText "/bin/gradle".toList)
  run := fun w _ _ =>
    let bytes := (w.tree.read [] "/x.log".toList).toOption.getD []
    let lines := (bytes.filter (· = 10)).length
    .ok ("kotlin-lsp-gradle /".toList ++ Text.ofNat lines ++ ".jar\n".toList, [])

def printedBy : Except Failure Outcome → Text
  | .ok (.done _ printed _) => printed
  | _ => []

/-- Details show in what a build reports that reads the log. -/
theorem verbose_shows :
    AddsVerbose jarLine.usage ("--verbose".toList :: jarLine.usage) jarWords
        { jarWords with switches := [(.verbose, [])] } ∧
      (∀ s ∈ loggedWorld.cached, s.logging.HasLevel) ∧
      (exec (run countingMachine ("--verbose".toList :: jarLine.usage)) loggedWorld).1 ≠
        (exec (run countingMachine jarLine.usage) loggedWorld).1 := by
  refine ⟨addsVerbose_jarLine, ?_, fun hsame => ?_⟩
  · rintro _ ⟨⟩
    decide
  · have hprinted := congrArg printedBy hsame
    revert hprinted
    decide +kernel

end Verbose

end ClasspathProbe.CommandLine
