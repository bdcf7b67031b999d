import ClasspathProbe.Proofs.CommandLine.Run
import ClasspathProbe.Proofs.Resolver.Parallel

/-!
# Stages in related worlds

The stages of a run agree over a relation as actions do. In front of the set-up of the log they only
look (`agrees_checkCommon`, `agrees_readCommand`); behind it they end alike with more logging
(`agrees_proceed`).
-/

namespace ClasspathProbe.CommandLine

open ClasspathProbe.Action (Agrees Gives exec)
open World (Parallel)

variable {α β : Type} {R : World → World → Prop} {P : Location → Prop} {w w' : World}

/-! ## Stages that agree -/

section Stages

variable {x : Stage α}

theorem agrees_finish (o : Outcome) : Agrees R (finish o : Stage α).run :=
  Agrees.pure (Except.error o)

theorem agrees_give (a : α) : Agrees R (pure a : Stage α).run := Agrees.pure (Except.ok a)

theorem agrees_stage_bind {f : α → Stage β} (hx : Agrees R x.run)
    (hf : ∀ a, Agrees R (f a).run) : Agrees R (x >>= f).run := by
  refine Agrees.bind hx fun outcome => ?_
  cases outcome with
  | ok a => exact hf a
  | error o => exact agrees_finish o

theorem agrees_lift {x : Action α} (hx : Agrees R x) : Agrees R (ExceptT.lift x : Stage α).run :=
  .map Except.ok hx

theorem agrees_unlessFailed {x : Action α} (title : Text) (hx : Agrees R x) :
    Agrees R (unlessFailed title x).run := by
  have hcaught : Agrees R (caught x) := by
    refine .recover (.map _ hx) fun e => ?_
    cases e with
    | resolution e => exact .pure _
    | _ => exact .throw _
  refine agrees_stage_bind (agrees_lift hcaught) fun outcome => ?_
  cases outcome with
  | ok a => exact agrees_give a
  | error e => exact agrees_finish _

theorem agrees_unlessMisused (read : Except UsageError α) :
    Agrees R (unlessMisused read).run := by
  cases read with
  | ok a => exact agrees_give a
  | error e => exact agrees_finish _

theorem agrees_answerQuestions (words : Words) : Agrees R (answerQuestions words).run := by
  rw [answerQuestions]
  split
  · exact agrees_finish _
  · exact agrees_finish _
  · exact agrees_give _

end Stages

/-! ## Parts of a run -/

/-- What is left of a run once the log is set up. -/
def proceed (m : Machine) (settings : Settings) (command : Command) (rest : List Text) :
    Stage Outcome := do
  let (path, json) ← readTarget command rest
  let r ← resolverFor m settings path
  perform r json command

/-- The stages of a run behind the checks of the common options. -/
def stagesAfter (m : Machine) (common : Words) : Stage Outcome := do
  let (command, rest) ← readCommand common.operands
  let settings ← unlessFailed "Configuration Error" (readSettings (common.value? .config))
  ExceptT.lift <|
    Log.setUp settings.logging (if common.has .verbose then some "DEBUG".toList else none)
  proceed m settings command rest

theorem stages_eq (m : Machine) {words : List Text} {common : Words} (hne : words ≠ [])
    (hread : commonGrammar.read words = .ok common) :
    stages m words = (do checkCommon common; stagesAfter m common) := by
  rw [stages, readCommon_eq hne hread, bind_assoc]
  refine bind_congr fun _ => ?_
  rw [pure_bind]
  rfl

/-! ## Stages that only look -/

section Looking

variable (hR : ∀ w w', R w w' → w'.tree = w.tree ∧ w'.here = w.here)

include hR

theorem agrees_nodeAt? (name : Text) : Agrees R (nodeAt? name) := by
  refine .recover (.bind (.ask fun w w' h => ?_) fun found => .pure _) fun e => ?_
  · obtain ⟨htree, hhere⟩ := hR w w' h
    rw [htree, hhere]
  · cases e with
    | system e => exact .pure none
    | _ => exact .throw _

theorem agrees_checkCommon (common : Words) : Agrees R (checkCommon common).run := by
  refine agrees_stage_bind (agrees_answerQuestions common) fun _ => ?_
  cases common.value? .config with
  | none => exact agrees_give _
  | some name =>
    refine agrees_stage_bind (agrees_lift (agrees_nodeAt? hR name)) fun found => ?_
    cases found with
    | none => exact agrees_finish _
    | some node =>
      cases node with
      | directory time => exact agrees_finish _
      | _ => exact agrees_give _

theorem agrees_readCommon (words : List Text) : Agrees R (readCommon words).run := by
  by_cases hne : words = []
  · subst hne
    exact agrees_finish _
  · cases hread : commonGrammar.read words with
    | ok common =>
      rw [readCommon_eq hne hread]
      exact agrees_stage_bind (agrees_checkCommon hR common) fun _ => agrees_give common
    | error e =>
      have hwords : words.isEmpty = false := by simpa using hne
      rw [readCommon, hwords, if_neg Bool.false_ne_true, hread]
      exact agrees_finish _

theorem agrees_readCommand (operands : List Text) : Agrees R (readCommand operands).run := by
  cases operands with
  | nil => exact agrees_finish _
  | cons name words =>
    rw [readCommand]
    dsimp only
    split
    · exact agrees_give _
    · split
      · exact agrees_stage_bind (agrees_readCommon hR _) fun _ => agrees_finish _
      · exact agrees_finish _

end Looking

/-- An action that agrees over one world alone leaves it as it is. -/
theorem world_of_agrees {x : Action α} {outcome : Except Failure α}
    (hx : Agrees (fun a b => a = w ∧ b = w) x) (h : exec x w = (outcome, w')) : w' = w := by
  obtain ⟨-, hsame, -⟩ := hx w w ⟨rfl, rfl⟩
  rwa [h] at hsame

theorem same_of_eq (a b : World) (h : a = w ∧ b = w) : b.tree = a.tree ∧ b.here = a.here := by
  obtain ⟨rfl, rfl⟩ := h
  exact ⟨rfl, rfl⟩

/-! ## From the words for the command on -/

theorem exec_nodeAt?_eq (name : Text) (w : World) :
    exec (nodeAt? name) w =
      (if name.contains '\x00' then .error .embeddedNul
        else .ok ((w.tree.look w.here name).toOption.map Prod.snd), w) := by
  have hask := Action.exec_ask FileTree.look name w
  rw [nodeAt?, Action.exec_recover, Action.exec_bind, hask]
  by_cases hnul : name.contains '\x00' = true
  · rw [if_pos hnul, if_pos hnul]
    rfl
  · rw [if_neg hnul, if_neg hnul]
    cases w.tree.look w.here name with
    | ok found => rfl
    | error why => rfl

theorem isNone_toOption {a b : Except Refusal (Location × Node)}
    (h : (b.map fun _ => ()) = a.map fun _ => ()) :
    (b.toOption.map Prod.snd).isNone = (a.toOption.map Prod.snd).isNone := by
  cases a with
  | ok found =>
    cases b with
    | ok found' => rfl
    | error why => cases h
  | error why =>
    cases b with
    | ok found' => cases h
    | error why' => rfl

/-- With longer files a name leads somewhere as before, to what may be another file. -/
theorem agrees_nodeAt?_bind {f : Option Node → Stage α} (name : Text)
    (hf : ∀ found found', found'.isNone = found.isNone → f found' = f found)
    (hfollow : ∀ found, Agrees (Parallel P) (f found).run) :
    Agrees (Parallel P) (ExceptT.lift (nodeAt? name) >>= f).run := by
  refine Agrees.bind_reads (x := Except.ok <$> nodeAt? name) ?_ fun outcome => ?_
  · intro w w' h
    rw [Action.exec_map, Action.exec_map, exec_nodeAt?_eq, exec_nodeAt?_eq]
    refine ⟨_, _, rfl, rfl, ?_⟩
    by_cases hnul : name.contains '\x00' = true
    · rw [if_pos hnul, if_pos hnul]
    · have hlook := h.tree.look_map (fun _ => ()) (fun _ _ _ _ => rfl) w.here name
      rw [if_neg hnul, if_neg hnul, h.here]
      exact congrArg (fun stage : Stage α => Except.ok stage.run) (hf _ _ (isNone_toOption hlook))
  · cases outcome with
    | ok found => exact hfollow found
    | error o => exact agrees_finish o

theorem agrees_readTarget (command : Command) (words : List Text) :
    Agrees (Parallel P) (readTarget command words).run := by
  rw [readTarget]
  refine agrees_stage_bind (agrees_unlessMisused _) fun target => ?_
  refine agrees_stage_bind (agrees_answerQuestions target) fun _ => ?_
  cases target.operands with
  | nil => exact agrees_finish _
  | cons path more =>
    have hlast : Agrees (Parallel P) (do
        if !more.isEmpty then finish (.misused (.unexpected more))
        return (path, target.has .json) : Stage (Text × Bool)).run := by
      split
      · exact agrees_stage_bind (agrees_finish _) fun _ => agrees_give _
      · exact agrees_give _
    refine agrees_nodeAt?_bind path (fun found found' hsame => by rw [hsame]) fun found => ?_
    cases found with
    | none => exact agrees_stage_bind (agrees_finish _) fun _ => hlast
    | some node => exact hlast

theorem agrees_firstIn? (directory : Path) (names : List Text) :
    Agrees (Parallel P) (BuildFile.firstIn? directory names) := by
  induction names with
  | nil => exact .pure none
  | cons name names ih =>
    refine .bind (Parallel.agrees_isThere _) fun there => ?_
    cases there with
    | true => exact .pure _
    | false => exact ih

theorem agrees_find (path : Path) : Agrees (Parallel P) (BuildFile.find path) := by
  refine .bind (Parallel.agrees_isDirectory path) fun isDirectory => ?_
  cases isDirectory with
  | false => exact .pure path
  | true =>
    refine .bind (agrees_firstIn? path _) fun found => ?_
    cases found with
    | some file => exact .pure file
    | none => exact .pure path

theorem agrees_resolverFor (m : Machine) (settings : Settings) (path : Text) :
    Agrees (Parallel P) (resolverFor m settings path).run := by
  have hview : Agrees (Parallel P) (Action.view fun w => w.absolute (.ofText path)) :=
    .view fun w w' h => World.absolute_of_here h.here _
  refine agrees_stage_bind (agrees_lift hview) fun absolute => ?_
  refine agrees_stage_bind (agrees_lift (agrees_find absolute)) fun file => ?_
  split
  · exact agrees_give _
  · exact agrees_finish _

theorem agrees_perform {r : Resolver} (hm : r.machine.Overlooks P) (json : Bool)
    (command : Command) : Agrees (Parallel P) (perform r json command).run := by
  cases command with
  | classpath =>
    have hartifacts := r.agrees_classpath hm
    exact agrees_stage_bind (agrees_unlessFailed _ hartifacts) fun artifacts => agrees_give _
  | buildScript =>
    have hjars := r.agrees_buildScriptClasspath hm
    exact agrees_stage_bind (agrees_unlessFailed _ hjars) fun jars => agrees_give _
  | version =>
    exact agrees_stage_bind (agrees_lift r.agrees_version) fun version => agrees_give _

theorem gives_stage_bind {Q : Except Outcome β → Prop} {x : Stage α} {f : α → Stage β}
    (hstop : ∀ o, Q (.error o)) (hf : ∀ a, Gives Q (f a).run) : Gives Q (x >>= f).run := by
  refine Gives.bind_any fun outcome => ?_
  cases outcome with
  | ok a => exact hf a
  | error o => exact .pure (hstop o)

theorem resolverFor_machine (m : Machine) (settings : Settings) (path : Text) :
    Gives (fun outcome => ∀ r, outcome = .ok r → r.machine = m)
      (resolverFor m settings path).run := by
  refine gives_stage_bind (by nofun) fun absolute => gives_stage_bind (by nofun) fun file => ?_
  split
  next r hr =>
    refine .pure (a := Except.ok r) ?_
    rintro _ ⟨⟩
    exact Resolver.machine_of_of? hr
  next => exact .pure (by nofun)

theorem agrees_proceed {m : Machine} (hm : m.Overlooks P) (settings : Settings) (command : Command)
    (rest : List Text) : Agrees (Parallel P) (proceed m settings command rest).run := by
  refine agrees_stage_bind (agrees_readTarget command rest) fun target => ?_
  obtain ⟨path, json⟩ := target
  refine Agrees.bind_gives (agrees_resolverFor m settings path)
    (resolverFor_machine m settings path) fun outcome hmachine => ?_
  cases outcome with
  | ok r =>
    have hr : r.machine.Overlooks P := (hmachine r rfl).symm ▸ hm
    exact agrees_perform hr json command
  | error o => exact agrees_finish o

end ClasspathProbe.CommandLine
