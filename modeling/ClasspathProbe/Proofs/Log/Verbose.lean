import ClasspathProbe.Proofs.Log.Setup
import ClasspathProbe.Proofs.Settings.Level
import ClasspathProbe.Proofs.World.Agreement

/-!
# Setting up the log for details

Opening a file for records neither looks at the log nor changes it (`agrees_openFile`). So a set-up
for details in place of the level of the settings ends as the one without it, and only lets more
records through (`setUp_quieter`). After a set-up the file for records is there (`setUp_logsOpen`).
-/

namespace ClasspathProbe

open ClasspathProbe.Action (Agrees exec)
open World (Quieter)

/-- The same world with one log and with another. -/
def World.Apart (log log' : Log.State) (w w' : World) : Prop :=
  w.log = log ∧ w' = { w with log := log' }

namespace Log

variable {log log' : State} {settings : LoggingSettings} {w w' : World}

/-! ## Opening the file -/

theorem agrees_change (request : FileTree → Location → Text → Except Refusal FileTree)
    (name : Text) : Agrees (World.Apart log log') (Action.change request name) := by
  rintro w w' ⟨rfl, rfl⟩
  rw [Action.exec_change, Action.exec_change]
  by_cases hnul : name.contains '\x00' = true
  · rw [if_pos hnul, if_pos hnul]
    exact ⟨rfl, rfl, rfl⟩
  · rw [if_neg hnul, if_neg hnul]
    dsimp only
    cases request w.tree w.here name with
    | ok tree => exact ⟨rfl, rfl, rfl⟩
    | error why => exact ⟨rfl, rfl, rfl⟩

theorem agrees_settle (p : Path) (e : Failure) :
    Agrees (World.Apart log log') (settle p e) := by
  have htest : Agrees (World.Apart log log') (Action.isDirectory p) := by
    refine .test ?_
    rintro w w' ⟨-, rfl⟩
    rfl
  rw [settle.eq_def]
  split
  · refine .bind htest fun there => ?_
    cases there with
    | true => exact .pure _
    | false => exact .throw _
  · exact .throw _

theorem agrees_makeDirectories (depth : Nat) (p : Path) :
    Agrees (World.Apart log log') (makeDirectories depth p) := by
  induction depth generalizing p with
  | zero =>
    refine .recover (agrees_change _ _) fun e => ?_
    split
    · exact .throw _
    · exact agrees_settle p _
  | succ depth ih =>
    have hlast : Agrees (World.Apart log log')
        (Action.recover (Action.change FileTree.makeDirectory p.toText) (settle p)) :=
      .recover (agrees_change _ _) (agrees_settle p)
    refine .recover (agrees_change _ _) fun e => ?_
    split
    · split
      · exact .bind (.throw _) fun _ => .bind (ih _) fun _ => hlast
      · exact .bind (ih _) fun _ => hlast
    · exact agrees_settle p _

theorem agrees_openFile (file : Path) : Agrees (World.Apart log log') (openFile file) := by
  rw [openFile]
  refine .bind (agrees_makeDirectories _ _) fun _ => ?_
  refine .bind_reads ?_ fun w => ?_
  · rintro w w' ⟨-, rfl⟩
    exact ⟨_, _, rfl, rfl, rfl⟩
  · exact .bind (agrees_change _ _) fun _ => .pure _

theorem log_openFile (file : Path) (w : World) : (exec (openFile file) w).2.log = w.log :=
  (agrees_openFile file w w ⟨rfl, rfl⟩).2.1

/-- The name that a file was opened by leads to it. -/
theorem locate_of_openFile {file : Path} {name : Text}
    (h : exec (openFile file) w = (.ok name, w')) :
    ∃ place f, w'.tree.locate w'.here .output name = .ok (.found place (.file f)) := by
  obtain ⟨_, w₁, -, h⟩ := Action.of_exec_bind h
  obtain ⟨_, w₂, hget, h⟩ := Action.of_exec_bind h
  obtain ⟨_, rfl⟩ := Prod.mk.inj hget
  obtain ⟨_, w₃, hchange, h⟩ := Action.of_exec_bind h
  obtain ⟨hname, rfl⟩ := Prod.mk.inj h
  obtain rfl := Except.ok.inj hname
  rw [Action.exec_change] at hchange
  split at hchange
  · cases hchange
  · split at hchange
    next tree happend =>
      obtain ⟨-, rfl⟩ := Prod.mk.inj hchange
      exact FileTree.locate_of_append happend
    next => cases hchange

/-! ## Setting up -/

theorem consoleSink_isOpen {P : Location → Prop} {sink : Sink}
    (h : consoleSink settings = .ok sink) (w : World) : w.IsOpen P sink := by
  rw [consoleSink] at h
  cases hrich : settings.useRich with
  | true =>
    rw [hrich] at h
    obtain rfl := Except.ok.inj h
    trivial
  | false =>
    rw [hrich] at h
    cases hlayout : Layout.check settings.format with
    | error e =>
      rw [hlayout] at h
      cases h
    | ok layout =>
      rw [hlayout] at h
      obtain rfl := Except.ok.inj h
      trivial

/-- Settings that name no file open none. -/
theorem setUp_logsOpen_none {P : Location → Prop} {override : Option Text}
    (hfile : settings.file = none) (h : exec (setUp settings override) w = (.ok ⟨⟩, w')) :
    w'.LogsOpen P := by
  obtain ⟨level, sink, -, hconsole, h⟩ := of_exec_setUp h
  rw [exec_addFile_none hfile] at h
  obtain ⟨-, rfl⟩ := Prod.mk.inj h
  intro s hs
  obtain rfl := List.mem_singleton.1 hs
  exact consoleSink_isOpen hconsole _

/-- The file that settings name is there, where records are added to it. -/
theorem setUp_logsOpen {override : Option Text}
    (h : exec (setUp settings override) w = (.ok ⟨⟩, w')) : w'.LogsOpen w'.IsLogPlace := by
  cases hfile : settings.file with
  | none => exact setUp_logsOpen_none hfile h
  | some file =>
    obtain ⟨level, sink, -, hconsole, h⟩ := of_exec_setUp h
    rw [exec_addFile_some hfile] at h
    have hsinks := congrArg State.sinks (log_openFile file (refitted w level [sink]))
    generalize hopen : exec (openFile file) (refitted w level [sink]) = r at h hsinks
    obtain ⟨outcome, w₁⟩ := r
    cases outcome with
    | error e => cases h
    | ok name =>
      obtain ⟨-, rfl⟩ := Prod.mk.inj h
      obtain ⟨place, f, hloc⟩ := locate_of_openFile hopen
      intro s hs
      obtain hs | hs := List.mem_append.1 hs
      · rw [hsinks] at hs
        obtain rfl := List.mem_singleton.1 hs
        exact consoleSink_isOpen hconsole _
      · obtain rfl := List.mem_singleton.1 hs
        have hmem : Sink.file name level ∈ w₁.log.sinks ++ [.file name level] :=
          List.mem_append_right _ (List.mem_singleton_self _)
        exact ⟨place, f, ⟨name, level, hmem, _, hloc, rfl⟩, hloc⟩

/-- One world with a log and with one that lets more through. -/
theorem refitted_quieter {P : Location → Prop} (w : World) {level level' : Level}
    (h : level' ≤ level) {sinks sinks' : List Sink}
    (hsinks : List.Forall₂ Sink.Quieter sinks sinks') :
    Quieter P (refitted w level sinks) (refitted w level' sinks') :=
  { Quieter.refl w with threshold := h, sinks := hsinks }

/-- The same file is opened for records of two levels. -/
theorem addFile_quieter {P : Location → Prop} (w : World) {level level' : Level}
    (h : level' ≤ level) (sinks : List Sink) :
    (exec (addFile settings level') (refitted w level' sinks)).1 =
        (exec (addFile settings level) (refitted w level sinks)).1 ∧
      Quieter P (exec (addFile settings level) (refitted w level sinks)).2
        (exec (addFile settings level') (refitted w level' sinks)).2 := by
  have hrefl : List.Forall₂ Sink.Quieter sinks sinks :=
    List.forall₂_same.2 fun sink _ => .refl sink
  cases hfile : settings.file with
  | none =>
    rw [exec_addFile_none hfile, exec_addFile_none hfile]
    exact ⟨rfl, refitted_quieter w h hrefl⟩
  | some file =>
    have hapart : World.Apart (refitted w level sinks).log (refitted w level' sinks).log
        (refitted w level sinks) (refitted w level' sinks) := ⟨rfl, rfl⟩
    obtain ⟨hsame, hlog, hafter⟩ := agrees_openFile file _ _ hapart
    rw [exec_addFile_some hfile, exec_addFile_some hfile]
    generalize exec (openFile file) (refitted w level sinks) = r at hsame hlog hafter
    generalize exec (openFile file) (refitted w level' sinks) = r' at hsame hafter
    obtain ⟨outcome, w₁⟩ := r
    obtain ⟨outcome', w₁'⟩ := r'
    obtain rfl : outcome' = outcome := hsame
    obtain rfl : w₁' = _ := hafter
    -- nothing is left of the log of `w` but what the set-up made of it
    have hw₁ : w₁ = { w₁ with log := (refitted w level sinks).log } := by
      rw [← show w₁.log = (refitted w level sinks).log from hlog]
    rw [hw₁]
    cases outcome' with
    | error e => exact ⟨rfl, refitted_quieter { w₁ with log := w.log } h hrefl⟩
    | ok name =>
      have hsinks := List.rel_append hrefl (.cons (.file name h) .nil)
      exact ⟨rfl, refitted_quieter { w₁ with log := w.log } h hsinks⟩

/-- A set-up for details ends as one without, and lets more through. -/
theorem setUp_quieter {P : Location → Prop} (h : settings.HasLevel) (w : World) :
    (exec (setUp settings (some "DEBUG".toList)) w).1 = (exec (setUp settings none) w).1 ∧
      Quieter P (exec (setUp settings none) w).2
        (exec (setUp settings (some "DEBUG".toList)) w).2 := by
  obtain ⟨level, hlevel, hle⟩ := readLevel_of_mem h
  have hread : readLevel (chosenLevel settings none) = .ok level := hlevel
  have hdebug : readLevel (chosenLevel settings (some "DEBUG".toList)) = .ok debug := rfl
  rw [exec_setUp hread, exec_setUp hdebug]
  cases consoleSink settings with
  | error e => exact ⟨rfl, refitted_quieter w hle .nil⟩
  | ok sink => exact addFile_quieter w hle [sink]

end Log

end ClasspathProbe
