import ClasspathProbe.Proofs.Config
import ClasspathProbe.Proofs.World.Action
import Mathlib.Data.List.Induction

/-!
# A store over time

A store is loaded and asked for sections, in any order, while the world around it changes
(`Config.Event`). It always answers from the mapping of the last loading that read a file and
succeeded, and a loading without a file, or one that fails, is as if it had not been
(`Config.answers_from_lastRead`): what can fail comes before the store is changed
(`use_reload_some`), and reading changes nothing in the world (`exec_readFile_world`).
-/

namespace ClasspathProbe.Config

open ClasspathProbe.Action (exec exec_bind exec_bind_ok exec_bind_error)

variable {c : Config} {w : World} {p : Path} {path own : Option Path} {name : Text}
  {pairs : List (Value × Value)}

/-! ## Reading leaves the world -/

theorem exec_bind_world {α β : Type} {x : Action α} {f : α → Action β}
    (hx : ∀ w, (exec x w).2 = w) (hf : ∀ a w, (exec (f a) w).2 = w) (w : World) :
    (exec (x >>= f) w).2 = w := by
  have h := hx w
  rw [exec_bind]
  generalize exec x w = r at h
  obtain ⟨outcome, w'⟩ := r
  obtain rfl : w' = w := h
  cases outcome with
  | ok a => exact hf a w'
  | error e => rfl

theorem exec_recover_world {α : Type} {x : Action α} {handle : Failure → Action α}
    (hx : ∀ w, (exec x w).2 = w) (hhandle : ∀ e w, (exec (handle e) w).2 = w) (w : World) :
    (exec (Action.recover x handle) w).2 = w := by
  have h := hx w
  rw [Action.exec_recover]
  generalize exec x w = r at h
  obtain ⟨outcome, w'⟩ := r
  obtain rfl : w' = w := h
  cases outcome with
  | ok a => rfl
  | error e => exact hhandle e w'

theorem exec_ask_world {α : Type} (question : FileTree → Location → Text → Except Refusal α)
    (name : Text) (w : World) : (exec (Action.ask question name) w).2 = w := by
  rw [Action.exec_ask]
  split
  · rfl
  · cases question w.tree w.here name <;> rfl

theorem exec_readText_world (p : Path) : ∀ w, (exec (readText p) w).2 = w := by
  refine exec_bind_world (exec_recover_world (exec_ask_world _ _) fun _ _ => rfl) fun bytes w => ?_
  cases Utf8.decodeStrict bytes <;> rfl

theorem exec_readFile_world (p : Path) : ∀ w, (exec (readFile p) w).2 = w := by
  refine exec_bind_world (exec_readText_world p) fun text w => ?_
  cases parse p text <;> rfl

/-! ## Loading with the store at hand -/

/-- The outcome of an action with a store, and the store and the world after it. -/
def use {α : Type} (x : Use α) (s : Config × World) : Except Failure α × Config × World :=
  Id.run (StateT.run (ExceptT.run x) s)

theorem use_bind {α β : Type} (x : Use α) (f : α → Use β) (s : Config × World) :
    use (x >>= f) s =
      match use x s with
      | (.ok a, s') => use (f a) s'
      | (.error e, s') => (.error e, s') := by
  unfold use ExceptT.run StateT.run Id.run
  simp only [bind, ExceptT.bind, ExceptT.mk, StateT.bind, ExceptT.bindCont]
  cases x s with
  | mk outcome s' => cases outcome <;> rfl

theorem use_get (s : Config × World) : use get s = (.ok s, s) := rfl

theorem use_ofAction {α : Type} (x : Action α) (c : Config) (w : World) :
    use (Use.ofAction x) (c, w) = ((exec x w).1, c, (exec x w).2) := by
  rw [show exec x w = Id.run (StateT.run (ExceptT.run x) w) from rfl, Use.ofAction, use_bind,
    use_get]
  dsimp only
  generalize Id.run (StateT.run (ExceptT.run x) w) = r
  obtain ⟨outcome, w'⟩ := r
  cases outcome <;> rfl

theorem use_reload_none (h : path.or c.path = none) :
    use (reload path) (c, w) = (.ok [], c, w) := by
  rw [reload, use_bind, use_get]
  dsimp only
  rw [h]
  rfl

/-- The store is changed after all that can fail. -/
theorem use_reload_some (h : path.or c.path = some p) :
    use (reload path) (c, w) =
      match (exec (readFile p) w).1 with
      | .ok ps => (.ok ps, { c with mapping := ps }, w)
      | .error e => (.error e, c, w) := by
  rw [reload, use_bind, use_get]
  dsimp only
  rw [h]
  dsimp only
  rw [use_bind, use_ofAction, exec_readFile_world p w]
  cases (exec (readFile p) w).1 <;> rfl

theorem exec_load_eq_use (c : Config) (path : Option Path) (w : World) :
    exec (c.load path) w =
      match use (reload path) (c, w) with
      | (.ok ps, c', w') => (.ok (c', ps), w')
      | (.error e, _, w') => (.error e, w') := by
  rw [load]
  cases hpath : path.or c.path with
  | none => rw [use_reload_none hpath]; rfl
  | some p =>
    rw [use_reload_some hpath]
    have hworld := exec_readFile_world p w
    generalize hread : exec (readFile p) w = r at hworld
    obtain ⟨outcome, w'⟩ := r
    obtain rfl : w' = w := hworld
    cases outcome with
    | ok ps => exact exec_bind_ok hread _
    | error e => exact exec_bind_error hread _

/-! ## Events and their answers -/

/-- What happens around a store: it is loaded, it is asked for a section, or the world becomes
another one. -/
inductive Event where
  | load (path : Option Path)
  | ask (name : Text)
  | change (w : World)

/-- What an event is answered with. -/
inductive Answer where
  | loaded (outcome : Except Failure (List (Value × Value)))
  | asked (pairs : List (Value × Value))
  | nothing

def answer (s : Config × World) : Event → Answer
  | .load path => .loaded (use (reload path) s).1
  | .ask name => .asked (s.1.sectionOf name)
  | .change _ => .nothing

def next (s : Config × World) : Event → Config × World
  | .load path => (use (reload path) s).2
  | .ask _ => s
  | .change w => (s.1, w)

def after (s : Config × World) (events : List Event) : Config × World := events.foldl next s

/-- Events with what each of them is answered with. -/
def course (s : Config × World) : List Event → List (Event × Answer)
  | [] => []
  | e :: events => (e, answer s e) :: course (next s e) events

theorem course_append (s : Config × World) (events more : List Event) :
    course s (events ++ more) = course s events ++ course (after s events) more := by
  induction events generalizing s with
  | nil => rfl
  | cons e events ih =>
    rw [List.cons_append, course, ih, course, List.cons_append]
    rfl

/-- The mapping of an answered event that read a file, if it is such an event of a store with a
file of its own or none. -/
def read? (own : Option Path) : Event × Answer → Option (List (Value × Value))
  | (.load path, .loaded (.ok ps)) => if (path.or own).isSome then some ps else none
  | _ => none

/-- The mapping that was read last, or the empty one. -/
def lastRead (own : Option Path) (answered : List (Event × Answer)) : List (Value × Value) :=
  ((answered.filterMap (read? own)).getLast?).getD []

/-! ## One event -/

variable {s : Config × World}

theorem next_path (s : Config × World) (e : Event) : (next s e).1.path = s.1.path := by
  obtain ⟨c, w⟩ := s
  cases e with
  | load path =>
    cases hpath : path.or c.path with
    | none => rw [next, use_reload_none hpath]
    | some p =>
      rw [next, use_reload_some hpath]
      cases (exec (readFile p) w).1 <;> rfl
  | ask name => rfl
  | change w => rfl

theorem answer_load (h : path.or s.1.path = some p) :
    answer s (.load path) = .loaded (exec (readFile p) s.2).1 := by
  rw [answer, use_reload_some h]
  cases (exec (readFile p) s.2).1 <;> rfl

theorem next_load_world (s : Config × World) (path : Option Path) :
    (next s (.load path)).2 = s.2 := by
  cases hpath : path.or s.1.path with
  | none => rw [next, use_reload_none hpath]
  | some p =>
    rw [next, use_reload_some hpath]
    cases (exec (readFile p) s.2).1 <;> rfl

/-- A loading among other events is a loading of the store there. -/
theorem answer_load_eq (s : Config × World) (path : Option Path) :
    ∃ outcome, answer s (.load path) = .loaded outcome ∧
      exec (s.1.load path) s.2 = (outcome.map fun ps => ((next s (.load path)).1, ps), s.2) := by
  have hworld := next_load_world s path
  rw [next] at hworld
  refine ⟨_, rfl, ?_⟩
  rw [exec_load_eq_use, next]
  generalize use (reload path) (s.1, s.2) = r at hworld
  obtain ⟨outcome, c, w⟩ := r
  obtain rfl : w = s.2 := hworld
  cases outcome <;> rfl

theorem next_load_none (h : path.or s.1.path = none) : next s (.load path) = s := by
  rw [next, use_reload_none h]

theorem next_load_error {e : Failure} (h : answer s (.load path) = .loaded (.error e)) :
    next s (.load path) = s := by
  obtain ⟨c, w⟩ := s
  cases hpath : path.or c.path with
  | none => exact next_load_none hpath
  | some p =>
    rw [answer, use_reload_some hpath] at h
    rw [next, use_reload_some hpath]
    cases hread : (exec (readFile p) w).1 with
    | ok ps =>
      rw [hread] at h
      cases h
    | error e => rfl

/-- One event leaves the mapping that was read last: its own, if it read one. -/
theorem next_mapping (s : Config × World) (e : Event) :
    (next s e).1.mapping = (read? s.1.path (e, answer s e)).getD s.1.mapping := by
  obtain ⟨c, w⟩ := s
  cases e with
  | load path =>
    cases hpath : path.or c.path with
    | none =>
      rw [next, answer, use_reload_none hpath, read?, hpath]
      rfl
    | some p =>
      rw [next, answer, use_reload_some hpath]
      cases (exec (readFile p) w).1 with
      | ok ps =>
        rw [read?, hpath]
        rfl
      | error e => rfl
  | ask name => rfl
  | change w => rfl

/-! ## A course of events -/

theorem after_path (s : Config × World) (events : List Event) :
    (after s events).1.path = s.1.path := by
  induction events generalizing s with
  | nil => rfl
  | cons e events ih =>
    rw [after, List.foldl_cons, ← after, ih, next_path]

theorem lastRead_append_singleton (own : Option Path) (answered : List (Event × Answer))
    (x : Event × Answer) :
    lastRead own (answered ++ [x]) = (read? own x).getD (lastRead own answered) := by
  rw [lastRead, List.filterMap_append, List.getLast?_append]
  cases hread : read? own x <;> simp [hread, lastRead]

/-- A new store holds the mapping that was read last. -/
theorem after_mapping (own : Option Path) (w : World) (events : List Event) :
    (after (⟨own, []⟩, w) events).1.mapping = lastRead own (course (⟨own, []⟩, w) events) := by
  induction events using List.reverseRecOn with
  | nil => rfl
  | append_singleton events e ih =>
    have hnext := next_mapping (after (⟨own, []⟩, w) events) e
    rw [ih, after_path] at hnext
    rw [course_append, course, course, lastRead_append_singleton, ← hnext, after, List.foldl_append,
      List.foldl_cons, List.foldl_nil, after]

/-- **A store answers from the mapping that was read last.** A loading is what it is of the store at
that moment; one that fails and one without a file are as if they had not been: whatever happens
later is answered alike. -/
theorem answers_from_lastRead (own : Option Path) (w : World) (before later : List Event) :
    let s := (⟨own, []⟩, w)
    (∀ name, ∃ qs, IsSection name (lastRead own (course s before)) qs ∧
      course s (before ++ .ask name :: later) =
        course s before ++ (.ask name, .asked qs) :: course (after s before) later) ∧
    (∀ path, ∃ outcome, answer (after s before) (.load path) = .loaded outcome ∧
      exec ((after s before).1.load path) (after s before).2 =
        (outcome.map fun ps => ((next (after s before) (.load path)).1, ps),
          (after s before).2)) ∧
    ∀ path, (path.or own = none ∨
        ∃ e, answer (after s before) (.load path) = .loaded (.error e)) →
      ∃ a rest, course s (before ++ .load path :: later) =
          course s before ++ (.load path, a) :: rest ∧
        course s (before ++ later) = course s before ++ rest := by
  intro s
  refine ⟨?_, answer_load_eq (after s before), ?_⟩
  · intro name
    have hsection := isSection_sectionOf (after s before).1 name
    rw [after_mapping] at hsection
    refine ⟨_, hsection, ?_⟩
    rw [course_append, course]
    rfl
  · intro path hpath
    have hnext : next (after s before) (.load path) = after s before := by
      rcases hpath with hnone | ⟨e, herror⟩
      · refine next_load_none ?_
        rw [after_path]
        exact hnone
      · exact next_load_error herror
    refine ⟨answer (after s before) (.load path), course (after s before) later, ?_, ?_⟩
    · rw [course_append, course, hnext]
    · rw [course_append]

/-- A working directory with one configuration file. -/
def storedWorld : World where
  tree := ⟨[(["c.yaml".toList], .file ⟨Utf8.encode "a:\n  b: c\n".toList, false, 0⟩)]⟩
  here := []
  tempDirectory := "/t".toList
  environment := []

theorem answers_from_lastRead_missing :
    let s := (⟨some (.ofText "c.yaml".toList), []⟩, storedWorld)
    let missing : Event := .load (some (.ofText "d.yaml".toList))
    (∃ e, answer (after s [.load none]) missing = .loaded (.error e)) ∧
      ∃ a rest, course s ([.load none] ++ missing :: [.ask "a".toList]) =
          course s [.load none] ++ (missing, a) :: rest ∧
        course s ([.load none] ++ [.ask "a".toList]) = course s [.load none] ++ rest := by
  intro s missing
  have hanswer : ∀ s, answer (after s [.load none]) missing =
      .loaded (exec (readFile (.ofText "d.yaml".toList)) s.2).1 := by
    intro s
    have hworld : (after s [.load none]).2 = s.2 := next_load_world s none
    rw [← hworld]
    exact answer_load (Option.some_or ..)
  have hfails : ∃ e, answer (after s [.load none]) missing = .loaded (.error e) := by
    have hread : ∃ e, (exec (readFile (.ofText "d.yaml".toList)) storedWorld).1 = .error e :=
      ⟨_, rfl⟩
    obtain ⟨e, he⟩ := hread
    exact ⟨e, by rw [hanswer, he]⟩
  exact ⟨hfails, (answers_from_lastRead _ storedWorld _ _).2.2 _ (.inr hfails)⟩

end ClasspathProbe.Config
