import ClasspathProbe.Proofs.Log.Setup
import ClasspathProbe.Proofs.World.Quieter

/-!
# Records in a log that has been set up

A log that has been set up has one console and at most one file (`World.Fitted`). A record that is
let through goes once to each of them (`Fitted.take`), and asking for a logger changes neither. So
what a list of records leaves is what each of them does, in order (`Log.exec_gives`).
-/

namespace ClasspathProbe

open ClasspathProbe.Action (exec exec_bind_ok)

/-! ## Adding to a file that is there -/

namespace FileTree

variable {t : FileTree} {here place : Location} {path : Text} {f : File}

/-- What is added to a file comes behind its bytes, and the path leads to it as before. -/
theorem append_of_found (h : t.locate here .output path = .ok (.found place (.file f)))
    (bytes : List UInt8) :
    ∃ t', t.append here path bytes = .ok t' ∧
      t'.locate here .output path =
        .ok (.found place (.file { f with bytes := f.bytes ++ bytes })) := by
  have hw : t.Writable place { f with bytes := f.bytes ++ bytes } :=
    .inr ⟨f, node?_of_locate_file h, rfl⟩
  have hwritten : Written (fun p => p = place) t
      (t.insert place (.file { f with bytes := f.bytes ++ bytes })) := .insert hw rfl
  refine ⟨_, ?_, hwritten.locate_file h (node?_insert_self t _ hw.ne_nil)⟩
  rw [append, h]
  rfl

end FileTree

/-! ## Records -/

namespace Log

/-- What a record comes to on a console: a line in its layout, when the parts of the record fit it. A
console with columns shows records in a way of its own. -/
def Sink.shown (partsOf : Record → List (Text × Layout.Part)) : Sink → Record → Text
  | .plain layout, r =>
    match Layout.render? (partsOf r) layout with
    | some line => line ++ ['\n']
    | none => []
  | _, _ => []

/-- Whether a log with a threshold lets a record through. -/
def passes (threshold : Level) (r : Record) : Bool := decide (0 < r.level ∧ threshold ≤ r.level)

end Log

namespace World

variable {w w' w'' : World} {console : Log.Sink} {file : Option Text} {least : Log.Level}
  {r : Log.Record} {rs rs' : List Log.Record}

/-- A log with one console and at most one file, which is there. -/
structure Fitted (console : Log.Sink) (file : Option Text) (least : Log.Level) (w : World) :
    Prop where
  threshold : w.log.threshold = least
  sinks : w.log.sinks = console :: file.toList.map fun path => .file path least
  isConsole : ∀ path level, console ≠ .file path level
  isOpen : ∀ path ∈ file, ∃ place f,
    w.tree.locate w.here .output path = .ok (.found place (.file f))

/-- The second world is the first one with records given to a console and to a file. -/
structure Gained (console : Log.Sink) (file : Option Text) (rs : List Log.Record) (w w' : World) :
    Prop where
  here : w'.here = w.here
  now : w'.now = w.now
  scene : w'.scene = w.scene
  threshold : w'.log.threshold = w.log.threshold
  sinks : w'.log.sinks = w.log.sinks
  records : w'.log.records = w.log.records ++ rs
  shown : w'.log.console = w.log.console ++ rs.flatMap (console.shown w.partsOf)
  added : ∀ path ∈ file, ∀ place f,
    w.tree.locate w.here .output path = .ok (.found place (.file f)) →
    w'.tree.locate w'.here .output path =
      .ok (.found place (.file { f with bytes := f.bytes ++ rs.flatMap (recordBytes w.now) }))

namespace Gained

theorem refl (w : World) : Gained console file [] w w where
  here := rfl
  now := rfl
  scene := rfl
  threshold := rfl
  sinks := rfl
  records := (List.append_nil _).symm
  shown := (List.append_nil _).symm
  added path _ place f h := by
    rw [List.flatMap_nil, List.append_nil]
    exact h

theorem partsOf_eq (h : Gained console file rs w w') : w'.partsOf = w.partsOf := by
  funext r
  rw [partsOf, partsOf, h.now, h.scene]

theorem trans (h : Gained console file rs w w') (h' : Gained console file rs' w' w'') :
    Gained console file (rs ++ rs') w w'' where
  here := h'.here.trans h.here
  now := h'.now.trans h.now
  scene := h'.scene.trans h.scene
  threshold := h'.threshold.trans h.threshold
  sinks := h'.sinks.trans h.sinks
  records := by rw [h'.records, h.records, List.append_assoc]
  shown := by rw [h'.shown, h.shown, h.partsOf_eq, List.flatMap_append, List.append_assoc]
  added path hpath place f hloc := by
    have := h'.added path hpath place _ (h.added path hpath place f hloc)
    rwa [h.now, List.append_assoc, ← List.flatMap_append] at this

end Gained

/-- A record on the console. -/
theorem write_console (h : ∀ path level, console ≠ .file path level) (w : World)
    (r : Log.Record) :
    w.write r console = { w with log.console := w.log.console ++ console.shown w.partsOf r } := by
  cases console with
  | rich => simp [write, Log.Sink.shown]
  | plain layout =>
    rw [write, Log.Sink.shown]
    cases Log.Layout.render? (w.partsOf r) layout <;> simp
  | file path level => exact absurd rfl (h path level)

/-- A record in the file that a path leads to. -/
theorem write_found {path : Text} {place : Location} {f : File} (hleast : least ≤ r.level)
    (h : w.tree.locate w.here .output path = .ok (.found place (.file f))) :
    ∃ tree, w.write r (.file path least) = { w with tree } ∧
      tree.locate w.here .output path =
        .ok (.found place (.file { f with bytes := f.bytes ++ recordBytes w.now r })) := by
  obtain ⟨tree, happend, hloc⟩ := FileTree.append_of_found h (recordBytes w.now r)
  exact ⟨tree, by rw [write_file_eq w hleast, happend], hloc⟩

namespace Fitted

theorem gained (h : w.Fitted console file least) (hgained : Gained console file rs w w') :
    w'.Fitted console file least where
  threshold := hgained.threshold.trans h.threshold
  sinks := hgained.sinks.trans h.sinks
  isConsole := h.isConsole
  isOpen path hpath := by
    obtain ⟨place, f, hloc⟩ := h.isOpen path hpath
    exact ⟨place, _, hgained.added path hpath place f hloc⟩

theorem sinks_ne_nil (h : w.Fitted console file least) : w.log.sinks ≠ [] := by
  rw [h.sinks]
  exact List.cons_ne_nil _ _

theorem lets_iff (h : w.Fitted console file least) : w.Lets r ↔ Log.passes least r = true := by
  rw [Lets, h.threshold, Log.passes, decide_eq_true_iff]

/-- **A step.** A record that is let through is written once to the console and once to the file;
one that is not is written nowhere. -/
theorem take (h : w.Fitted console file least) (r : Log.Record) :
    Gained console file ([r].filter (Log.passes least)) w (w.take r) := by
  by_cases hpass : Log.passes least r = true
  · have hshown : [r].flatMap (console.shown w.partsOf) = console.shown w.partsOf r :=
      List.flatMap_singleton ..
    have hbytes : [r].flatMap (recordBytes w.now) = recordBytes w.now r :=
      List.flatMap_singleton ..
    have hconsole : (w.noted r).write r console =
        { w.noted r with log.console := w.log.console ++ console.shown w.partsOf r } := by
      rw [write_console h.isConsole, show (w.noted r).log.console = w.log.console from
        if_neg (by simp [h.sinks])]
      rfl
    rw [List.filter_cons_of_pos hpass, List.filter_nil, take_of_lets_eq (h.lets_iff.2 hpass),
      h.sinks, List.foldl_cons, hconsole]
    cases file with
    | none => exact ⟨rfl, rfl, rfl, rfl, rfl, rfl, congrArg _ hshown.symm, by simp⟩
    | some path =>
      have hleast : least ≤ r.level := (of_decide_eq_true hpass).2
      obtain ⟨place, f, hloc⟩ := h.isOpen path rfl
      obtain ⟨tree, hwrite, hafter⟩ := write_found (w := { w.noted r with
        log.console := w.log.console ++ console.shown w.partsOf r }) hleast hloc
      rw [Option.toList_some, List.map_singleton, List.foldl_cons, List.foldl_nil, hwrite]
      refine ⟨rfl, rfl, rfl, rfl, rfl, rfl, congrArg _ hshown.symm,
        fun _ hpath place' f' hloc' => ?_⟩
      obtain rfl := Option.some.inj hpath
      obtain ⟨rfl, hnode⟩ := Spot.found.inj (Except.ok.inj (hloc.symm.trans hloc'))
      obtain rfl := Node.file.inj hnode
      rw [hbytes]
      exact hafter
  · rw [List.filter_cons_of_neg hpass, List.filter_nil, take_of_not_lets (mt h.lets_iff.1 hpass)]
    exact .refl w

end Fitted

/-! ## Loggers -/

/-- A world in which a logger has been asked for. -/
def knowing (w : World) (name : Text) : World :=
  if w.log.known.contains name then w else { w with log.known := name :: w.log.known }

theorem gained_knowing (w : World) (name : Text) : Gained console file [] w (w.knowing name) := by
  rw [knowing]
  split
  · exact .refl w
  · exact { Gained.refl w with }

end World

namespace Log

open World (Fitted Gained)

variable {w w' : World} {console : Sink} {file : Option Text} {least : Level}

/-- Asking for a logger does not set the log up again. -/
theorem exec_logger (h : w.log.sinks ≠ []) (name : Text) :
    exec (logger name) w = (.ok ⟨⟩, w.knowing name) := by
  rw [logger, exec_bind_ok (Action.exec_get w), World.knowing]
  cases hknown : w.log.known.contains name with
  | true => rfl
  | false =>
    have hset : exec (set { w with log.known := name :: w.log.known } : Action PUnit) w =
        (.ok ⟨⟩, { w with log.known := name :: w.log.known }) := rfl
    refine (exec_bind_ok hset _).trans ?_
    rw [if_neg (by simpa using h)]
    rfl

/-- Loggers asked for one after the other leave the sinks and the threshold alone. -/
theorem exec_loggers (h : w.log.sinks ≠ []) (names : List Text) :
    ∃ w', exec (names.forM logger) w = (.ok ⟨⟩, w') ∧ w'.log.sinks = w.log.sinks ∧
      w'.log.threshold = w.log.threshold := by
  induction names generalizing w with
  | nil => exact ⟨w, rfl, rfl, rfl⟩
  | cons name names ih =>
    have hknowing : Gained .rich none [] w (w.knowing name) := World.gained_knowing w name
    obtain ⟨w', hrun, hsinks, hthreshold⟩ := ih (w := w.knowing name) (by rwa [hknowing.sinks])
    exact ⟨w', (exec_bind_ok (exec_logger h name) _).trans hrun, hsinks.trans hknowing.sinks,
      hthreshold.trans hknowing.threshold⟩

/-- A record as its logger shows it: the logger without a name is the root. -/
def Record.named (r : Record) : Record :=
  { r with logger := if r.logger.isEmpty then "root".toList else r.logger }

/-- Gives a record to the logger that it names. -/
def give (r : Record) : Action Unit := record r.logger r.level r.text

theorem exec_give (h : w.log.sinks ≠ []) (r : Record) :
    exec (give r) w = (.ok ⟨⟩, (w.knowing r.logger).take r.named) := by
  rw [give, record, exec_bind_ok (exec_logger h _)]
  rfl

/-- **A run.** Of some records those that pass are written, in order, once to the console and once
to the file. By induction on them. -/
theorem exec_gives (h : w.Fitted console file least) (rs : List Record) :
    ∃ w', exec (rs.forM give) w = (.ok ⟨⟩, w') ∧
      Gained console file ((rs.map Record.named).filter (passes least)) w w' := by
  induction rs generalizing w with
  | nil => exact ⟨w, rfl, .refl w⟩
  | cons r rs ih =>
    have hknowing : Gained console file [] w (w.knowing r.logger) :=
      World.gained_knowing w r.logger
    have hfirst := hknowing.trans ((h.gained hknowing).take r.named)
    obtain ⟨w', hrun, hrest⟩ := ih (h.gained hfirst)
    refine ⟨w', (exec_bind_ok (exec_give h.sinks_ne_nil r) _).trans hrun, ?_⟩
    rw [List.map_cons, ← List.singleton_append, List.filter_append]
    exact hfirst.trans hrest

end Log

end ClasspathProbe
