import ClasspathProbe.Proofs.FileTree.Written
import ClasspathProbe.Proofs.World.Action

/-!
# What the log does to the world

A record changes nothing but the log itself and the files that it is added to (`take_extends`).
After a record has been taken there is something at every place that records of its level go to
(`node?_take_ne_none`), so what is found free later is out of the log's reach.
-/

namespace ClasspathProbe.World

variable {w w' w'' : World} {level : Log.Level} {place : Location} {P Q : Location → Prop}
  {r : Log.Record}

/-! ## Worlds with more written -/

/-- The second world differs from the first, of what files and records depend on, in files written
at some of the places only. -/
structure Extends (P : Location → Prop) (w w' : World) : Prop where
  here : w'.here = w.here
  sinks : w'.log.sinks = w.log.sinks
  threshold : w'.log.threshold = w.log.threshold
  tree : w.tree.Written P w'.tree

namespace Extends

theorem refl (w : World) : Extends P w w := ⟨rfl, rfl, rfl, .refl _⟩

theorem trans (h : Extends P w w') (h' : Extends P w' w'') : Extends P w w'' :=
  ⟨h'.here.trans h.here, h'.sinks.trans h.sinks, h'.threshold.trans h.threshold,
    h.tree.trans h'.tree⟩

theorem mono (h : Extends P w w') (hPQ : ∀ p, P p → Q p) : Extends Q w w' :=
  ⟨h.here, h.sinks, h.threshold, h.tree.mono hPQ⟩

theorem grounded (h : Extends P w w') (hhere : w.tree.Grounded w.here) :
    w'.tree.Grounded w'.here := by
  rw [h.here]
  exact hhere.written h.tree

/-- Paths lead to the same places in both worlds. -/
theorem place_iff (h : Extends P w w') {aim : FileTree.Aim} {path : Text} :
    (∃ spot, w'.tree.locate w'.here aim path = .ok spot ∧ spot.place = place) ↔
      ∃ spot, w.tree.locate w.here aim path = .ok spot ∧ spot.place = place := by
  have hway := h.tree.locate w.here aim path
  rw [h.here]
  generalize w.tree.locate w.here aim path = a at hway
  generalize w'.tree.locate w.here aim path = b at hway
  cases hway <;> simp [Spot.place]

end Extends

/-! ## Where records go -/

/-- Whether the log lets a record through. -/
def Lets (w : World) (r : Log.Record) : Prop := 0 < r.level ∧ w.log.threshold ≤ r.level

/-- Whether records of a level are added to a file at a place. -/
def LogsTo (w : World) (level : Log.Level) (place : Location) : Prop :=
  0 < level ∧ w.log.threshold ≤ level ∧
    ∃ path least, .file path least ∈ w.log.sinks ∧ least ≤ level ∧
      ∃ spot, w.tree.locate w.here .output path = .ok spot ∧ spot.place = place

/-- Whether a file that records are added to is at a place, or would be made there. -/
def IsLogPlace (w : World) (place : Location) : Prop :=
  ∃ path least, .file path least ∈ w.log.sinks ∧
    ∃ spot, w.tree.locate w.here .output path = .ok spot ∧ spot.place = place

theorem LogsTo.isLogPlace (h : w.LogsTo level place) : w.IsLogPlace place := by
  obtain ⟨-, -, path, least, hsink, -, hspot⟩ := h
  exact ⟨path, least, hsink, hspot⟩

theorem LogsTo.mono {level' : Log.Level} (h : w.LogsTo level place) (hle : level ≤ level') :
    w.LogsTo level' place := by
  obtain ⟨hpos, hthreshold, path, least, hsink, hleast, hspot⟩ := h
  exact ⟨Int.lt_of_lt_of_le hpos hle, Int.le_trans hthreshold hle, path, least, hsink,
    Int.le_trans hleast hle, hspot⟩

theorem Extends.lets (h : Extends P w w') (hlets : w.Lets r) : w'.Lets r := by
  rwa [Lets, h.threshold]

theorem Extends.mem_sinks (h : Extends P w w') {sinks : List Log.Sink}
    (hsinks : ∀ sink ∈ sinks, sink ∈ w.log.sinks) : ∀ sink ∈ sinks, sink ∈ w'.log.sinks := by
  rwa [h.sinks]

theorem Extends.logsTo_iff (h : Extends P w w') : w'.LogsTo level place ↔ w.LogsTo level place := by
  simp only [LogsTo, h.threshold, h.sinks, h.place_iff]

theorem Extends.isLogPlace_iff (h : Extends P w w') : w'.IsLogPlace place ↔ w.IsLogPlace place := by
  simp only [IsLogPlace, h.sinks, h.place_iff]

/-! ## Writing a record -/

theorem write_file (w : World) {path : Text} {least : Log.Level} (h : least ≤ r.level) :
    ∃ bytes, w.write r (.file path least) =
      match w.tree.append w.here path bytes with
      | .ok tree => { w with tree }
      | .error _ => w := by
  refine ⟨Utf8.encode (w.now ++ " - ".toList ++ r.logger ++ " - ".toList ++
    Log.levelName r.level ++ " - ".toList ++ r.text ++ ['\n']), ?_⟩
  exact if_neg (Int.not_lt.2 h)

theorem write_file_of_lt (w : World) {path : Text} {least : Log.Level} (h : r.level < least) :
    w.write r (.file path least) = w := by
  rw [write, if_pos h]

/-- Writing a record changes nothing but the tree and the log. -/
theorem write_eq (w : World) (r : Log.Record) (sink : Log.Sink) :
    ∃ tree log, w.write r sink = { w with tree, log } := by
  cases sink with
  | rich => exact ⟨w.tree, w.log, rfl⟩
  | plain layout =>
    rw [write]
    split
    · exact ⟨w.tree, _, rfl⟩
    · exact ⟨w.tree, w.log, rfl⟩
  | file path least =>
    by_cases hleast : least ≤ r.level
    · obtain ⟨bytes, hwrite⟩ := write_file w hleast
      rw [hwrite]
      split
      · exact ⟨_, w.log, rfl⟩
      · exact ⟨w.tree, w.log, rfl⟩
    · exact ⟨w.tree, w.log, write_file_of_lt w (Int.not_le.1 hleast)⟩

theorem foldl_write_eq (w : World) (r : Log.Record) (sinks : List Log.Sink) :
    ∃ tree log, sinks.foldl (write r) w = { w with tree, log } := by
  induction sinks generalizing w with
  | nil => exact ⟨w.tree, w.log, rfl⟩
  | cons sink sinks ih =>
    obtain ⟨tree, log, hfirst⟩ := write_eq w r sink
    obtain ⟨tree', log', hrest⟩ := ih { w with tree, log }
    exact ⟨tree', log', by rw [List.foldl_cons, hfirst, hrest]⟩

theorem write_extends (hlets : w.Lets r) {sink : Log.Sink} (hsink : sink ∈ w.log.sinks) :
    Extends (w.LogsTo r.level) w (w.write r sink) := by
  cases sink with
  | rich => exact .refl w
  | plain layout =>
    rw [write]
    split
    · exact ⟨rfl, rfl, rfl, .refl _⟩
    · exact .refl w
  | file path least =>
    by_cases hleast : least ≤ r.level
    · obtain ⟨bytes, hwrite⟩ := write_file w hleast
      rw [hwrite]
      cases hloc : w.tree.locate w.here .output path with
      | error why =>
        rw [FileTree.append_of_error hloc]
        exact .refl w
      | ok spot =>
        obtain ⟨f, hw, happend⟩ | ⟨node, -, happend⟩ := FileTree.append_of_locate hloc bytes
        · rw [happend]
          refine ⟨rfl, rfl, rfl, .insert hw ?_⟩
          exact ⟨hlets.1, hlets.2, path, least, hsink, hleast, spot, hloc, rfl⟩
        · rw [happend]
          exact .refl w
    · rw [write_file_of_lt w (Int.not_le.1 hleast)]
      exact .refl w

theorem foldl_write_extends (hlets : w.Lets r) {sinks : List Log.Sink}
    (hsinks : ∀ sink ∈ sinks, sink ∈ w.log.sinks) :
    Extends (w.LogsTo r.level) w (sinks.foldl (write r) w) := by
  induction sinks generalizing w with
  | nil => exact .refl w
  | cons sink sinks ih =>
    obtain ⟨hsink, hrest⟩ := List.forall_mem_cons.1 hsinks
    have hfirst := write_extends hlets hsink
    have hlater := ih (hfirst.lets hlets) (hfirst.mem_sinks hrest)
    rw [List.foldl_cons]
    exact hfirst.trans (hlater.mono fun p => hfirst.logsTo_iff.1)

/-- After a record was added to a file, or could not be, something is at its place. -/
theorem node?_write_ne_none (hhere : w.tree.Grounded w.here) {path : Text} {least : Log.Level}
    (hleast : least ≤ r.level) {spot : Spot}
    (hloc : w.tree.locate w.here .output path = .ok spot) :
    (w.write r (.file path least)).tree.node? spot.place ≠ none := by
  obtain ⟨bytes, hwrite⟩ := write_file w hleast
  rw [hwrite]
  obtain ⟨f, hw, happend⟩ | ⟨node, hspot, happend⟩ := FileTree.append_of_locate hloc bytes
  · rw [happend]
    simp [FileTree.node?_insert_self _ _ hw.ne_nil]
  · rw [happend]
    rw [hspot] at hloc
    simp [FileTree.node?_of_locate hhere hloc]

theorem node?_foldl_write_ne_none (hlets : w.Lets r) (hhere : w.tree.Grounded w.here)
    {sinks : List Log.Sink}
    (hsinks : ∀ sink ∈ sinks, sink ∈ w.log.sinks) {path : Text} {least : Log.Level}
    (hsink : .file path least ∈ sinks) (hleast : least ≤ r.level)
    (hspot : ∃ spot, w.tree.locate w.here .output path = .ok spot ∧ spot.place = place) :
    (sinks.foldl (write r) w).tree.node? place ≠ none := by
  induction sinks generalizing w with
  | nil => simp at hsink
  | cons sink sinks ih =>
    obtain ⟨hfirst, hrest⟩ := List.forall_mem_cons.1 hsinks
    have hext := write_extends hlets hfirst
    have hlets' := hext.lets hlets
    have hrest' := hext.mem_sinks hrest
    rw [List.foldl_cons]
    obtain rfl | hlater := List.mem_cons.1 hsink
    · -- this sink puts something there, and what the others write takes nothing away
      obtain ⟨spot, hloc, rfl⟩ := hspot
      have hwritten := node?_write_ne_none hhere hleast hloc
      exact (foldl_write_extends hlets' hrest').tree.node?_ne_none hwritten
    · exact ih hlets' (hext.grounded hhere) hrest' hlater (hext.place_iff.2 hspot)

/-! ## Taking a record -/

theorem take_of_not_lets (h : ¬w.Lets r) : w.take r = w := by
  rw [take, if_pos]
  rw [Bool.or_eq_true, decide_eq_true_eq, decide_eq_true_eq]
  rw [Lets, Classical.not_and_iff_not_or_not, Int.not_lt, Int.not_le] at h
  exact h

/-- A record let through goes to every sink. -/
theorem take_of_lets (h : w.Lets r) :
    ∃ log, Extends (fun _ => False) w { w with log } ∧
      w.take r = w.log.sinks.foldl (write r) { w with log } := by
  have hpass : ¬(decide (r.level ≤ 0) || decide (r.level < w.log.threshold)) = true := by
    rw [Bool.or_eq_true, decide_eq_true_eq, decide_eq_true_eq, not_or, Int.not_le, Int.not_lt]
    exact h
  rw [take, if_neg hpass]
  simp only [List.isEmpty_iff]
  split
  · next hsinks =>
    rw [hsinks]
    split
    · refine ⟨_, ?_, rfl⟩
      exact ⟨rfl, hsinks.symm, rfl, .refl _⟩
    · refine ⟨_, ?_, rfl⟩
      exact ⟨rfl, hsinks.symm, rfl, .refl _⟩
  · refine ⟨_, ?_, rfl⟩
    exact ⟨rfl, rfl, rfl, .refl _⟩

theorem take_extends (w : World) (r : Log.Record) : Extends (w.LogsTo r.level) w (w.take r) := by
  by_cases h : w.Lets r
  · obtain ⟨log, hext, htake⟩ := take_of_lets h
    rw [htake]
    have hsinks := hext.mem_sinks fun _ hsink => hsink
    have hwritten := foldl_write_extends (hext.lets h) hsinks
    exact (hext.mono fun _ hp => hp.elim).trans (hwritten.mono fun p => hext.logsTo_iff.1)
  · rw [take_of_not_lets h]
    exact .refl w

/-- Taking a record changes nothing but the tree and the log. -/
theorem take_eq (w : World) (r : Log.Record) : ∃ tree log, w.take r = { w with tree, log } := by
  by_cases h : w.Lets r
  · obtain ⟨log, -, htake⟩ := take_of_lets h
    rw [htake]
    exact foldl_write_eq { w with log } r w.log.sinks
  · exact ⟨w.tree, w.log, take_of_not_lets h⟩

@[simp] theorem take_deeds (w : World) (r : Log.Record) : (w.take r).deeds = w.deeds := by
  obtain ⟨tree, log, htake⟩ := take_eq w r
  rw [htake]

/-- A place that records of a level go to is taken once one of that level came. -/
theorem node?_take_ne_none (hhere : w.tree.Grounded w.here) (h : w.LogsTo r.level place) :
    (w.take r).tree.node? place ≠ none := by
  obtain ⟨hpos, hthreshold, path, least, hsink, hleast, hspot⟩ := h
  have hlets : w.Lets r := ⟨hpos, hthreshold⟩
  obtain ⟨log, hext, htake⟩ := take_of_lets hlets
  have hsinks := hext.mem_sinks fun _ hsink => hsink
  rw [htake]
  exact node?_foldl_write_ne_none (hext.lets hlets) (hext.grounded hhere) hsinks hsink hleast
    (hext.place_iff.2 hspot)

/-! ## Changes of logs only -/

/-- The second world differs from the first, of what files and records depend on, in files that
records are added to only. -/
def OnlyLogs (w w' : World) : Prop := Extends w.IsLogPlace w w'

theorem OnlyLogs.refl (w : World) : OnlyLogs w w := Extends.refl w

theorem OnlyLogs.trans (h : OnlyLogs w w') (h' : OnlyLogs w' w'') : OnlyLogs w w'' :=
  Extends.trans h (h'.mono fun _ => h.isLogPlace_iff.1)

theorem take_onlyLogs (w : World) (r : Log.Record) : OnlyLogs w (w.take r) :=
  (take_extends w r).mono fun _ => LogsTo.isLogPlace

theorem onlyLogs_frame : Action.LogFrame OnlyLogs :=
  ⟨OnlyLogs.refl, OnlyLogs.trans, take_onlyLogs⟩

theorem deeds_frame : Action.LogFrame fun w w' => w'.deeds = w.deeds :=
  ⟨fun _ => rfl, fun h h' => h'.trans h, take_deeds⟩

end ClasspathProbe.World
