import ClasspathProbe.Invocation
import ClasspathProbe.Proofs.Text.Blank
import ClasspathProbe.Proofs.Text.Cut
import ClasspathProbe.Proofs.Text.Lines
import ClasspathProbe.Proofs.World.Action
import Mathlib.Data.List.Infix
import Mathlib.Data.Option.Basic

/-!
# What is told of an error stream

The place of a failure stands below the first heading for one (`IsPlace`), and the search finds it
there (`place?_eq_some_iff`). A failed build is told as a whole, of any other build the lines that
speak of errors are told, and no such line is lost (`Invocation.report_tells`).
-/

namespace ClasspathProbe

namespace BuildReport

open Text (isSpace IsTrimmed dropWhile_run takeWhile_run takeWhile_ne_nil startsWith_iff
  startsWith_run)

variable {errors s line place : Text}

/-! ## The heading of a place -/

/-- Whether a text starts with the heading of a place, above a line that starts with a visible
character. -/
inductive HeadsPlace : Text → Text → Prop where
  | intro {blanks breaks line rest : Text} (hblanks : blanks ≠ [])
    (hspace : ∀ c ∈ blanks, isSpace c = true) (hbreaks : breaks ≠ [])
    (hbreak : ∀ c ∈ breaks, isBreak c = true) (hne : line ≠ [])
    (hvisible : ∀ c ∈ line.head?, isSpace c = false) (hline : '\n' ∉ line)
    (hrest : ∀ c ∈ rest.head?, c = '\n') :
    HeadsPlace ("*" ++ (blanks ++ ("Where:" ++ (breaks ++ (line ++ rest))))) line

theorem isSpace_of_isBreak {c : Char} (h : isBreak c = true) : isSpace c = true := by
  rw [isBreak, Bool.or_eq_true, decide_eq_true_eq, decide_eq_true_eq] at h
  obtain rfl | rfl := h <;> rfl

theorem placeAt?_iff :
    placeAt? s = some line ↔
      ∃ below, s = "*" ++ below ∧ (below.head?.map isSpace).getD false = true ∧
        ∃ under, Text.stripStart below = "Where:" ++ under ∧
          (under.head?.map isBreak).getD false = true ∧
            ((under.dropWhile isBreak).head?.map fun c => !isSpace c).getD false = true ∧
              (under.dropWhile isBreak).takeWhile (· ≠ '\n') = line := by
  rw [placeAt?]
  simp only [Option.bind_eq_bind, Option.bind_eq_some_iff, Text.after?_eq_some_iff,
    Option.guard_eq_some', Option.pure_def, Option.some_inj, exists_const]

theorem takeWhile_line_ne_nil {body : Text} (hne : body ≠ [])
    (hseen : ∀ c ∈ body.head?, isSpace c = false) : body.takeWhile (· ≠ '\n') ≠ [] := by
  refine takeWhile_ne_nil (startsWith_iff.2 ⟨hne, fun c hc => decide_eq_true ?_⟩)
  rintro rfl
  exact Bool.false_ne_true (hseen _ hc).symm

theorem headsPlace_of_placeAt? (h : placeAt? s = some line) : HeadsPlace s line := by
  obtain ⟨below, rfl, hblank, under, hwhere, hbreak, hvisible, rfl⟩ := placeAt?_iff.1 h
  generalize hbody : under.dropWhile isBreak = body at hvisible ⊢
  obtain ⟨hne, hfirst⟩ := startsWith_iff.1 hvisible
  have hseen : ∀ c ∈ body.head?, isSpace c = false := by simpa using hfirst
  have hline := takeWhile_line_ne_nil hne hseen
  have hcut := List.takeWhile_append_dropWhile (p := fun c => decide (c ≠ '\n')) (l := body)
  have hheads : HeadsPlace ("*" ++ (below.takeWhile isSpace ++ ("Where:" ++
      (under.takeWhile isBreak ++ (body.takeWhile (· ≠ '\n') ++ body.dropWhile (· ≠ '\n'))))))
      (body.takeWhile (· ≠ '\n')) := by
    refine .intro (takeWhile_ne_nil hblank) (fun c => List.mem_takeWhile_imp)
      (takeWhile_ne_nil hbreak) (fun c => List.mem_takeWhile_imp) hline ?_ ?_ ?_
    · rw [← hcut, List.head?_append_of_ne_nil _ hline] at hseen
      exact hseen
    · intro hmem
      simpa using List.mem_takeWhile_imp hmem
    · intro c hc
      have hstop := List.head?_dropWhile_not (fun c => decide (c ≠ '\n')) body
      rw [Option.mem_def.1 hc] at hstop
      simpa using hstop
  rwa [hcut, ← hbody, List.takeWhile_append_dropWhile, ← hwhere, Text.stripStart,
    List.takeWhile_append_dropWhile, hbody] at hheads

theorem HeadsPlace.placeAt?_eq (h : HeadsPlace s line) : placeAt? s = some line := by
  rw [placeAt?_iff]
  cases h with
  | @intro blanks breaks line rest hblanks hspace hbreaks hbreak hne hvisible hline hrest =>
    have hhead : ∀ c ∈ (line ++ rest).head?, isSpace c = false := by
      rw [List.head?_append_of_ne_nil _ hne]
      exact hvisible
    -- breaks are blanks, so a visible character ends them
    have hunder : (breaks ++ (line ++ rest)).dropWhile isBreak = line ++ rest := by
      refine dropWhile_run hbreak fun c hc => ?_
      rw [Bool.eq_false_iff]
      intro hb
      exact Bool.false_ne_true ((hhead c hc).symm.trans (isSpace_of_isBreak hb))
    refine ⟨_, rfl, startsWith_run hblanks hspace _, breaks ++ (line ++ rest), ?_,
      startsWith_run hbreaks hbreak _, ?_, ?_⟩
    · exact dropWhile_run hspace fun c hc => by cases hc; rfl
    · rw [hunder]
      refine startsWith_iff.2 ⟨List.append_ne_nil_of_left_ne_nil hne _, fun c hc => ?_⟩
      rw [hhead c hc]
      rfl
    · rw [hunder]
      refine takeWhile_run (fun c hc => ?_) fun c hc => ?_
      · exact decide_eq_true fun heq => hline (heq ▸ hc)
      · rw [hrest c hc]
        rfl

/-- The search at one place of a text finds just what stands there. -/
theorem placeAt?_eq_some_iff : placeAt? s = some line ↔ HeadsPlace s line :=
  ⟨headsPlace_of_placeAt?, HeadsPlace.placeAt?_eq⟩

/-! ## The place of a failure -/

/-- The place of a failure: what stands below the first heading, without the blanks behind it. -/
inductive IsPlace (errors : Text) : Text → Prop where
  | intro (before : Text) {s place blanks : Text} (h : errors = before ++ s)
    (hheads : HeadsPlace s (place ++ blanks))
    (hfirst : ∀ before' s' line, errors = before' ++ s' → HeadsPlace s' line →
      before.length ≤ before'.length)
    (hplace : place.IsTrimmed) (hblanks : ∀ c ∈ blanks, isSpace c = true) : IsPlace errors place

theorem HeadsPlace.ne_nil (h : HeadsPlace s line) : s ≠ [] := by
  cases h
  exact List.cons_ne_nil _ _

theorem HeadsPlace.exists_trimmed (h : HeadsPlace s line) :
    ∃ blanks, line = Text.strip line ++ blanks ∧ (Text.strip line).IsTrimmed ∧
      ∀ c ∈ blanks, isSpace c = true := by
  cases h with
  | intro hblanks hspace hbreaks hbreak hne hvisible hline hrest =>
    rw [Text.strip, Text.stripStart_of_head hvisible]
    obtain ⟨blanks, hcut, hspaces⟩ := Text.exists_stripEnd_append line
    exact ⟨blanks, hcut, Text.isTrimmed_stripEnd hne hvisible, hspaces⟩

theorem place?_cons_of_some {c : Char} (h : placeAt? (c :: s) = some line) :
    place? (c :: s) = some (Text.strip line) := by
  rw [place?, h]

theorem place?_cons_of_none {c : Char} (h : placeAt? (c :: s) = none) :
    place? (c :: s) = place? s := by
  rw [place?, h]

/-- The search passes over whatever heads no place. -/
theorem place?_append {before : Text}
    (h : ∀ before' s' line, before ++ s = before' ++ s' → HeadsPlace s' line →
      before.length ≤ before'.length) : place? (before ++ s) = place? s := by
  induction before with
  | nil => rfl
  | cons c before ih =>
    have hnone : placeAt? (c :: (before ++ s)) = none := by
      rw [Option.eq_none_iff_forall_ne_some]
      intro line hline
      have hle := h [] _ line rfl (placeAt?_eq_some_iff.1 hline)
      simp at hle
    rw [List.cons_append, place?_cons_of_none hnone]
    refine ih fun before' s' line hs hheads => ?_
    have hle := h (c :: before') s' line (congrArg (c :: ·) hs) hheads
    simpa using hle

theorem IsPlace.place?_eq (h : IsPlace errors place) : place? errors = some place := by
  cases h with
  | @intro before s place blanks h hheads hfirst hplace hblanks =>
    subst h
    rw [place?_append hfirst]
    obtain ⟨c, s, rfl⟩ := List.exists_cons_of_ne_nil hheads.ne_nil
    rw [place?_cons_of_some (placeAt?_eq_some_iff.2 hheads), Text.strip_append hblanks, Text.strip,
      Text.stripStart_of_head hplace.head, Text.stripEnd_of_last hplace.last]

theorem isPlace_of_place? (h : place? errors = some place) : IsPlace errors place := by
  induction errors with
  | nil => cases h
  | cons c s ih =>
    cases hat : placeAt? (c :: s) with
    | some line =>
      rw [place?_cons_of_some hat] at h
      obtain rfl := Option.some.inj h
      have hheads := placeAt?_eq_some_iff.1 hat
      obtain ⟨blanks, hline, htrimmed, hblanks⟩ := hheads.exists_trimmed
      rw [hline] at hheads
      exact .intro [] rfl hheads (fun _ _ _ _ _ => Nat.zero_le _) htrimmed hblanks
    | none =>
      rw [place?_cons_of_none hat] at h
      cases ih h with
      | @intro before s' place blanks hs hheads hfirst hplace hblanks =>
        refine .intro (c :: before) (congrArg (c :: ·) hs) hheads
          (fun before' s'' line hs' hheads' => ?_) hplace hblanks
        cases before' with
        | nil =>
          obtain rfl : c :: s = s'' := hs'
          rw [placeAt?_eq_some_iff.2 hheads'] at hat
          cases hat
        | cons d before' =>
          have hle := hfirst before' s'' line (List.cons.inj hs').2 hheads'
          exact Nat.succ_le_succ hle

/-- **The place that is found is the place of the failure.** -/
theorem place?_eq_some_iff : place? errors = some place ↔ IsPlace errors place :=
  ⟨isPlace_of_place?, IsPlace.place?_eq⟩

/-- There is a place as soon as there is a heading with a line below it. -/
theorem exists_isPlace {before : Text} (h : HeadsPlace s line) :
    ∃ place, IsPlace (before ++ s) place := by
  simp only [← place?_eq_some_iff]
  induction before with
  | nil =>
    obtain ⟨c, s, rfl⟩ := List.exists_cons_of_ne_nil h.ne_nil
    exact ⟨_, place?_cons_of_some (placeAt?_eq_some_iff.2 h)⟩
  | cons c before ih =>
    rw [List.cons_append]
    cases hat : placeAt? (c :: (before ++ s)) with
    | some line => exact ⟨_, place?_cons_of_some hat⟩
    | none =>
      rw [place?_cons_of_none hat]
      exact ih

/-! ## Warnings -/

theorem failed_iff : failed errors = true ↔ failedMarker <:+: errors := Text.occurs_iff

/-- Whether an error stream is that of a failed build, and what is told of it. -/
inductive Tells (errors : Text) : Bool → List Text → Prop where
  | failedAt {place : Text} (h : failedMarker <:+: errors) (hplace : IsPlace errors place) :
    Tells errors true
      ["Gradle task failed at ".toList ++ place, "Gradle task failed: ".toList ++ errors]
  | failed (h : failedMarker <:+: errors)
    (hnowhere : ∀ before s line, errors = before ++ s → ¬HeadsPlace s line) :
    Tells errors true ["Gradle task failed: ".toList ++ errors]
  | passed {ls : List Text} (h : ¬failedMarker <:+: errors) (hlines : Text.IsLines errors ls) :
    Tells errors false ((ls.filter (errorMarker <:+: ·)).map ("Gradle error: ".toList ++ ·))

theorem warnings_of_failed (h : failed errors = true) :
    warnings errors =
      ((place? errors).map ("Gradle task failed at ".toList ++ ·)).toList ++
        ["Gradle task failed: ".toList ++ errors] := by
  rw [warnings, if_pos h]
  cases place? errors <;> rfl

theorem warnings_of_passed (h : failed errors = false) :
    warnings errors =
      ((Text.lines errors).filter (errorMarker <:+: ·)).map ("Gradle error: ".toList ++ ·) := by
  have hoccurs : Text.occurs errorMarker = fun line => decide (errorMarker <:+: line) := by
    funext line
    rw [Bool.eq_iff_iff, Text.occurs_iff, decide_eq_true_eq]
  rw [warnings, if_neg (Bool.eq_false_iff.1 h), hoccurs]

theorem tells_warnings (errors : Text) : Tells errors (failed errors) (warnings errors) := by
  cases h : failed errors with
  | true =>
    rw [warnings_of_failed h]
    cases hplace : place? errors with
    | some place => exact .failedAt (failed_iff.1 h) (place?_eq_some_iff.1 hplace)
    | none =>
      refine .failed (failed_iff.1 h) ?_
      rintro before s line rfl hheads
      obtain ⟨place, hfound⟩ := exists_isPlace hheads
      rw [place?_eq_some_iff.2 hfound] at hplace
      cases hplace
  | false =>
    rw [warnings_of_passed h]
    refine .passed (fun hmarker => ?_) (Text.isLines_iff.2 rfl)
    rw [failed_iff.2 hmarker] at h
    cases h

/-- A line that speaks of an error stands in one of the warnings, at the same place. -/
theorem Tells.exists_of_append {isFailed : Bool} {texts : List Text} {before after : Text}
    (h : Tells errors isFailed texts) (hs : errors = before ++ (errorMarker ++ after)) :
    ∃ lead l r, l <:+ before ∧ r <+: after ∧ lead ++ (l ++ (errorMarker ++ r)) ∈ texts := by
  have hwhole : ∃ l r, l <:+ before ∧ r <+: after ∧ errors = l ++ (errorMarker ++ r) :=
    ⟨before, after, List.suffix_rfl, List.prefix_rfl, hs⟩
  cases h with
  | failedAt =>
    obtain ⟨l, r, hl, hr, heq⟩ := hwhole
    refine ⟨"Gradle task failed: ", l, r, hl, hr, ?_⟩
    rw [← heq]
    exact List.mem_cons_of_mem _ (List.mem_singleton_self _)
  | failed =>
    obtain ⟨l, r, hl, hr, heq⟩ := hwhole
    refine ⟨"Gradle task failed: ", l, r, hl, hr, ?_⟩
    rw [← heq]
    exact List.mem_singleton_self _
  | @passed ls hpassed hlines =>
    have hne : errorMarker ≠ [] := List.cons_ne_nil _ _
    obtain ⟨l, r, hl, hr, hline⟩ := hlines.exists_of_append hs hne (by decide)
    refine ⟨"Gradle error: ", l, r, hl, hr, List.mem_map_of_mem ?_⟩
    exact List.mem_filter.2 ⟨hline, decide_eq_true ⟨l, r, List.append_assoc _ _ _⟩⟩

end BuildReport

namespace Invocation

open BuildReport ClasspathProbe.Action

theorem exec_report_eq (errors : Text) (w : World) :
    exec (report errors) w =
      (.ok ⟨⟩, (warnings errors).foldl (fun w text => w.take ⟨logger, Log.warning, text⟩) w) := by
  rw [report]
  induction warnings errors generalizing w with
  | nil => rfl
  | cons text texts ih => exact ih _

/-- **What an error stream says is told, and no line with an error is lost.** -/
theorem report_tells (errors : Text) :
    ∃ texts, Tells errors (failed errors) texts ∧
      (∀ w, exec (report errors) w =
        (.ok ⟨⟩, texts.foldl (fun w text => w.take ⟨logger, Log.warning, text⟩) w)) ∧
      ∀ before after, errors = before ++ (errorMarker ++ after) →
        ∃ lead l r, l <:+ before ∧ r <+: after ∧ lead ++ (l ++ (errorMarker ++ r)) ∈ texts :=
  ⟨warnings errors, tells_warnings errors, exec_report_eq errors,
    fun _ _ => (tells_warnings errors).exists_of_append⟩

end Invocation

end ClasspathProbe
