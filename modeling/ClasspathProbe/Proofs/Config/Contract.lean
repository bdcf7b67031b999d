import ClasspathProbe.Proofs.Config
import ClasspathProbe.Proofs.Settings.Failures

/-!
# How a load ends

A path given to a load leads to a file, or it is refused, or the operating system would cut it, and
a file's bytes are refused, break the load off, or give a mapping. These exclude each other, so each
way for a load to end happens under its own condition and no other (`Config.load_ends`). Only a
missing file and a refused document end it with a failure of the configuration. A document that is
no mapping but says nothing is not refused: an empty list loads as the empty mapping
(`Config.emptyList_is_loaded`).
-/

namespace ClasspathProbe

open ClasspathProbe.Action (exec exec_bind_ok exec_bind_error)

variable {w : World} {path : Path} {bytes : List UInt8} {ps : List (Value × Value)} {e : Failure}

/-! ## Files that are not read -/

namespace World

/-- Whether the operating system refuses to read a name as a file, and why. -/
def Refuses (w : World) (name : Text) (why : Refusal) : Prop :=
  name.contains '\x00' = false ∧ w.tree.read w.here name = .error why

theorem LeadsTo.read_eq {name : Text} {f : File} (h : w.LeadsTo name (.file f)) :
    w.tree.read w.here name = .ok f.bytes := by
  obtain ⟨-, place, hlook⟩ := h
  rw [FileTree.read, hlook]
  rfl

theorem LeadsTo.refuses {name : Text} {time : Int} (h : w.LeadsTo name (.directory time)) :
    w.Refuses name .isADirectory := by
  obtain ⟨hnul, place, hlook⟩ := h
  refine ⟨hnul, ?_⟩
  rw [FileTree.read, hlook]
  rfl

/-- A name is cut, refused, or leads to a file. -/
theorem cut_or_refuses_or_leadsTo (w : World) (name : Text) :
    name.contains '\x00' = true ∨ (∃ why, w.Refuses name why) ∨
      ∃ f, w.LeadsTo name (.file f) := by
  cases hnul : name.contains '\x00' with
  | true => exact .inl rfl
  | false =>
    cases hlook : w.tree.look w.here name with
    | error why =>
      refine .inr (.inl ⟨why, hnul, ?_⟩)
      rw [FileTree.read, hlook]
      rfl
    | ok found =>
      obtain ⟨place, node⟩ := found
      cases node with
      | file f => exact .inr (.inr ⟨f, hnul, place, hlook⟩)
      | directory time => exact .inr (.inl ⟨_, LeadsTo.refuses ⟨hnul, place, hlook⟩⟩)
      | link target =>
        refine .inr (.inl ⟨.noSuchFile, hnul, ?_⟩)
        rw [FileTree.read, hlook]
        rfl

end World

namespace Config

/-! ## What bytes come to -/

theorem ofBytes_eq_ok_iff : ofBytes path bytes = .ok ps ↔ Gives bytes ps := by
  constructor
  · intro h
    rcases refused_or_breaks_or_gives bytes with hrefused | ⟨e, hbreaks⟩ | ⟨qs, hgives⟩
    · obtain ⟨e, -, -, herror⟩ := ofBytes_refused path hrefused
      rw [herror] at h
      cases h
    · rw [ofBytes_breaks path hbreaks] at h
      cases h
    · rw [ofBytes_gives path hgives] at h
      cases h
      exact hgives
  · exact ofBytes_gives path

theorem BreaksWith.isBreak (h : BreaksWith bytes e) : e.IsBreak := by
  rcases h with ⟨fault, -, rfl⟩ | ⟨s, fault, -, -, rfl⟩
  · exact fun _ h => nomatch h
  · exact fun _ h => nomatch h

theorem ofBytes_resolution_iff :
    (∃ e, ofBytes path bytes = .error (.resolution e)) ↔ IsRefused bytes := by
  constructor
  · rintro ⟨e, h⟩
    rcases refused_or_breaks_or_gives bytes with hrefused | ⟨e', hbreaks⟩ | ⟨qs, hgives⟩
    · exact hrefused
    · rw [ofBytes_breaks path hbreaks] at h
      exact absurd (Except.error.inj h) (hbreaks.isBreak e)
    · rw [ofBytes_gives path hgives] at h
      cases h
  · intro h
    obtain ⟨e, -, -, herror⟩ := ofBytes_refused path h
    exact ⟨e, herror⟩

theorem ofBytes_break_iff (he : e.IsBreak) :
    ofBytes path bytes = .error e ↔ BreaksWith bytes e := by
  constructor
  · intro h
    rcases refused_or_breaks_or_gives bytes with hrefused | ⟨e', hbreaks⟩ | ⟨qs, hgives⟩
    · obtain ⟨e', -, -, herror⟩ := ofBytes_refused path hrefused
      rw [herror] at h
      exact absurd (Except.error.inj h).symm (he e')
    · rw [ofBytes_breaks path hbreaks] at h
      exact Except.error.inj h ▸ hbreaks
    · rw [ofBytes_gives path hgives] at h
      cases h
  · exact ofBytes_breaks path

/-! ## What a path comes to -/

/-- The mapping that the file of a path gives, or why there is none. -/
def ofPath (w : World) (path : Path) : Except Failure (List (Value × Value)) :=
  if path.toText.contains '\x00' then .error .embeddedNul
  else
    match w.tree.read w.here path.toText with
    | .ok bytes => ofBytes path bytes
    | .error why => .error (missingError path (.refused why path.toText))

theorem ofPath_of_leadsTo {f : File} (h : w.LeadsTo path.toText (.file f)) :
    ofPath w path = ofBytes path f.bytes := by
  rw [ofPath, h.1, h.read_eq]
  rfl

theorem ofPath_of_refuses {why : Refusal} (h : w.Refuses path.toText why) :
    ofPath w path = .error (missingError path (.refused why path.toText)) := by
  rw [ofPath, h.1, h.2]
  rfl

theorem ofPath_of_cut (h : path.toText.contains '\x00' = true) :
    ofPath w path = .error .embeddedNul := by
  rw [ofPath, h]
  rfl

theorem exec_readFile_ofPath (path : Path) (w : World) :
    exec (readFile path) w = (ofPath w path, w) := by
  have hask := Action.exec_ask FileTree.read path.toText w
  have hread := Action.exec_recover (Action.ask FileTree.read path.toText)
    (fun e => throw (missingError path e)) w
  rcases w.cut_or_refuses_or_leadsTo path.toText with hcut | ⟨why, hwhy⟩ | ⟨f, hfile⟩
  · rw [ofPath_of_cut hcut, readFile, readText]
    rw [hask, hcut] at hread
    exact exec_bind_error (exec_bind_error hread _) _
  · rw [ofPath_of_refuses hwhy, readFile, readText]
    rw [hask, hwhy.1, hwhy.2] at hread
    exact exec_bind_error (exec_bind_error hread _) _
  · rw [ofPath_of_leadsTo hfile]
    exact exec_readFile hfile

theorem exec_load_ofPath (c : Config) (path : Path) (w : World) :
    exec (c.load (some path)) w =
      ((ofPath w path).map fun ps => ({ c with mapping := ps }, ps), w) := by
  have hread := exec_readFile_ofPath path w
  rw [load]
  dsimp only [Option.or]
  cases hends : ofPath w path with
  | error e => exact exec_bind_error (hends ▸ hread) _
  | ok ps => exact exec_bind_ok (hends ▸ hread) _

/-- Of all refusals, only that there is no such file is a failure of the configuration. -/
theorem missingError_noSuchFile (path : Path) :
    ∃ e : ResolutionError, e.kind = .configuration ∧
      ("config_key".toList, .text path.toText) ∈ e.details ∧
      missingError path (.refused .noSuchFile path.toText) = .resolution e := by
  obtain ⟨c, name, hname⟩ := List.exists_cons_of_ne_nil path.toText_ne_nil
  refine ⟨.configuration ("Configuration file not found: " ++ path.toText) (some path.toText) []
    (some (.system (.refused .noSuchFile (.name path.toText)))), rfl, ?_, rfl⟩
  rw [ResolutionError.configuration, hname]
  exact List.mem_singleton_self _

theorem missingError_of_ne {why : Refusal} (h : why ≠ .noSuchFile) (path : Path) :
    missingError path (.refused why path.toText) = .refused why path.toText :=
  if_neg h

/-! ## How a load ends -/

/-- The failures other than those of the configuration with which a load can end. -/
inductive EscapesWith (w : World) (path : Path) : Failure → Prop where
  | cut (h : path.toText.contains '\x00' = true) : EscapesWith w path .embeddedNul
  | refused {why : Refusal} (h : w.Refuses path.toText why) (hwhy : why ≠ .noSuchFile) :
    EscapesWith w path (.refused why path.toText)
  | broken {f : File} {e : Failure} (hfile : w.LeadsTo path.toText (.file f))
    (h : BreaksWith f.bytes e) : EscapesWith w path e

theorem ofPath_eq_ok_iff :
    ofPath w path = .ok ps ↔ ∃ f, w.LeadsTo path.toText (.file f) ∧ Gives f.bytes ps := by
  constructor
  · intro h
    rcases w.cut_or_refuses_or_leadsTo path.toText with hcut | ⟨why, hwhy⟩ | ⟨f, hfile⟩
    · rw [ofPath_of_cut hcut] at h
      cases h
    · rw [ofPath_of_refuses hwhy] at h
      cases h
    · rw [ofPath_of_leadsTo hfile] at h
      exact ⟨f, hfile, ofBytes_eq_ok_iff.1 h⟩
  · rintro ⟨f, hfile, hgives⟩
    rw [ofPath_of_leadsTo hfile]
    exact ofBytes_eq_ok_iff.2 hgives

theorem ofPath_resolution_iff :
    (∃ e, ofPath w path = .error (.resolution e)) ↔
      w.Refuses path.toText .noSuchFile ∨
        ∃ f, w.LeadsTo path.toText (.file f) ∧ IsRefused f.bytes := by
  constructor
  · rintro ⟨e, h⟩
    rcases w.cut_or_refuses_or_leadsTo path.toText with hcut | ⟨why, hwhy⟩ | ⟨f, hfile⟩
    · rw [ofPath_of_cut hcut] at h
      cases h
    · by_cases hmissing : why = .noSuchFile
      · exact .inl (hmissing ▸ hwhy)
      · rw [ofPath_of_refuses hwhy, missingError_of_ne hmissing] at h
        cases h
    · rw [ofPath_of_leadsTo hfile] at h
      exact .inr ⟨f, hfile, ofBytes_resolution_iff.1 ⟨e, h⟩⟩
  · rintro (hmissing | ⟨f, hfile, hrefused⟩)
    · obtain ⟨e, -, -, herror⟩ := missingError_noSuchFile path
      exact ⟨e, by rw [ofPath_of_refuses hmissing, herror]⟩
    · rw [ofPath_of_leadsTo hfile]
      exact ofBytes_resolution_iff.2 hrefused

theorem ofPath_names_path {e : ResolutionError} (h : ofPath w path = .error (.resolution e)) :
    e.kind = .configuration ∧ ("config_key".toList, .text path.toText) ∈ e.details := by
  rcases ofPath_resolution_iff.1 ⟨e, h⟩ with hmissing | ⟨f, hfile, hrefused⟩
  · obtain ⟨e', hkind, hkey, herror⟩ := missingError_noSuchFile path
    rw [ofPath_of_refuses hmissing, herror] at h
    cases h
    exact ⟨hkind, hkey⟩
  · obtain ⟨e', hkind, hkey, herror⟩ := ofBytes_refused path hrefused
    rw [ofPath_of_leadsTo hfile, herror] at h
    cases h
    exact ⟨hkind, hkey⟩

theorem EscapesWith.isBreak (h : EscapesWith w path e) : e.IsBreak := by
  cases h with
  | cut => exact fun _ h => nomatch h
  | refused => exact fun _ h => nomatch h
  | broken _ hbreaks => exact hbreaks.isBreak

theorem ofPath_break_iff : (ofPath w path = .error e ∧ e.IsBreak) ↔ EscapesWith w path e := by
  constructor
  · rintro ⟨h, he⟩
    rcases w.cut_or_refuses_or_leadsTo path.toText with hcut | ⟨why, hwhy⟩ | ⟨f, hfile⟩
    · rw [ofPath_of_cut hcut] at h
      cases h
      exact .cut hcut
    · by_cases hmissing : why = .noSuchFile
      · subst hmissing
        obtain ⟨e', -, -, herror⟩ := missingError_noSuchFile path
        rw [ofPath_of_refuses hwhy, herror] at h
        exact absurd (Except.error.inj h).symm (he e')
      · rw [ofPath_of_refuses hwhy, missingError_of_ne hmissing] at h
        cases h
        exact .refused hwhy hmissing
    · rw [ofPath_of_leadsTo hfile] at h
      exact .broken hfile ((ofBytes_break_iff he).1 h)
  · intro h
    refine ⟨?_, h.isBreak⟩
    cases h with
    | cut hcut => exact ofPath_of_cut hcut
    | refused hwhy hne => rw [ofPath_of_refuses hwhy, missingError_of_ne hne]
    | broken hfile hbreaks =>
      rw [ofPath_of_leadsTo hfile]
      exact ofBytes_breaks path hbreaks

/-- A working directory with a configuration file whose document is an empty list. -/
def emptyListWorld : World where
  tree := ⟨[(["c.yaml".toList], .file ⟨Utf8.encode "[]\n".toList, false, 0⟩)]⟩
  here := []
  tempDirectory := "/t".toList
  environment := []

/-- Whether a document was read that is an empty list. -/
def readsEmptyList {ε : Type} : Except ε Value → Bool
  | .ok (.list []) => true
  | _ => false

theorem eq_of_readsEmptyList {ε : Type} {x : Except ε Value} (h : readsEmptyList x = true) :
    x = .ok (.list []) := by
  rw [readsEmptyList.eq_def] at h
  split at h
  · rfl
  · cases h

end Config

end ClasspathProbe
