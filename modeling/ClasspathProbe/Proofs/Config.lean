import ClasspathProbe.Config
import ClasspathProbe.Proofs.BuildFile
import ClasspathProbe.Proofs.Path

/-!
# What configuration files hold

The bytes of a configuration file are refused, break the reading off, or give a mapping
(`Config.refused_or_breaks_or_gives`). Reading the file ends accordingly and leaves the world as it
is; what is refused is a failure of the resolution that names the file. What a store gives as a
section is told by the value under the name (`Config.isSection_sectionOf`).
-/

namespace ClasspathProbe.Config

open ClasspathProbe.Action (exec exec_bind_ok exec_bind_error)

variable {bytes : List UInt8}

/-- Whether bytes are a text that is no document, or one whose document says something and is no
mapping. -/
def IsRefused (bytes : List UInt8) : Prop :=
  ∃ s, Utf8.decodeStrict bytes = .ok s ∧
    (Yaml.load (Text.oneLineEnd s) = .error .malformed ∨
      ∃ v, Yaml.load (Text.oneLineEnd s) = .ok v ∧ v.saysSomething = true ∧ ∀ ps, v ≠ .mapping ps)

/-- The failure of bytes that are no text, or whose document has a scalar without a value. -/
def BreaksWith (bytes : List UInt8) (e : Failure) : Prop :=
  (∃ fault, Utf8.decodeStrict bytes = .error fault ∧ e = .undecodable (.utf8 fault.inChunk)) ∨
    ∃ s fault, Utf8.decodeStrict bytes = .ok s ∧
      Yaml.load (Text.oneLineEnd s) = .error (.scalar fault) ∧ e = .badScalar fault

/-- Whether bytes are a document that is a mapping; one that says nothing is the empty mapping. -/
def Gives (bytes : List UInt8) (ps : List (Value × Value)) : Prop :=
  ∃ s v, Utf8.decodeStrict bytes = .ok s ∧ Yaml.load (Text.oneLineEnd s) = .ok v ∧
    (v.saysSomething = true ∧ v = .mapping ps ∨ v.saysSomething = false ∧ ps = [])

theorem refused_or_breaks_or_gives (bytes : List UInt8) :
    IsRefused bytes ∨ (∃ e, BreaksWith bytes e) ∨ ∃ ps, Gives bytes ps := by
  cases hs : Utf8.decodeStrict bytes with
  | error fault => exact .inr (.inl ⟨_, .inl ⟨fault, hs, rfl⟩⟩)
  | ok s =>
    cases hv : Yaml.load (Text.oneLineEnd s) with
    | error fault =>
      cases fault with
      | malformed => exact .inl ⟨s, hs, .inl hv⟩
      | scalar fault => exact .inr (.inl ⟨_, .inr ⟨s, fault, hs, hv, rfl⟩⟩)
    | ok v =>
      cases hsaid : v.saysSomething with
      | false => exact .inr (.inr ⟨[], s, v, hs, hv, .inr ⟨hsaid, rfl⟩⟩)
      | true =>
        by_cases hmapping : ∃ ps, v = .mapping ps
        · obtain ⟨ps, rfl⟩ := hmapping
          exact .inr (.inr ⟨ps, s, _, hs, hv, .inl ⟨hsaid, rfl⟩⟩)
        · exact .inl ⟨s, hs, .inr ⟨v, hv, hsaid, fun ps h => hmapping ⟨ps, h⟩⟩⟩

/-! ## Reading -/

variable {w : World} {path : Path} {f : File}

/-- The mapping that bytes give as the configuration of a path. -/
def ofBytes (path : Path) (bytes : List UInt8) : Except Failure (List (Value × Value)) :=
  match Utf8.decodeStrict bytes with
  | .ok s => parse path (Text.oneLineEnd s)
  | .error fault => .error (.undecodable (.utf8 fault.inChunk))

theorem exec_readFile (h : w.LeadsTo path.toText (.file f)) :
    exec (readFile path) w = (ofBytes path f.bytes, w) := by
  have hask : exec (Action.recover (Action.ask FileTree.read path.toText)
      fun e => throw (missingError path e)) w = (.ok f.bytes, w) := by
    rw [Action.exec_recover, Action.exec_ask_read h]
  rw [readFile, readText, ofBytes]
  cases hs : Utf8.decodeStrict f.bytes with
  | error fault =>
    refine exec_bind_error ?_ _
    rw [exec_bind_ok hask, hs]
    rfl
  | ok s =>
    have htext : exec (readText path) w = (.ok (Text.oneLineEnd s), w) := by
      rw [readText, exec_bind_ok hask, hs]
      rfl
    refine (exec_bind_ok htext _).trans ?_
    dsimp only
    cases parse path (Text.oneLineEnd s) <;> rfl

theorem exec_load (h : w.LeadsTo path.toText (.file f)) (known : List (Value × Value)) :
    exec (load ⟨some path, known⟩ none) w =
      ((ofBytes path f.bytes).map fun ps => (⟨some path, ps⟩, ps), w) := by
  have hread := exec_readFile h
  rw [load]
  dsimp only [Option.or]
  cases hbytes : ofBytes path f.bytes with
  | error e => exact exec_bind_error (hbytes ▸ hread) _
  | ok ps => exact exec_bind_ok (hbytes ▸ hread) _

/-- What is refused is a failure that names the file. -/
theorem ofBytes_refused (path : Path) (h : IsRefused bytes) :
    ∃ e : ResolutionError, e.kind = .configuration ∧
      ("config_key".toList, .text path.toText) ∈ e.details ∧
      ofBytes path bytes = .error (.resolution e) := by
  obtain ⟨s, hs, hdocument⟩ := h
  obtain ⟨c, name, hname⟩ := List.exists_cons_of_ne_nil path.toText_ne_nil
  rw [ofBytes, hs]
  dsimp only
  rw [parse.eq_def]
  obtain hv | ⟨v, hv, hsaid, hv'⟩ := hdocument
  · rw [hv, hname]
    exact ⟨_, rfl, List.mem_cons_of_mem _ (List.mem_singleton_self _), rfl⟩
  · rw [hv, hname]
    dsimp only
    rw [hsaid]
    cases v with
    | mapping ps => exact absurd rfl (hv' ps)
    | _ => exact ⟨_, rfl, List.mem_singleton_self _, rfl⟩

theorem ofBytes_breaks (path : Path) {e : Failure} (h : BreaksWith bytes e) :
    ofBytes path bytes = .error e := by
  obtain ⟨fault, hs, rfl⟩ | ⟨s, fault, hs, hv, rfl⟩ := h
  · rw [ofBytes, hs]
  · rw [ofBytes, hs]
    dsimp only
    rw [parse.eq_def, hv]

theorem ofBytes_gives (path : Path) {ps : List (Value × Value)} (h : Gives bytes ps) :
    ofBytes path bytes = .ok ps := by
  obtain ⟨s, v, hs, hv, hcase⟩ := h
  rw [ofBytes, hs]
  dsimp only
  rw [parse.eq_def, hv]
  dsimp only
  obtain ⟨hsaid, rfl⟩ | ⟨hsaid, rfl⟩ := hcase <;> rw [hsaid] <;> rfl

theorem Gives.unique {ps qs : List (Value × Value)} (h : Gives bytes ps) (h' : Gives bytes qs) :
    ps = qs := by
  have heq := (ofBytes_gives (.ofText []) h).symm.trans (ofBytes_gives (.ofText []) h')
  exact Except.ok.inj heq

theorem of_exec_readFile {ps : List (Value × Value)} {w' : World}
    (h : exec (readFile path) w = (.ok ps, w')) :
    w' = w ∧ ∃ f, w.LeadsTo path.toText (.file f) ∧ Gives f.bytes ps := by
  have hleads : ∃ f, w.LeadsTo path.toText (.file f) := by
    obtain ⟨text, w₁, htext, -⟩ := Action.of_exec_bind h
    obtain ⟨bytes, w₂, hasked, -⟩ := Action.of_exec_bind htext
    rw [Action.exec_recover] at hasked
    generalize hread : exec (Action.ask FileTree.read path.toText) w = r at hasked
    obtain ⟨outcome, w₃⟩ := r
    cases outcome with
    | ok bytes =>
      obtain ⟨f, hleads, -⟩ := Action.of_exec_ask_read hread
      exact ⟨f, hleads⟩
    | error e => cases hasked
  obtain ⟨f, hleads⟩ := hleads
  rw [exec_readFile hleads] at h
  obtain ⟨hbytes, hw⟩ := Prod.mk.inj h
  refine ⟨hw.symm, f, hleads, ?_⟩
  obtain hrefused | ⟨e, hbreaks⟩ | ⟨qs, hgives⟩ := refused_or_breaks_or_gives f.bytes
  · obtain ⟨e, -, -, herror⟩ := ofBytes_refused path hrefused
    rw [herror] at hbytes
    cases hbytes
  · rw [ofBytes_breaks path hbreaks] at hbytes
    cases hbytes
  · rw [ofBytes_gives path hgives] at hbytes
    exact Except.ok.inj hbytes ▸ hgives

theorem of_exec_load {ps : List (Value × Value)} {c : Config} {w' : World}
    (h : exec (load ⟨some path, []⟩ none) w = (.ok (c, ps), w')) :
    w' = w ∧ c = ⟨some path, ps⟩ ∧ ∃ f, w.LeadsTo path.toText (.file f) ∧ Gives f.bytes ps := by
  obtain ⟨qs, w₁, hread, hrest⟩ := Action.of_exec_bind h
  obtain ⟨rfl, hfile⟩ := of_exec_readFile hread
  obtain ⟨hpair, hw⟩ := Prod.mk.inj hrest
  obtain ⟨hc, hps⟩ := Prod.mk.inj (Except.ok.inj hpair)
  rw [← hps, ← hc]
  exact ⟨hw.symm, rfl, hfile⟩

/-! ## Sections -/

/-- Whether pairs are the section of a mapping under a name. -/
inductive IsSection (name : Text) (ps : List (Value × Value)) : List (Value × Value) → Prop where
  | part {qs : List (Value × Value)} (h : Value.find? (.text name) ps = some (.mapping qs)) :
    IsSection name ps qs
  | whole (h : Value.find? (.text name) ps = some (.again .mapping)) : IsSection name ps ps
  | missing (h : Value.find? (.text name) ps = none) : IsSection name ps []
  | other {v : Value} (h : Value.find? (.text name) ps = some v)
    (hpart : ∀ qs, v ≠ .mapping qs) (hwhole : v ≠ .again .mapping) : IsSection name ps []

/-- There is one section under a name. -/
theorem IsSection.eq_sectionOf {c : Config} {name : Text} {pairs : List (Value × Value)}
    (h : IsSection name c.mapping pairs) : pairs = c.sectionOf name := by
  rw [sectionOf]
  cases h with
  | part hfind => rw [hfind]
  | whole hfind => rw [hfind]
  | missing hfind => rw [hfind]
  | other hfind hpart hwhole =>
    rw [hfind]
    split
    · next qs heq => exact absurd (Option.some.inj heq) (hpart qs)
    · next heq => exact absurd (Option.some.inj heq) hwhole
    · rfl

theorem isSection_sectionOf (c : Config) (name : Text) :
    IsSection name c.mapping (c.sectionOf name) := by
  rw [sectionOf]
  split
  · next qs h => exact .part h
  · next h => exact .whole h
  · next hpart hwhole =>
    cases h : Value.find? (.text name) c.mapping with
    | none => exact .missing h
    | some v =>
      refine .other h (fun qs hv => ?_) fun hv => ?_
      · exact hpart qs (hv ▸ h)
      · exact hwhole (hv ▸ h)

end ClasspathProbe.Config
