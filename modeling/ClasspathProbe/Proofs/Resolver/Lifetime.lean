import ClasspathProbe.Proofs.Resolver.Alike
import ClasspathProbe.World.Edit

/-!
# The settings of a resolver

In a session resolvers are made and asked, and in between the environment, data files and the
settings read for everybody change (`Session.Step`). A resolver keeps the settings that it was made
with, and as long as the search path stays, and the directory for temporary files once calls have
fixed it, its calls end as if nothing else had changed (`Session.lives_with_settings`).
-/

namespace ClasspathProbe

open ClasspathProbe.Action (exec)

/-! ## Data files -/

namespace FileTree

variable {t : FileTree} {here : Location}

/-- A tree in which the file that a path leads to holds some bytes. A file that is not there is made
in its directory. -/
def withData (t : FileTree) (here : Location) (path : Text) (bytes : List UInt8) : FileTree :=
  match t.locate here .output path with
  | .ok (.found place (.file f)) => t.insert place (.file { f with bytes })
  | .ok (.free directory name) => t.insert (directory ++ [name]) (.file ⟨bytes, false, 0⟩)
  | _ => t

/-- A tree without the file of a name, unless it may be executed. -/
def withoutData (t : FileTree) (here : Location) (path : Text) : FileTree :=
  match t.locate here .entry path with
  | .ok (.found place (.file f)) => if f.executable then t else t.erase place
  | _ => t

theorem ne_nil_of_file {place : Location} {f : File} (h : t.node? place = some (.file f)) :
    place ≠ [] := by
  rintro rfl
  rw [node?_nil] at h
  cases h

theorem withData_alike (t : FileTree) (here : Location) (path : Text) (bytes : List UInt8) :
    Alike t (t.withData here path bytes) := by
  rw [withData]
  split
  · next place f hloc =>
    have hfile := node?_of_locate_file hloc
    refine .insert t (ne_nil_of_file hfile) ?_
    rw [hfile]
    rfl
  · next directory name hloc =>
    have hnone : t.node? (directory ++ [name]) = none := locate_tells hloc
    refine .insert t (by simp) ?_
    rw [hnone]
    rfl
  · exact .refl t

theorem withoutData_alike (t : FileTree) (here : Location) (path : Text) :
    Alike t (t.withoutData here path) := by
  rw [withoutData]
  split
  · next place f hloc =>
    have hfile := node?_of_locate_file hloc
    split
    · exact .refl t
    · next hdata =>
      refine .erase t (ne_nil_of_file hfile) ?_
      rw [hfile, outlineOf, if_neg hdata]
  · exact .refl t

end FileTree

/-! ## Sessions -/

namespace Session

/-- The world of a session and the resolvers that were made in it. -/
structure State where
  world : World
  resolvers : List Resolver

/-- A step of a session. -/
inductive Step where
  /-- The environment is set. -/
  | environment (entries : List (Text × Text))
  /-- A data file is written. -/
  | write (path : Text) (bytes : List UInt8)
  /-- A data file is removed. -/
  | remove (path : Text)
  /-- The settings of everybody are forgotten. -/
  | forget
  /-- The settings of everybody are asked for. -/
  | common
  /-- Settings are read anew, for nobody else. -/
  | load
  /-- Settings are read from a file. -/
  | readFile (path : Path)
  /-- A resolver is made. -/
  | make (file : Path) (given : Option GradleSettings) (machine : Machine)
  /-- A resolver is asked. -/
  | call (resolver : Nat) (p : Probe)

/-- Whether a step leaves the search path alone, and as long as the directory for temporary files is
still to be fixed, the variables that name one. -/
def Step.LeavesAlone (w : World) : Step → Prop
  | .environment entries =>
    entries.lookup "PATH".toList = w.variableText? "PATH" ∧
      (w.tempDirectory = none →
        ∀ name ∈ World.tempVariables, entries.lookup name = w.variableText? name)
  | _ => True

namespace State

def next (s : State) : Step → State
  | .environment entries => { s with world := { s.world with environment := entries } }
  | .write path bytes =>
    { s with world := s.world.edit fun tree => tree.withData s.world.here path bytes }
  | .remove path => { s with world := s.world.edit fun tree => tree.withoutData s.world.here path }
  | .forget => { s with world := (exec Settings.forget s.world).2 }
  | .common => { s with world := (exec Settings.common s.world).2 }
  | .load => { s with world := (exec Settings.load s.world).2 }
  | .readFile path => { s with world := (exec (Settings.ofFile path) s.world).2 }
  | .make file given machine =>
    match exec (Resolver.make? file given machine) s.world with
    | (.ok (some r), w) => ⟨w, s.resolvers ++ [r]⟩
    | (_, w) => { s with world := w }
  | .call i p =>
    match s.resolvers[i]? with
    | some r => { s with world := Call.after s.world ⟨r, p⟩ }
    | none => s

def run (s : State) (steps : List Step) : State := steps.foldl next s

/-- Whether all steps of a session leave these variables alone. -/
def LeavesAlone (s : State) : List Step → Prop
  | [] => True
  | step :: steps => step.LeavesAlone s.world ∧ (s.next step).LeavesAlone steps

/-! A resolver stays where it is, and with it its settings. -/

theorem getElem?_next {s : State} {i : Nat} {r : Resolver} (h : s.resolvers[i]? = some r)
    (step : Step) : (s.next step).resolvers[i]? = some r := by
  cases step with
  | make file given machine =>
    rw [next]
    split
    · rw [List.getElem?_append_left (List.getElem?_eq_some_iff.1 h).1, h]
    · exact h
  | call j p =>
    rw [next]
    split <;> exact h
  | _ => exact h

theorem getElem?_run {s : State} {i : Nat} {r : Resolver} (h : s.resolvers[i]? = some r)
    (steps : List Step) : (s.run steps).resolvers[i]? = some r := by
  induction steps generalizing s with
  | nil => exact h
  | cons step steps ih => exact ih (getElem?_next h step)

/-! As long as these variables stay, so does all that a call depends on. -/

theorem cached_alike (w : World) (cached : Option Settings) : w.Alike { w with cached } :=
  ⟨rfl, rfl, rfl, rfl, .refl _⟩

theorem next_alike {s : State} {step : Step} (h : step.LeavesAlone s.world) :
    s.world.Alike (s.next step).world := by
  have hframe := World.Alike.frame
  cases step with
  | environment entries => exact World.alike_of_tree rfl rfl (.inl rfl) h.1 h.2 (.refl _)
  | write path bytes =>
    exact World.alike_of_tree rfl rfl (.inl rfl) rfl (fun _ _ _ => rfl)
      (FileTree.withData_alike _ _ path bytes)
  | remove path =>
    exact World.alike_of_tree rfl rfl (.inl rfl) rfl (fun _ _ _ => rfl)
      (FileTree.withoutData_alike _ _ path)
  | forget => exact cached_alike s.world none
  | common => exact Settings.common_keeps hframe (fun w s => cached_alike w (some s)) s.world
  | load => exact Settings.load_keeps hframe s.world
  | readFile path => exact Settings.ofFile_keeps hframe path s.world
  | make file given machine =>
    have hkeeps := Resolver.make?_keeps hframe (fun w s => cached_alike w (some s)) file given
      machine s.world
    rw [next]
    split
    · next hmade =>
      rw [hmade] at hkeeps
      exact hkeeps
    · next hmade =>
      rw [hmade] at hkeeps
      exact hkeeps
  | call i p =>
    rw [next]
    split
    · next r hr => exact Call.after_alike s.world ⟨r, p⟩
    · exact .refl _

theorem run_alike {s : State} {steps : List Step} (h : s.LeavesAlone steps) :
    s.world.Alike (s.run steps).world := by
  induction steps generalizing s with
  | nil => exact .refl _
  | cons step steps ih => exact (next_alike h.1).trans (ih h.2)

theorem getElem?_make {s : State} {file : Path} {given : Option GradleSettings} {m : Machine}
    {r : Resolver} {w : World}
    (h : exec (Resolver.make? file given m) s.world = (.ok (some r), w)) :
    (s.next (.make file given m)).resolvers[s.resolvers.length]? = some r := by
  rw [next, h]
  exact List.getElem?_concat_length

end State

open State (getElem?_make getElem?_run next_alike run_alike)

/-- A project without a wrapper, a directory that a variable names for temporary files, with the
name of such a file taken, two directories with a build tool, the first of which is searched, and
settings that were read for everybody. -/
def twoTools : State where
  world :=
    { tree := ⟨[(["p".toList], .directory 0), (["t".toList], .directory 0),
        (["t".toList, "classpath00000002".toList], .directory 0),
        (["a".toList], .directory 0), (["a".toList, "gradle".toList], .file ⟨[], true, 0⟩),
        (["b".toList], .directory 0), (["b".toList, "gradle".toList], .file ⟨[], true, 0⟩)]⟩
      here := []
      tempDirectory := none
      environment := [("PATH".toList, "/a".toList), ("TMPDIR".toList, "/t".toList)]
      cached := some {
        gradle := { consoleFlag := "--quiet".toList, tempPrefix := "probe".toList } } }
  resolvers := []

/-- A machine that searches the search path, and whose build tool reports one jar. -/
def searchingMachine : Machine where
  isWindows := false
  which := Program.find?
  run := fun _ _ _ => .ok ("kotlin-lsp-gradle /a.jar\n".toList, [])

def projectFile : Path := .ofText "/p/build.gradle.kts".toList

/-- The resolver of the project, with the settings of everybody. -/
def projectResolver : Resolver where
  buildFile := projectFile
  kotlinDsl := true
  settings := { consoleFlag := "--quiet".toList, tempPrefix := "probe".toList }
  machine := searchingMachine

/-- Other settings for everybody, and a data file with yet others. -/
def unsettling : List Step :=
  [.environment [("CLASSPATH_GRADLE_COMMAND".toList, "mvn".toList), ("PATH".toList, "/a".toList),
      ("TMPDIR".toList, "/t".toList)],
    .write "/p/.env".toList (Utf8.encode "CLASSPATH_GRADLE_CONSOLE_FLAG=--loud".toList), .forget,
    .make projectFile (some { tempPrefix := "other".toList }) searchingMachine]

theorem projectResolver_isSteady : projectResolver.IsSteady where
  which hhere halike := halike.find?_eq hhere _
  run _ _ _ _ _ _ _ := rfl

theorem make?_projectResolver :
    exec (Resolver.make? projectFile none searchingMachine) twoTools.world =
      (.ok (some projectResolver), twoTools.world) := rfl

/-- The session once the resolver of the project was made. -/
def projectMade : State := twoTools.next (.make projectFile none searchingMachine)

theorem leavesAlone_unsettling : projectMade.LeavesAlone unsettling := by
  refine ⟨⟨rfl, fun _ name hname => ?_⟩, trivial, trivial, trivial, trivial⟩
  simp only [World.tempVariables, List.mem_cons, List.not_mem_nil, or_false] at hname
  rcases hname with rfl | rfl | rfl <;> rfl

/-- The resolver of the project with settings that put temporary files into other directories. -/
def slashedResolver : Resolver := { projectResolver with settings := { tempSuffix := "/x".toList } }

/-- Another directory for temporary files. -/
def moved : List Step :=
  [.environment [("PATH".toList, "/a".toList), ("TMPDIR".toList, "/b".toList)]]

def toolPath : Path := .ofText "/a/gradle".toList

/-- Files in directories with different first letters make different command lines. -/
theorem commandAt_ne (n n' : Nat) :
    projectResolver.commandAt .project (projectMade.run []).world "/t".toList toolPath n ≠
      projectResolver.commandAt .project (projectMade.run moved).world "/b".toList toolPath n' := by
  intro hsame
  have hscript := congrArg (fun command : List Text => command[2]?) hsame
  have hparts := congrArg (fun p : Path => p.parts.head?)
    (Path.toText_inj.1 (Option.some.inj hscript))
  have hfirst : some "t".toList = some "b".toList := hparts
  exact absurd hfirst (by decide)

/-- A call for the project in whose world its script gets into a file and the tool is found runs the
tool at the end. -/
theorem deeds_toolPath {w : World} {directory : Text} (hhere : w.tree.Grounded w.here)
    (hscript : Probe.MakesFile projectResolver.settings
      (w.take (projectResolver.announcement .project)) (Probe.bytes .project))
    (hfind : (exec (Wrapper.find searchingMachine projectResolver.settings
      projectResolver.directory) w).1 = .ok toolPath)
    (hdirectory : w.tempDirectory? = some directory) :
    ∃ n asked files, Call.deeds w ⟨projectResolver, .project⟩ =
      asked ++ [.ran (projectResolver.commandAt .project w directory toolPath n)
        projectResolver.directory files] := by
  obtain ⟨directory', n, asked, files, hdirectory', hdeeds⟩ :=
    Call.ran (r := projectResolver) (fun e => Resolver.not_noScript hscript) hhere
      (fun halike => halike.find?_eq hhere _) hfind
  obtain rfl := Option.some.inj (hdirectory.symm.trans hdirectory')
  exact ⟨n, asked, files, hdeeds⟩

end Session

end ClasspathProbe
