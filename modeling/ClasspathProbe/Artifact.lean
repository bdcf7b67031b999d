import ClasspathProbe.Failure
import ClasspathProbe.Text

/-!
# Artifacts

What a build puts on its classpath: a compiled artifact and, when it is known, the archive of its
sources. What names the compiled artifact must not be blank: a path is judged by its text, and a
text before it is read as a path. Sets of artifacts are lists without repetition, in the order in
which their members happen to be met. A listing is in the order of the compiled paths
(`byCompiled`); the sources do not count for it.
-/

namespace ClasspathProbe

/-- A resolved artifact: a compiled jar or a directory of classes, and its sources. -/
structure Artifact where
  compiled : Path
  sources : Option Path
deriving DecidableEq

namespace Artifact

/-- The name of the field with the compiled artifact. -/
def compiledField : Text := "compiled_jar"

/-- The name of the field with the sources. -/
def sourcesField : Text := "source_jar"

/-- What names a path: a text that is read as one, or the path itself. -/
inductive Name where
  | text (s : Text)
  | path (p : Path)

namespace Name

def toText : Name → Text
  | .text s => s
  | .path p => p.toText

def toPath : Name → Path
  | .text s => .ofText s
  | .path p => p

end Name

/-- The artifact of named paths, unless the first name is blank. A name is judged as it is given,
and not by the path that is read from it. -/
def ofNames (compiled : Name) (sources : Option Name) : Except Failure Artifact :=
  if compiled.toText.isBlank then .error (.invalid [⟨[compiledField], .emptyArtifact⟩])
  else .ok ⟨compiled.toPath, sources.map Name.toPath⟩

/-- The artifact of two paths, unless the first is blank. -/
def of (compiled : Path) (sources : Option Path) : Except Failure Artifact :=
  if compiled.toText.isBlank then .error (.invalid [⟨[compiledField], .emptyArtifact⟩])
  else .ok ⟨compiled, sources⟩

/-- What is wrong with a value for the compiled artifact, or its path. -/
def readCompiled : Option Value → Except Complaint Path
  | none => .error .missing
  | some v =>
    if v.toText.isBlank then .error .emptyArtifact
    else
      match v with
      | .text s => .ok (.ofText s)
      | _ => .error .notPath

/-- What is wrong with a value for the sources, or their path. -/
def readSources : Option Value → Except Complaint (Option Path)
  | none | some .null => .ok none
  | some (.text s) => .ok (some (.ofText s))
  | some _ => .error .notPath

/-- The artifact that named values describe, or all that is wrong with them. -/
def ofFields (fields : Fields) : Except Failure Artifact :=
  match readCompiled (fields.lookup compiledField), readSources (fields.lookup sourcesField) with
  | .ok compiled, .ok sources => .ok ⟨compiled, sources⟩
  | .error c, .ok _ => .error (.invalid [⟨[compiledField], c⟩])
  | .ok _, .error c => .error (.invalid [⟨[sourcesField], c⟩])
  | .error c, .error d => .error (.invalid [⟨[compiledField], c⟩, ⟨[sourcesField], d⟩])

/-- An artifact never changes: giving one of its fields a value is refused. -/
def assign (_ : Artifact) (field : Text) : Failure := .invalid [⟨[field], .frozen⟩]

/-- Whether a name ends as the name of a jar does. -/
def isJarName (s : Text) : Bool := Text.endsWith ".jar" (Text.asciiLower s)

/-- Whether one optional path comes before another: no path comes first. -/
def sourcesLe : Option Path → Option Path → Bool
  | none, _ => true
  | some _, none => false
  | some p, some q => Text.le p.toText q.toText

/-- Whether an artifact comes before another, or is the same: for one compiled path the sources
decide. -/
def le (a b : Artifact) : Bool :=
  if a.compiled.toText = b.compiled.toText then sourcesLe a.sources b.sources
  else Text.le a.compiled.toText b.compiled.toText

/-- The artifacts of a list, each once, in the one order that does not depend on the list. -/
def inOrder (artifacts : List Artifact) : List Artifact := artifacts.eraseDups.mergeSort le

/-- Whether the compiled path of an artifact comes before that of another, or is the same. -/
def compiledLe (a b : Artifact) : Bool := Text.le a.compiled.toText b.compiled.toText

/-- The artifacts of a list, each once, in the order of their compiled paths. Those with one
compiled path stay in the order of the list. -/
def byCompiled (artifacts : List Artifact) : List Artifact :=
  artifacts.eraseDups.mergeSort compiledLe

/-- The paths of a list, each once, in the order of their texts. -/
def pathsInOrder (paths : List Path) : List Path :=
  paths.eraseDups.mergeSort fun p q => Text.le p.toText q.toText

end Artifact

end ClasspathProbe
