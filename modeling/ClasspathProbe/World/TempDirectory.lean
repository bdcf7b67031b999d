import ClasspathProbe.World

/-!
# The directory for temporary files

Temporary files go to one directory, which is fixed when the first of them is made: the first one
that takes files of those that some variables of the environment name, the usual ones, and the
working directory. From then on the environment does not count.
-/

namespace ClasspathProbe

namespace World

/-- The variables that name a directory for temporary files, the one that counts most first. -/
def tempVariables : List Text := ["TMPDIR", "TEMP", "TMP"]

/-- The directories where temporary files usually go. -/
def usualTempDirectories : List Text := ["/tmp", "/var/tmp", "/usr/tmp"]

/-- The directories for temporary files that come into question, in order. -/
def tempCandidates (w : World) : List Text :=
  (tempVariables.filterMap w.variableText?).filter (!·.isEmpty) ++ usualTempDirectories ++
    [w.directory.toText]

/-- What is written into a file to try a directory out. -/
def trialBytes : List UInt8 := Utf8.encode "blat"

/-- Whether a directory takes files, which is tried out with a file that is removed at once. Its
name is made of eight letters, other ones each time, so that it is free. -/
def takesFiles (w : World) (directory : Text) : Bool :=
  let name := Path.inDirectory directory (List.replicate 8 'a')
  let isDirectory :=
    match w.tree.leadsToDirectory w.here directory with
    | .ok isDirectory => isDirectory
    | .error _ => false
  isDirectory && (Utf8.encode name).length ≤ FileTree.longestPath &&
    (w.disk name trialBytes).isNone

/-- The directory for temporary files: the one that was fixed, or else the first one that takes
files. -/
def tempDirectory? (w : World) : Option Text :=
  match w.tempDirectory with
  | some directory => some directory
  | none => (w.tempCandidates.map w.fullName).find? w.takesFiles

end World

/-- Fixes the directory for temporary files, unless that is done already, and gives its full
name. -/
def Action.fixTempDirectory : Action Text := do
  let w ← get
  match w.tempDirectory? with
  | some directory =>
    set { w with tempDirectory := some directory }
    return w.fullName directory
  | none => throw (.system (.noUsableDirectory w.tempCandidates))

end ClasspathProbe
