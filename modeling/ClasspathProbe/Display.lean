import ClasspathProbe.Artifact
import ClasspathProbe.Display.Markup
import ClasspathProbe.Json.Writer

/-!
# Display

How results are shown: as items for a console, or as JSON. Every listing is in the order of the
paths that it lists, the compiled ones for artifacts, and lists each artifact or path once.
-/

namespace ClasspathProbe

/-- Something shown on a console, as markup. -/
inductive Item where
  | blank
  | panel (title body border : Text)
  | table (title : Text) (columns : List Text) (rows : List (List Text))
  | text (line : Text)
deriving DecidableEq

namespace Display

def error (title message : Text) : List Item :=
  [.blank, .panel (Markup.bold title) ("[bold red]" ++ Markup.escaped message ++ "[/]") "red"]

/-- A piece of information in a blue frame. -/
def info (title message : Text) : List Item :=
  [.blank, .panel (Markup.bold title) (Markup.escaped message) "blue"]

/-- A path in a cell of a table. -/
def cell (p : Path) : Text := Markup.escaped p.toText

/-- The title of a table about a project. -/
def titleOf (what project : Text) : Text :=
  "[bold]" ++ what ++ " of " ++ Markup.escaped project ++ "[/]"

/-- The artifacts of a project as a table, with their number below it. -/
def classpath (project : Text) (artifacts : List Artifact) : List Item :=
  let listed := Artifact.byCompiled artifacts
  if listed.isEmpty then
    info "Classpath" ("No dependencies resolved for '" ++ project ++ "'")
  else
    let row (a : Artifact) : List Text := [cell a.compiled, a.sources.elim "[dim]-[/]" cell]
    [.table (titleOf "Classpath" project) ["Compiled", "Sources"] (listed.map row),
      .text ("[dim]" ++ Text.ofNat listed.length ++ " entries[/]")]

/-- The paths that the build scripts of a project see, as a table. -/
def buildScriptClasspath (project : Text) (jars : List Path) : List Item :=
  let listed := Artifact.pathsInOrder jars
  if listed.isEmpty then
    info "Build script classpath" ("No build script dependencies for '" ++ project ++ "'")
  else [.table (titleOf "Build script classpath" project) ["Jar"] (listed.map fun p => [cell p])]

def artifactJson (a : Artifact) : Json :=
  .object [(Artifact.compiledField, .text a.compiled.toText),
    (Artifact.sourcesField, a.sources.elim .null fun p => .text p.toText)]

/-- Artifacts as the text of a JSON document. -/
def artifactsText (artifacts : List Artifact) : Text :=
  Json.indented (.list ((Artifact.byCompiled artifacts).map artifactJson))

/-- Paths as the text of a JSON document. -/
def pathsText (paths : List Path) : Text :=
  Json.indented (.list ((Artifact.pathsInOrder paths).map fun p => .text p.toText))

end Display

end ClasspathProbe
