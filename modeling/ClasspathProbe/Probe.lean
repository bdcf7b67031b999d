import ClasspathProbe.FileTree

/-!
# Probe scripts

The scripts that are injected into a build to make it print its artifacts. Each registers one task;
running the task prints a marker line for each artifact.
-/

namespace ClasspathProbe

/-- A probe: for the classpath of a project, or for that of its build scripts. -/
inductive Probe where
  | project
  | buildScripts
deriving DecidableEq, Repr

namespace Probe

/-- The name of the script of a probe. -/
def scriptName : Probe → Text
  | .project => "projectClassPathFinder.gradle"
  | .buildScripts => "kotlinDSLClassPathFinder.gradle"

/-- The task that the script of a probe registers. -/
def task : Probe → Text
  | .project => "kotlinLSPProjectDeps"
  | .buildScripts => "kotlinLSPKotlinDSLDeps"

/-- The lines of the script that reports what a project is compiled against. -/
def projectLines : List String :=
  ["import org.gradle.jvm.JvmLibrary",
   "import org.gradle.language.base.artifact.SourcesArtifact",
   "",
   "allprojects \x7b project ->",
   "    task kotlinLSPProjectDeps \x7b task ->",
   "        doLast \x7b",
   "            System.out.println \"\"",
   "            System.out.println \"gradle-version $gradleVersion\"",
   "            System.out.println \"kotlin-lsp-project $\x7bproject.name\x7d\"",
   "",
   "            if (project.hasProperty('sourceSets')) \x7b",
   "                project.sourceSets.each \x7b sourceSet ->",
   "                    sourceSet.output.classesDirs.each \x7b dir ->",
   "                        System.out.println \"kotlin-lsp-gradle $\x7bdir.absolutePath\x7d\"",
   "                    \x7d",
   "                    if (sourceSet.output.resourcesDir != null) \x7b",
   "                        System.out.println \"kotlin-lsp-gradle $\x7bsourceSet" ++
     ".output.resourcesDir.absolutePath\x7d\"",
   "                    \x7d",
   "                \x7d",
   "            \x7d",
   "",
   "            def configurationNames = ['compileClasspath', 'testCompileClasspath'," ++
     " 'kaptClasspath_kaptKotlin']",
   "            configurationNames",
   "                .collect \x7b project.configurations.findByName(it) \x7d",
   "                .findAll \x7b it != null && it.canBeResolved \x7d",
   "                .each \x7b configuration ->",
   "                    def artifacts = configuration.resolvedConfiguration" ++
     ".lenientConfiguration.artifacts",
   "                    def componentIds = artifacts.collect \x7b it.id.componentIdentifier \x7d",
   "",
   "                    def sourcesByComponent = [:]",
   "                    project.dependencies.createArtifactResolutionQuery()",
   "                        .forComponents(componentIds)",
   "                        .withArtifacts(JvmLibrary, SourcesArtifact)",
   "                        .execute()",
   "                        .resolvedComponents",
   "                        .each \x7b component ->",
   "                            def sources = component.getArtifacts(SourcesArtifact)",
   "                                .findAll \x7b it instanceof org.gradle.api" ++
     ".artifacts.result.ResolvedArtifactResult \x7d",
   "                                .collect \x7b it.file \x7d",
   "                            if (!sources.isEmpty()) \x7b",
   "                                sourcesByComponent[component.id] = sources.first()",
   "                            \x7d",
   "                        \x7d",
   "",
   "                    artifacts.each \x7b artifact ->",
   "                        def source = sourcesByComponent[artifact.id.componentIdentifier]",
   "                        if (source != null) \x7b",
   "                            System.out.println \"kotlin-lsp-gradle-src" ++
     " $\x7bartifact.file.absolutePath\x7d|$\x7bsource.absolutePath\x7d\"",
   "                        \x7d else \x7b",
   "                            System.out.println \"kotlin-lsp-gradle $\x7bartifact" ++
     ".file.absolutePath\x7d\"",
   "                        \x7d",
   "                    \x7d",
   "                \x7d",
   "        \x7d",
   "    \x7d",
   "\x7d"]

/-- The lines of the script that reports what build scripts see. -/
def buildScriptLines : List String :=
  ["allprojects \x7b project ->",
   "    task kotlinLSPKotlinDSLDeps \x7b task ->",
   "        doLast \x7b",
   "            System.out.println \"\"",
   "            System.out.println \"gradle-version $gradleVersion\"",
   "",
   "            fileTree(\"$\x7bgradle.gradleHomeDir\x7d/lib\")",
   "                .findAll \x7b it.name.endsWith('.jar') \x7d",
   "                .each \x7b System.out.println \"kotlin-lsp-gradle $\x7bit" ++
     ".absolutePath\x7d\" \x7d",
   "",
   "            def accessors = new File(gradle.gradleUserHomeDir, 'caches')",
   "            if (accessors.isDirectory()) \x7b",
   "                fileTree(accessors)",
   "                    .matching \x7b include '**/kotlin-dsl/accessors/**/*.jar' \x7d",
   "                    .each \x7b System.out.println \"kotlin-lsp-gradle $\x7bit" ++
     ".absolutePath\x7d\" \x7d",
   "            \x7d",
   "",
   "            project.buildscript.configurations",
   "                .findAll \x7b it.canBeResolved \x7d",
   "                .each \x7b configuration ->",
   "                    configuration.resolvedConfiguration.lenientConfiguration.files.each \x7b",
   "                        System.out.println \"kotlin-lsp-gradle $\x7bit.absolutePath\x7d\"",
   "                    \x7d",
   "                \x7d",
   "        \x7d",
   "    \x7d",
   "\x7d"]

/-- The lines of the script of a probe. -/
def scriptLines : Probe → List String
  | .project => projectLines
  | .buildScripts => buildScriptLines

/-- The script of a probe, every line of it ended by a line feed. -/
def script (p : Probe) : Text := p.scriptLines.flatMap fun line => line.toList ++ ['\n']

/-- The bytes of the script of a probe. -/
def bytes (p : Probe) : List UInt8 := Utf8.encode p.script

/-- The directory that holds the scripts, in the tree of what belongs to this library. -/
def directory : Location := ["resources"]

/-- The scripts as files. -/
def resources : FileTree :=
  ⟨[(directory, .directory 0),
    (directory ++ [scriptName .project], .file ⟨bytes .project, false, 0⟩),
    (directory ++ [scriptName .buildScripts], .file ⟨bytes .buildScripts, false, 0⟩)]⟩

/-- How messages show the directory with the scripts. -/
def shownDirectory : Text := "<resources>"

/-- The names that stand behind the word `task` in a script. -/
def tasksIn : Text → List Text
  | [] => []
  | c :: s =>
    match Text.after? "task " (c :: s) with
    | some rest =>
      let name := rest.takeWhile fun d => d.isAlphanum || d = '_'
      if name.isEmpty then tasksIn s else name :: tasksIn s
    | none => tasksIn s

end Probe

end ClasspathProbe
