import ClasspathProbe.CommandLine

/-!
# Command lines of a resolution

What a command line asks for (`Line`), whichever way its words spell it (`Line.Reads`); the words of
the usage line are one such way (`Line.reads_usage`).
-/

namespace ClasspathProbe.CommandLine

/-- A command line that asks for a classpath. -/
structure Line where
  config : Option Text
  verbose : Bool
  command : Command
  path : Text
  json : Bool

namespace Line

def commandName : Command → Text
  | .classpath => "classpath"
  | .buildScript => "buildscript"
  | .version => "version"

/-- The words of a command line in the order of the usage line. -/
def usage (l : Line) : List Text :=
  (l.config.elim [] fun name => ["--config".toList, name]) ++
    (if l.verbose then ["--verbose".toList] else []) ++ [commandName l.command, l.path] ++
    (if l.json then ["--json".toList] else [])

/-- Whether words are accepted as a command line: options, the command, its options and its path,
with no question for the version or for help among them. -/
def Reads (l : Line) (words : List Text) : Prop :=
  ∃ common name rest target,
    commonGrammar.read words = .ok common ∧ common.operands = name :: rest ∧
    commands.lookup name = some l.command ∧ l.command.grammar.read rest = .ok target ∧
    target.operands = [l.path] ∧
    (∀ s ∈ common.switches ++ target.switches, s.1 ≠ .version ∧ s.1 ≠ .help) ∧
    common.value? .config = l.config ∧ common.has .verbose = l.verbose ∧
    target.has .json = l.json

theorem lookup_commandName (c : Command) : commands.lookup (commandName c) = some c := by
  cases c <;> rfl

theorem readAfter_operand {g : Grammar} (hg : g.interspersed = true) {word : Text}
    (h : ¬(word.head? = some '-' ∧ word.length > 1)) {words : List Text} {more : Words}
    (hmore : g.readAfter none words = .ok more) :
    g.readAfter none (word :: words) = .ok { more with operands := word :: more.operands } := by
  have hend : word ≠ ['-', '-'] := by
    rintro rfl
    exact h ⟨rfl, by decide⟩
  rw [Grammar.readAfter, if_neg hend, if_neg h, if_pos hg, hmore]
  rfl

/-- The path of a command line, and whether the word for JSON is behind it. -/
theorem read_target {c : Command} (hc : c ≠ .version) {path : Text}
    (hpath : ¬(path.head? = some '-' ∧ path.length > 1)) (json : Bool) :
    c.grammar.read (path :: if json then ["--json".toList] else []) =
      .ok ⟨if json then [(.json, [])] else [], [path]⟩ := by
  have hg : c.grammar.interspersed = true := by
    cases c <;> rfl
  have hmore : c.grammar.readAfter none (if json then ["--json".toList] else []) =
      .ok ⟨if json then [(.json, [])] else [], []⟩ := by
    cases c with
    | version => exact absurd rfl hc
    | classpath => cases json <;> rfl
    | buildScript => cases json <;> rfl
  exact readAfter_operand hg hpath hmore

/-- The words in front of a command. -/
theorem read_common (config : Option Text) (verbose : Bool) (c : Command) (rest : List Text) :
    commonGrammar.read ((config.elim [] fun name => ["--config".toList, name]) ++
      (if verbose then ["--verbose".toList] else []) ++ commandName c :: rest) =
      .ok ⟨(config.elim [] fun name => [(.config, name)]) ++
        if verbose then [(.verbose, [])] else [], commandName c :: rest⟩ := by
  cases config <;> cases verbose <;> cases c <;> rfl

theorem reads_usage {l : Line} (hc : l.command ≠ .version)
    (hpath : ¬(l.path.head? = some '-' ∧ l.path.length > 1)) : l.Reads l.usage := by
  obtain ⟨config, verbose, c, path, json⟩ := l
  have hcommon := read_common config verbose c (path :: if json then ["--json".toList] else [])
  have husage : usage ⟨config, verbose, c, path, json⟩ =
      (config.elim [] fun name => ["--config".toList, name]) ++
        (if verbose then ["--verbose".toList] else []) ++
        commandName c :: path :: if json then ["--json".toList] else [] := by
    simp only [usage, List.append_assoc, List.cons_append, List.nil_append]
  rw [← husage] at hcommon
  refine ⟨_, _, _, _, hcommon, rfl, lookup_commandName c, read_target hc hpath json, rfl,
    ?_, ?_, ?_, ?_⟩
  · cases config <;> cases verbose <;> cases json <;> simp
  · cases config <;> cases verbose <;> rfl
  · cases config <;> cases verbose <;> rfl
  · cases json <;> rfl

end Line

end ClasspathProbe.CommandLine
