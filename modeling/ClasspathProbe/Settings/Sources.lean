import ClasspathProbe.Config
import ClasspathProbe.EnvFile
import ClasspathProbe.Json.Reader
import ClasspathProbe.Settings.Field
import ClasspathProbe.Settings.Lookup

/-!
# Where settings come from

Each field of a section of settings is looked for in four places, and the first that has it decides:
values given to it, the environment, an environment file in the working directory, its default.
Names in the environment count in any case. What one field is set to has no influence on another.
-/

namespace ClasspathProbe

/-- Gives what a reading gives, or breaks off. -/
def Action.ofExcept {α : Type} (x : Except Failure α) : Action α :=
  match x with
  | .ok a => return a
  | .error e => throw e

/-- The places outside a program where settings are looked for, and how. -/
structure Surroundings where
  lookup : Lookup
  environment : List (Text × Text) := []
  envFile : List (Text × Option Text) := []

namespace Surroundings

/-- The text that the surroundings have under a name. -/
def text? (s : Surroundings) (name : Text) : Option Text :=
  match s.lookup.last? name s.environment with
  | some v => some v
  | none => (s.lookup.last? name s.envFile).join

/-- The value for a field of a section. -/
def value? (s : Surroundings) (fields : Fields) (name : Text) : Option Value :=
  match s.lookup.given? fields name with
  | some v => some v
  | none => (s.text? (s.lookup.start ++ name)).map s.lookup.valueOf

/-- The name of the logger that warns about lines of environment files. -/
def envFileLogger : Text := "dotenv.main"

/-- The warning about a line of an environment file that cannot be read. -/
def unreadableLine (number : Nat) : Text :=
  "python-dotenv could not parse statement starting at line " ++ Text.ofNat number

/-- The values of an environment file, if it is there. Lines that cannot be read are warned
about. -/
def readEnvFile (encoding : Except Failure Encoding) (file : Path) :
    Action (List (Text × Option Text)) := do
  if ← Action.isFile file then
    let encoding ← Action.ofExcept encoding
    let bytes ← Action.ask FileTree.read file.toText
    let text ← Action.ofExcept ((encoding.decode bytes).mapError .undecodable)
    let lines := EnvFile.ofText (Text.oneLineEnd text)
    for number in EnvFile.unreadable lines do
      Action.log envFileLogger Log.warning (unreadableLine number)
    return EnvFile.values (← get).environment lines
  else return []

/-- The surroundings of this moment, looked at in a certain way. -/
def now (lookup : Lookup) : Action Surroundings := do
  let files ← lookup.files.mapM (readEnvFile lookup.encoding)
  let environment := (← get).environment
  return {
    lookup
    environment := environment.filter fun p => !(lookup.skipsEmpty && p.2.isEmpty)
    envFile := files.flatten.filter fun p => !(lookup.skipsEmpty && p.2 = some []) }

/-- A mapping whose keys have the spelling of the fields that they name in any case; of several keys
for one field the last counts. -/
def respelled (fieldNames : List Text) : Value → Value
  | .mapping ps =>
    .mapping (ps.foldl (fun known (k, v) =>
      let key :=
        match k with
        | .text s => .text ((fieldNames.find? (· = Text.asciiLower s)).getD s)
        | k => k
      Value.store key v known) [])
  | v => v

/-- The document that a text in the surroundings holds for a whole section; null is as if there was
no text. -/
def document (field : Text) (fieldNames : List Text) (source : SectionSource)
    (text : Option Text) : Except Failure (Option Value) :=
  match text with
  | none => .ok none
  | some s =>
    match Json.read? s with
    | none => .error (.unreadableSection field source)
    | some .null => .ok none
    | some v => .ok (some (respelled fieldNames v.toValue))

/-- Two values for one section, the first of which counts more: mappings are put together. -/
def overlay : (fuel : Nat) → (upper lower : Value) → Value
  | 0, upper, _ => upper
  | fuel + 1, .mapping us, .mapping ls =>
    .mapping (us.foldl (fun known (k, v) =>
      match Value.find? k known with
      | some old => Value.store k (overlay fuel v old) known
      | none => Value.store k v known) ls)
  | _, upper, _ => upper

/-- The values that the surroundings have for the sections as wholes. -/
def sections (s : Surroundings) : Except Failure (Option Value × Option Value) := do
  let logging (source : SectionSource) (text : Option Text) :=
    document "logging" LoggingSettings.fieldNames source text
  let gradle (source : SectionSource) (text : Option Text) :=
    document "gradle" GradleSettings.fieldNames source text
  let inEnvironment (name : Text) := s.lookup.last? (s.lookup.start ++ name) s.environment
  let inFile (name : Text) := (s.lookup.last? (s.lookup.start ++ name) s.envFile).join
  let upperLogging ← logging .environment (inEnvironment "logging")
  let upperGradle ← gradle .environment (inEnvironment "gradle")
  let lowerLogging ← logging .envFile (inFile "logging")
  let lowerGradle ← gradle .envFile (inFile "gradle")
  let both (upper lower : Option Value) : Option Value :=
    match upper, lower with
    | some u, some l => some (overlay 100 u l)
    | some u, none => some u
    | none, l => l
  return (both upperLogging lowerLogging, both upperGradle lowerGradle)

end Surroundings

/-- The logging settings made of given values and the surroundings. -/
def LoggingSettings.make (fields : Fields) : Action LoggingSettings := do
  let s ← Surroundings.now (← Action.ofExcept (Lookup.ofFields variableStart "level" fields))
  Action.ofExcept (ofValues (s.value? fields))

/-- The build tool settings made of given values and the surroundings. -/
def GradleSettings.make (fields : Fields) : Action GradleSettings := do
  let s ← Surroundings.now (← Action.ofExcept (Lookup.ofFields variableStart "command" fields))
  Action.ofExcept (ofValues (s.value? fields))

namespace Settings

/-- How the sections as wholes are looked for. -/
def lookup : Lookup := { start := "CLASSPATH_" }

/-- The fields of a section, whose keys must be texts. -/
def fieldsOf : List (Value × Value) → Except Failure Fields
  | [] => .ok []
  | (.text k, v) :: ps => do return (k, v) :: (← fieldsOf ps)
  | _ => .error .sectionKey

/-- A section of settings made of one value, whose issues are those of the section; without a value
it is made of the surroundings alone. -/
def sectionFrom {α : Type} (name shownName : Text) (make : Fields → Action α) :
    Option Value → Action (Except (List Issue) α)
  | none => do return .ok (← make [])
  | some (.mapping ps) => do
    let fields ← Action.ofExcept (fieldsOf ps)
    Action.recover (.ok <$> make fields) fun
      | .invalid issues =>
        return .error (issues.map fun i => { i with location := name :: i.location })
      | e => throw e
  | some _ => return .error [⟨[name], .notSection shownName⟩]

/-- The settings that the surroundings make. -/
def make : Action Settings := do
  let s ← Surroundings.now lookup
  let (logging, gradle) ← Action.ofExcept s.sections
  let logging ← sectionFrom "logging" "LoggingSettings" LoggingSettings.make logging
  let gradle ← sectionFrom "gradle" "GradleSettings" GradleSettings.make gradle
  match logging, gradle with
  | .ok logging, .ok gradle => return { logging, gradle }
  | .error issues, .ok _ | .ok _, .error issues => throw (.invalid issues)
  | .error issues, .error more => throw (.invalid (issues ++ more))

/-- The settings that a configuration and the surroundings make. Texts for whole sections do not
count then, but must be readable. -/
def ofConfig (c : Config) : Action Settings := do
  let logging ← LoggingSettings.make (← Action.ofExcept (fieldsOf (c.sectionOf "logging")))
  let gradle ← GradleSettings.make (← Action.ofExcept (fieldsOf (c.sectionOf "gradle")))
  let s ← Surroundings.now lookup
  let _ ← Action.ofExcept s.sections
  return { logging, gradle }

/-- The settings that a configuration file and the surroundings make. -/
def ofFile (path : Path) : Action Settings := do
  let (c, _) ← Config.load { path := some path } none
  ofConfig c

/-- The settings of the common configuration, which without a file of its own has two empty
sections, and of the surroundings. A file that should be there but is not leaves the surroundings
alone. -/
def load : Action Settings := do
  match (← get).commonConfig with
  | none => ofConfig {}
  | some path => if ← Action.isThere path then ofFile path else make

/-- The settings read once for everybody. A reading that fails is tried again the next time. -/
def common : Action Settings := do
  match (← get).cached with
  | some s => return s
  | none =>
    let s ← load
    modify fun w => { w with cached := some s }
    return s

/-- Given build tool settings, or those of everybody. -/
def gradleOr (given : Option GradleSettings) : Action GradleSettings :=
  match given with
  | some s => return s
  | none => do return (← common).gradle

/-- Forgets the settings read once for everybody. -/
def forget : Action Unit := modify fun w => { w with cached := none }

end Settings

end ClasspathProbe
