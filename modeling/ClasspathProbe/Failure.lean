import ClasspathProbe.Number.Reading
import ClasspathProbe.Refusal
import ClasspathProbe.Text.Encoding
import ClasspathProbe.Value

/-!
# Failures

Everything that can stop an action, each with its cause, and the wording of each. Failures of the
resolution itself (`ResolutionError`) carry a sentence, named details and what they came from.
Settings and entries that do not fit their fields are listed as issues, one for each field.
-/

namespace ClasspathProbe

/-- What is wrong with the value of a field. -/
inductive Complaint where
  | missing
  | emptyArtifact
  | emptyName
  /-- An integer has more digits than are written. -/
  | longInteger
  | unknownLevel (shown : Text)
  | notText
  | undecodableText
  | notTruthValue
  | unreadableTruthValue
  | notPath
  | frozen
  | notSection (section_ : Text)
deriving DecidableEq

namespace Complaint

def label : Complaint → Text
  | .missing => "missing"
  | .emptyArtifact | .emptyName | .longInteger | .unknownLevel _ => "value_error"
  | .notText => "string_type"
  | .undecodableText => "string_unicode"
  | .notTruthValue => "bool_type"
  | .unreadableTruthValue => "bool_parsing"
  | .notPath => "path_type"
  | .frozen => "frozen_instance"
  | .notSection _ => "model_type"

def message : Complaint → Text
  | .missing => "Field required"
  | .emptyArtifact => "Value error, compiled_jar must not be empty"
  | .emptyName => "Value error, Executable names must not be empty"
  | .longInteger =>
    "Value error, Exceeds the limit (" ++ Text.ofNat Number.maxDigits ++
      " digits) for integer string conversion; use sys.set_int_max_str_digits() to increase the limit"
  | .unknownLevel shown =>
    "Value error, Invalid log level: " ++ shown ++
      ". Must be one of \x7b'CRITICAL', 'DEBUG', 'ERROR', 'INFO', 'WARNING'\x7d"
  | .notText => "Input should be a valid string"
  | .undecodableText =>
    "Input should be a valid string, unable to parse raw data as a unicode string"
  | .notTruthValue => "Input should be a valid boolean"
  | .unreadableTruthValue => "Input should be a valid boolean, unable to interpret input"
  | .notPath => "Input is not a valid path for <class 'pathlib.Path'>"
  | .frozen => "Instance is frozen"
  | .notSection name => "Input should be a valid dictionary or instance of " ++ name

end Complaint

/-- A complaint about a field, and the names that lead to the field. -/
structure Issue where
  location : List Text
  complaint : Complaint
deriving DecidableEq

/-- A failure that somebody else's code reports: whether it counts as a refusal of the operating
system, its label and its sentence. -/
structure ForeignFailure where
  ofSystem : Bool
  label : Text
  message : Text
deriving DecidableEq

/-- The families of failures of the resolution itself. -/
inductive ResolutionError.Kind where
  | general
  | gradleNotFound
  | probeScript
  | invocation
  | configuration
deriving DecidableEq, Repr

/-- What a failure of the resolution came from. -/
inductive ResolutionError.Origin where
  | system (e : SystemError)
  | foreign (e : ForeignFailure)
  | document
deriving DecidableEq

/-- A failure of the resolution itself: a sentence, named details in order, and what it came
from. -/
structure ResolutionError where
  kind : ResolutionError.Kind
  sentence : Text
  details : Fields
  origin : Option ResolutionError.Origin

namespace ResolutionError

/-- How messages show what is wrong with a document. -/
def shownFault : Text := "<yaml>"

/-- The sentence, with the details behind it when there are any. Of a malformed document only that
is shown. -/
def message (e : ResolutionError) : Text :=
  if e.details.isEmpty then e.sentence
  else if e.origin = some .document then e.sentence ++ " - Details: " ++ shownFault
  else e.sentence ++ " - Details: " ++ e.details.toValue.shown

/-- Details with a text stored under a name, unless the text is absent or empty. -/
def note (name : Text) (value : Option Text) (details : Fields) : Fields :=
  match value with
  | none | some [] => details
  | some s => details.store name (.text s)

/-- Neither a wrapper nor a command was found from a workspace. -/
def gradleNotFound (sentence : Text) (workspace : Option Text) (details : Fields) :
    ResolutionError :=
  ⟨.gradleNotFound, sentence, note "workspace" workspace details, none⟩

/-- A probe script could not be put into a file. -/
def probeScript (sentence : Text) (script : Option Text) (details : Fields)
    (origin : Option Origin) : ResolutionError :=
  ⟨.probeScript, sentence, note "script_name" script details, origin⟩

/-- A command could not be started in a directory. -/
def invocation (sentence : Text) (command : Option (List Text)) (directory : Option Text)
    (details : Fields) (origin : Option Origin) : ResolutionError :=
  let noted :=
    match command with
    | none | some [] => details
    | some words => details.store "command" (.text (Text.joined " " words))
  ⟨.invocation, sentence, note "cwd" directory noted, origin⟩

def configuration (sentence : Text) (key : Option Text) (details : Fields)
    (origin : Option Origin) : ResolutionError :=
  ⟨.configuration, sentence, note "config_key" key details, origin⟩

end ResolutionError

/-- Why a scalar of a document has no value although it looks like one of its kind. -/
inductive ScalarFault where
  | calendar (fault : CalendarFault)
  | integer (base : Nat) (text : Text)
  /-- An integer has more digits than are read. -/
  | longInteger (digits : Nat)
  | float (text : Text)
  /-- A part of a number has a weight beyond all floating point numbers. -/
  | weight
  | truth (text : Text)
  | emptyNumber
  | notAStamp
  /-- A mapping stands where the text of a date is read. -/
  | notText
  /-- A mapping stands for itself, or too many collections stand in one another. -/
  | depth
  /-- No character has this number; `wide` when it does not even fit 31 bits. -/
  | character (wide : Bool)
deriving DecidableEq

namespace ScalarFault

/-- How many characters of a text that is no integer are shown, quotes included. -/
def shownLength : Nat := 200

def message : ScalarFault → Text
  | .calendar fault => fault.message
  | .integer base text =>
    "invalid literal for int() with base " ++ Text.ofNat base ++ ": " ++
      (Text.quoted text).take shownLength
  | .longInteger digits =>
    "Exceeds the limit (" ++ Text.ofNat Number.maxDigits ++
      " digits) for integer string conversion: value has " ++ Text.ofNat digits ++
      " digits; use sys.set_int_max_str_digits() to increase the limit"
  | .float text => "could not convert string to float: " ++ Text.quoted text
  | .truth text => Text.quoted text
  | .emptyNumber => "string index out of range"
  | .weight => "int too large to convert to float"
  | .notAStamp => "'NoneType' object has no attribute 'groupdict'"
  | .notText => "expected string or bytes-like object, got 'list'"
  | .depth => "maximum recursion depth exceeded"
  | .character false => "chr() arg not in range(0x110000)"
  | .character true => "Python int too large to convert to C int"

end ScalarFault

/-- Where settings for a whole section can come from as one text. -/
inductive SectionSource where
  | environment
  | envFile
deriving DecidableEq, Repr

/-- Why an action stopped. -/
inductive Failure where
  | system (e : SystemError)
  | foreign (e : ForeignFailure)
  | resolution (e : ResolutionError)
  | invalid (issues : List Issue)
  /-- A name for the operating system holds the character NUL. -/
  | embeddedNul
  | undecodable (fault : Encoding.Fault)
  | badScalar (fault : ScalarFault)
  /-- A command has no words. -/
  | emptyCommand
  /-- A strategy without a way to resolve was asked for. -/
  | incompleteStrategy
  /-- A value of a kind that has no capitals was given as a level. -/
  | levelKind (kind : Text)
  /-- A value of a kind that is no path was given as one. -/
  | pathKind (kind : Text)
  /-- A value of a kind that holds no paths was given for some. -/
  | pathsKind (kind : Text)
  /-- No encoding goes by this name. -/
  | encodingName (name : Text)
  /-- A value of a kind that is no name was given as the name of an encoding. -/
  | encodingKind (kind : Text)
  /-- What the names of variables start with is no text, so the one of this field is not known. -/
  | variableName (field : Text)
  /-- A section has a key that is no text, and so names no setting. -/
  | sectionKey
  /-- The text for a whole section is no JSON document. -/
  | unreadableSection (field : Text) (source : SectionSource)
  /-- No level goes by this name. -/
  | levelName (name : Text)
  /-- This name goes to a text, and none that names a level. -/
  | levelValue (shown : Text)
  /-- This name goes to something that is neither a level nor a text. -/
  | levelObject (shown : Text)
  /-- A record layout without any field in it. -/
  | recordLayout (layout : Text)

namespace Failure

def refused (why : Refusal) (name : Text) : Failure := .system (.refused why (.name name))

/-- The wording of a failure. A list of issues has no wording of its own. -/
def message : Failure → Text
  | .system e => e.message
  | .foreign e => e.message
  | .resolution e => e.message
  | .invalid _ => []
  | .embeddedNul => "embedded null byte"
  | .undecodable fault => fault.message
  | .badScalar fault => fault.message
  | .emptyCommand => "list index out of range"
  | .incompleteStrategy =>
    "Can't instantiate abstract class ClassPathResolver with abstract method classpath"
  | .levelKind kind => "'" ++ kind ++ "' object has no attribute 'upper'"
  | .pathKind kind =>
    if kind = "bytes" then
      "argument should be a str object or an os.PathLike object returning str, not <class 'bytes'>"
    else
      "expected str, bytes or os.PathLike object, not " ++
        (Text.cutLast? '.' kind).elim kind (·.2)
  | .pathsKind kind => "'" ++ kind ++ "' object is not iterable"
  | .encodingName name => "unknown encoding: " ++ name
  | .encodingKind kind => "open() argument 'encoding' must be str or None, not " ++ kind
  | .variableName field =>
    "error getting value for field \"" ++ field ++ "\" from source \"EnvSettingsSource\""
  | .sectionKey => "keywords must be strings"
  | .unreadableSection field source =>
    let origin : Text :=
      match source with
      | .environment => "EnvSettingsSource"
      | .envFile => "DotEnvSettingsSource"
    "error parsing value for field \"" ++ field ++ "\" from source \"" ++ origin ++ "\""
  | .levelName name => "module 'logging' has no attribute " ++ "'" ++ name ++ "'"
  | .levelValue shown => "Unknown level: " ++ shown
  | .levelObject shown => "Level not an integer or a valid string: " ++ shown
  | .recordLayout layout => "Invalid format " ++ "'" ++ layout ++ "' for '%' style"

end Failure

end ClasspathProbe
