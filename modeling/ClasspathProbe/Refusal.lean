import ClasspathProbe.Path
import ClasspathProbe.Text.Quoted

/-!
# Refusals of the operating system

Why the operating system would not do what was asked, on what, and the wording of that.
-/

namespace ClasspathProbe

/-- Why a request to the operating system was refused. -/
inductive Refusal where
  | noSuchFile
  | inputOutput
  | noSuchDevice
  | notAnExecutable
  | denied
  | fileExists
  | notADirectory
  | isADirectory
  | fileTooLarge
  | noSpace
  | nameTooLong
  | tooManyLinks
  | quotaExceeded
deriving DecidableEq, Repr

namespace Refusal

def number : Refusal → Nat
  | .noSuchFile => 2
  | .inputOutput => 5
  | .noSuchDevice => 6
  | .notAnExecutable => 8
  | .denied => 13
  | .fileExists => 17
  | .notADirectory => 20
  | .isADirectory => 21
  | .fileTooLarge => 27
  | .noSpace => 28
  | .nameTooLong => 36
  | .tooManyLinks => 40
  | .quotaExceeded => 122

def sentence : Refusal → Text
  | .noSuchFile => "No such file or directory"
  | .inputOutput => "Input/output error"
  | .noSuchDevice => "No such device or address"
  | .notAnExecutable => "Exec format error"
  | .denied => "Permission denied"
  | .fileExists => "File exists"
  | .notADirectory => "Not a directory"
  | .isADirectory => "Is a directory"
  | .fileTooLarge => "File too large"
  | .noSpace => "No space left on device"
  | .nameTooLong => "File name too long"
  | .tooManyLinks => "Too many levels of symbolic links"
  | .quotaExceeded => "Disk quota exceeded"

/-- Whether a refusal only says that there is no file to look at. -/
def meansAbsent : Refusal → Bool
  | .noSuchFile | .notADirectory | .tooManyLinks => true
  | _ => false

end Refusal

/-- What a refused request was about: a name, or the directory a process was to start in. -/
inductive Subject where
  | name (s : Text)
  | directory (p : Path)
deriving DecidableEq

/-- A refused request. -/
inductive SystemError where
  /-- The system refused, and on what. -/
  | refused (why : Refusal) (subject : Subject)
  /-- A file that was open could not be read or written to the end. -/
  | stopped (why : Refusal)
  /-- Every name tried for a new temporary file was taken. -/
  | noUsableName
  /-- None of some directories takes temporary files. -/
  | noUsableDirectory (tried : List Text)
deriving DecidableEq

namespace SystemError

def refusal : SystemError → Refusal
  | .refused why _ | .stopped why => why
  | .noUsableName => .fileExists
  | .noUsableDirectory _ => .noSuchFile

/-- What is said about a refusal, apart from its number. -/
def sentence : SystemError → Text
  | .refused why (.name s) => why.sentence ++ ": " ++ Text.quoted s
  | .refused why (.directory p) =>
    why.sentence ++ ": " ++ "PosixPath(" ++ Text.quoted p.toText ++ ")"
  | .stopped why => why.sentence
  | .noUsableName => "No usable temporary file name found"
  | .noUsableDirectory tried =>
    "No usable temporary directory found in [" ++ Text.joined ", " (tried.map Text.quoted) ++ "]"

def message (e : SystemError) : Text :=
  "[Errno " ++ Text.ofNat e.refusal.number ++ "] " ++ e.sentence

end SystemError

end ClasspathProbe
