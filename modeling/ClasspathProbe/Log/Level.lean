import ClasspathProbe.Failure
import ClasspathProbe.Text.Uppercase

/-!
# Levels of log records

A level is a number; the common ones have names.
-/

namespace ClasspathProbe.Log

/-- The weight of a record. -/
abbrev Level := Int

/-- The level of details that help in tracing a fault. -/
def debug : Level := 10

def info : Level := 20

def warning : Level := 30

def levelName (level : Level) : Text :=
  if level = 0 then "NOTSET"
  else if level = 10 then "DEBUG"
  else if level = 20 then "INFO"
  else if level = 30 then "WARNING"
  else if level = 40 then "ERROR"
  else if level = 50 then "CRITICAL"
  else "Level " ++ Text.ofInt level

/-- The levels that go by a name, in capitals. -/
def namedLevels : List (Text × Level) :=
  [("DEBUG", 10), ("INFO", 20), ("WARNING", 30), ("WARN", 30), ("ERROR", 40), ("CRITICAL", 50),
   ("FATAL", 50), ("NOTSET", 0)]

/-- How messages show the table of record styles. -/
def shownStyles : Text :=
  "\x7b'%': (<class 'logging.PercentStyle'>, '%(levelname)s:%(name)s:%(message)s'), " ++
    "'\x7b': (<class 'logging.StrFormatStyle'>, " ++
    "'\x7blevelname\x7d:\x7bname\x7d:\x7bmessage\x7d'), " ++
    "'$': (<class 'logging.StringTemplateStyle'>, " ++
    "'$\x7blevelname\x7d:$\x7bname\x7d:$\x7bmessage\x7d')\x7d"

/-- The level that goes by a name in any case. Two names go to something else. -/
def readLevel (name : Text) : Except Failure Level :=
  let capitals := Text.upper name
  match namedLevels.lookup capitals with
  | some level => .ok level
  | none =>
    if capitals = "BASIC_FORMAT" then
      .error (.levelValue (Text.quoted "%(levelname)s:%(name)s:%(message)s"))
    else if capitals = "_STYLES" then .error (.levelObject shownStyles)
    else .error (.levelName capitals)

end ClasspathProbe.Log
