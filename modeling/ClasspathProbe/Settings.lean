import ClasspathProbe.Path

/-!
# Settings

What can be set: how log records are shown, and how the build tool is found and called.
-/

namespace ClasspathProbe

/-- How log records are shown. -/
structure LoggingSettings where
  /-- The name of the least level that is shown. -/
  level : Text := "INFO"
  /-- The layout of a record on a plain console. -/
  format : Text := "[%(name)s] %(message)s"
  /-- A file that records are added to. -/
  file : Option Path := none
  /-- Whether the console shows records in colour and columns. -/
  useRich : Bool := true
deriving DecidableEq

/-- How the build tool is found and called. -/
structure GradleSettings where
  /-- The command that is searched for when there is no wrapper. -/
  command : Text := "gradle"
  /-- The name of a wrapper. -/
  wrapper : Text := "gradlew"
  /-- The name of a wrapper on Windows. -/
  windowsWrapper : Text := "gradlew.bat"
  /-- The flag for a plain console, put at the end of the command line. -/
  consoleFlag : Text := "--console=plain"
  /-- How the name of a file with a probe script starts. -/
  tempPrefix : Text := "classpath"
  /-- How the name of a file with a probe script ends. -/
  tempSuffix : Text := ".gradle"
deriving DecidableEq

/-- All settings. -/
structure Settings where
  logging : LoggingSettings := {}
  gradle : GradleSettings := {}
deriving DecidableEq

end ClasspathProbe
