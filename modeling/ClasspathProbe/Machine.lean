import ClasspathProbe.World

/-!
# What resolution asks of the machine

Which system it is, where a command lies on the search path, and what a process writes. Neither of
the two questions changes the world. What a process writes is for the machine to say: resolution
takes it as it comes.

A command is searched for in the directories of the search path, from the first to the last; an
empty entry stands for the working directory. A command with a slash in it is not searched for but
taken as a path.
-/

namespace ClasspathProbe

/-- The answers of the machine that resolution runs on. -/
structure Machine where
  /-- Whether the system is Windows. -/
  isWindows : Bool
  /-- The path of a command. -/
  which : World → Text → Option Path
  /-- What a command writes to its two streams when it runs in a directory. -/
  run : World → List Text → Path → Except Failure (Text × Text)

namespace Program

/-- The search path of a process that has none. -/
def standardPath : Text := "/bin:/usr/bin"

/-- The paths under which a command may be found: the command itself if it has a slash in it, else
its name in each directory of a search path. -/
def candidates (path command : Text) : List Text :=
  if command.contains '/' then [command]
  else (Text.pieces ':' path).map (Path.inDirectory · command)

/-- Whether a name leads to a file that may be executed. -/
def isRunnable (w : World) (name : Text) : Bool :=
  !name.contains '\x00' && w.tree.permitsExecution w.here name &&
    match w.tree.leadsToDirectory w.here name with
    | .ok isDirectory => !isDirectory
    | .error _ => false

/-- The first name under which a command can be run. -/
def search? (w : World) (command : Text) : Option Text :=
  if command.contains '/' then
    if isRunnable w command then some command else none
  else
    let path := (w.variableText? "PATH").getD standardPath
    if path.isEmpty then none
    else ((Text.pieces ':' path).map (Path.inDirectory · command)).find? (isRunnable w)

/-- The absolute path of a command. -/
def find? (w : World) (command : Text) : Option Path :=
  (search? w command).map fun name => w.absolute (.ofText name)

end Program

end ClasspathProbe
