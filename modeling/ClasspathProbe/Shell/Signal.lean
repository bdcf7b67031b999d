import ClasspathProbe.Shell.Command

/-!
# Signals

What one process can tell another one: a number from 1 on, with a name and a sentence for the shell
that waits for a process which the signal ends. Number 0 stands for no signal; among the things that
a shell can be ready for it stands for the shell's own end.
-/

namespace ClasspathProbe.Shell

/-- A signal, by its number. -/
abbrev Signal := Nat

namespace Signal

/-- What a terminal sends to break a process off. -/
def interrupt : Signal := 2

/-- What a terminal sends to break a process off that is to leave its memory behind. -/
def quit : Signal := 3

/-- Ends a process, whatever it is ready for. -/
def kill : Signal := 9

/-- What a process is told that writes where nobody reads. -/
def brokenPipe : Signal := 13

def terminate : Signal := 15

/-- What a process is told when a process that it started has ended. -/
def childEnded : Signal := 17

/-- Halts a process, whatever it is ready for. -/
def stop : Signal := 19

/-- The first of the signals that have no meaning of their own. -/
def firstFree : Signal := 34

def last : Signal := 64

/-- The names of the signals with a meaning, from number 0 on. One of them has none but its
number. -/
def knownNames : List String :=
  ["EXIT", "HUP", "INT", "QUIT", "ILL", "TRAP", "ABRT", "BUS", "FPE", "KILL", "USR1", "SEGV",
    "USR2", "PIPE", "ALRM", "TERM", "16", "CHLD", "CONT", "STOP", "TSTP", "TTIN", "TTOU", "URG",
    "XCPU", "XFSZ", "VTALRM", "PROF", "WINCH", "IO", "PWR", "SYS"]

/-- The name of a signal. Those without a meaning are named by where they stand among each other,
counted from the nearer end. -/
def name (n : Signal) : Text :=
  match knownNames[n]? with
  | some s => s.toList
  | none =>
    if n < firstFree then Text.ofNat n
    else if n = firstFree then "RTMIN"
    else if n = last then "RTMAX"
    else if n < 50 then "RTMIN+" ++ Text.ofNat (n - firstFree)
    else "RTMAX-" ++ Text.ofNat (last - n)

/-- The signal that a number or a name in any case stands for, not below a least one for a name. -/
def ofText? (least : Signal) (s : Text) : Option Signal :=
  if !s.isEmpty && s.all Char.isDigit then
    if ofDigits s ≤ last then some (ofDigits s) else none
  else
    let named (n : Signal) : Bool := least ≤ n && Text.asciiLower (name n) = Text.asciiLower s
    (List.range (last + 1)).find? named

/-- Whether a process that is not ready for a signal goes on all the same. -/
def isHarmless (n : Signal) : Bool := [0, childEnded, 18, 23, 28].contains n

/-- Whether no process can be ready for a signal. -/
def isFinal (n : Signal) : Bool := n = kill || n = stop

/-- The sentences of the signals with a meaning, from number 1 on. -/
def knownSentences : List String :=
  ["Hangup", "Interrupt", "Quit", "Illegal instruction", "Trace/breakpoint trap", "Aborted",
    "Bus error", "Floating point exception", "Killed", "User defined signal 1",
    "Segmentation fault", "User defined signal 2", "Broken pipe", "Alarm clock", "Terminated",
    "Stack fault", "Child exited", "Continued", "Stopped (signal)", "Stopped",
    "Stopped (tty input)", "Stopped (tty output)", "Urgent I/O condition",
    "CPU time limit exceeded", "File size limit exceeded", "Virtual timer expired",
    "Profiling timer expired", "Window changed", "I/O possible", "Power failure", "Bad system call"]

/-- What is said of a process that a signal has ended. -/
def sentence (n : Signal) : Text :=
  match knownSentences[n - 1]? with
  | some s => s.toList
  | none =>
    if n < firstFree then "Unknown signal " ++ Text.ofNat n
    else "Real-time signal " ++ Text.ofNat (n - firstFree)

/-- Whether a shell is silent about a process that a signal has ended. -/
def isSilent (n : Signal) : Bool := n = interrupt || n = brokenPipe

/-- The status of a process that a signal has ended. -/
def status (n : Signal) : Nat := 128 + n

end Signal

end ClasspathProbe.Shell
