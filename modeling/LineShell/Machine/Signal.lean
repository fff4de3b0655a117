import LineShell.Split

/-!
Signals, by number and by name.
-/

namespace LineShell.Machine.Signal

/-- The names of the signals from the first on, and what is said of a process that one has ended. -/
def table : List (String × String) := [
  ("HUP", "Hangup"), ("INT", "Interrupt"), ("QUIT", "Quit"), ("ILL", "Illegal instruction"),
  ("TRAP", "Trace/breakpoint trap"), ("ABRT", "Aborted"), ("BUS", "Bus error"),
  ("FPE", "Floating point exception"), ("KILL", "Killed"), ("USR1", "User defined signal 1"),
  ("SEGV", "Segmentation fault"), ("USR2", "User defined signal 2"), ("PIPE", "Broken pipe"),
  ("ALRM", "Alarm clock"), ("TERM", "Terminated"), ("STKFLT", "Stack fault"),
  ("CHLD", "Child exited"), ("CONT", "Continued"), ("STOP", "Stopped (signal)"),
  ("TSTP", "Stopped"), ("TTIN", "Stopped (tty input)"), ("TTOU", "Stopped (tty output)"),
  ("URG", "Urgent I/O condition"), ("XCPU", "CPU time limit exceeded"),
  ("XFSZ", "File size limit exceeded"), ("VTALRM", "Virtual timer expired"),
  ("PROF", "Profiling timer expired"), ("WINCH", "Window changed"), ("IO", "I/O possible"),
  ("PWR", "Power failure"), ("SYS", "Bad system call")]

def last : Nat := 64

/-- The first and the last of the signals that have no use of their own. -/
def firstFree : Nat := 34

def interrupt : Nat := 2

def quit : Nat := 3

def kill : Nat := 9

def pipe : Nat := 13

def terminate : Nat := 15

/-- The name of a signal among those without a use, counted from the nearer end. -/
def freeName (n : Nat) : String :=
  if n = firstFree then "RTMIN"
  else if n = last then "RTMAX"
  else if n - firstFree ≤ (last - firstFree) / 2 then "RTMIN+" ++ toString (n - firstFree)
  else "RTMAX-" ++ toString (last - n)

def name? (n : Nat) : Option String :=
  if n = 0 then none
  else match table[n - 1]? with
    | some (name, _) => some name
    | none => if firstFree ≤ n && n ≤ last then some (freeName n) else none

def description (n : Nat) : String :=
  match table[n - 1]? with
  | some (_, text) => text
  | none =>
      if firstFree ≤ n && n ≤ last then "Real-time signal " ++ toString (n - firstFree)
      else "Unknown signal " ++ toString n

/-- The signal with a name, in capitals or not. -/
def number? (name : String) : Option Nat :=
  (List.range' 1 last).find? fun n => name? n = some name.toUpper

end LineShell.Machine.Signal
