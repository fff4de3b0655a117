import LineShell.Errno

/-!
Why the shell could not do something. An error is kept as its cause; its wording is given by
`Error.message` alone.
-/

namespace LineShell

/-- Why an input or output call failed. -/
inductive Fault where
  | system (errno : Errno)
  /-- A failure of the stream itself, told in its own words. -/
  | other (text : String)
  deriving DecidableEq, Repr

namespace Fault

/-- The call was interrupted and is to be made again. -/
def isInterruption : Fault → Bool
  | .system e => e = .interrupted
  | .other _ => false

def message : Fault → String
  | .system e => e.sentence ++ " (os error " ++ toString e.number ++ ")"
  | .other text => text

/-- A path or argument for the operating system may hold no NUL. -/
def nulInPath : Fault := .other "file name contained an unexpected NUL byte"

def invalidText : Fault := .other "stream did not contain valid UTF-8"

end Fault

inductive Error where
  /-- A builtin command failed; `code` becomes the exit code of its task. -/
  | command (text : String) (code : Int)
  /-- The pipes of a job could not be made. Ends that job only. -/
  | pipe (errno : Errno)
  /-- A process could not be made. The shell cannot go on. -/
  | fork (errno : Errno)
  /-- An argument that no program can be given. -/
  | argument (arg : String)
  | stream (fault : Fault)
  | system (errno : Errno)
  /-- The line editor failed. -/
  | editor (fault : Fault)
  /-- The line editor broke down, which the shell does not survive. -/
  | collapse
  /-- The arguments of the shell itself do not fit its usage. -/
  | usage (text : String)
  | plain (text : String)
  deriving DecidableEq, Repr

namespace Error

def message : Error → String
  | .command text _ => text
  | .pipe e => "pipe: " ++ e.message
  | .fork e => "fork: " ++ e.message
  | .argument arg => arg ++ ": argument contains a nul byte"
  | .stream fault => fault.message
  | .system e => e.message
  | .editor fault => fault.message
  | .collapse => ""
  | .usage text => text
  | .plain text => text

/-- The kind of error in a few words, where the kind has such words. -/
def description : Error → String
  | .command .. => "builtin command error"
  | .pipe _ => "pipe creation failed"
  | .fork _ => "fork failed"
  | .argument _ => "invalid argument"
  | .plain text => text
  | .stream _ | .system _ | .editor _ | .collapse | .usage _ => ""

/-- Only a shell that can make no more processes has to end. -/
def isFatal : Error → Bool
  | .fork _ => true
  | _ => false

/-- The exit code of a builtin command that failed so. -/
def exitCode : Error → Int
  | .command _ code => code
  | _ => 1

/-- The line by which the shell reports the error. -/
def report (e : Error) : String := "koish: " ++ e.message ++ "\n"

end Error

end LineShell
