import LineShell.Command
import LineShell.Pipeline.Streams

/-!
Running one task: a builtin command within the shell, any other program in a process of its own.
What comes of the task is a turn of it; the mark that it leaves on the task follows from that.
-/

namespace LineShell

namespace Console

variable {κ : Type} [Kernel κ]

/-- Standard output as a place for the output of a command. -/
def standardOutput : Sink (Console κ) where
  write := print
  flush := flush

end Console

namespace Child

def notFoundCode : Int := 127

def notExecutableCode : Int := 126

/-- What a child says and leaves with when its program cannot be run. -/
def refusal (program : String) (e : Errno) : String × Int :=
  if e = .noEntry then ("koish: '" ++ program ++ "' is not a valid command!\n", notFoundCode)
  else ("koish: " ++ program ++ ": " ++ e.message ++ "\n", notExecutableCode)

end Child

/-- What comes of a task when its turn comes. -/
inductive Turn where
  | empty
  /-- A builtin command was run and came to a status. -/
  | command (status : Status)
  /-- A builtin command was not run, since its streams could not be bound. -/
  | unbound (e : Errno)
  | unusable (arg : String)
  | launched (pid : Pid)
  /-- No process could be made. -/
  | refused (e : Errno)
  deriving DecidableEq, Repr

namespace Turn

/-- What the turn leaves on its task. -/
def mark (task : Task) : Turn → Task
  | command status => task.withStatus status.exit
  | launched pid => task.withPid pid
  | refused _ => task
  | _ => task.withStatus .failure

/-- The status of a task for which no process was to be made. -/
def result : Turn → Except Error (Option Status)
  | empty | unbound _ => .ok (some .failure)
  | command status => .ok (some status)
  | unusable _ | launched _ => .ok none
  | refused e => .error (.fork e)

end Turn

namespace Task

variable {κ : Type} [Kernel κ]

def emptyReport : String := "koish: empty command\n"

/-- The first argument that no program can be given. -/
def unusable? (argv : List String) : Option String := argv.find? (·.contains '\x00')

/-- Runs a builtin command with the streams of the task. -/
def runBuiltin (registry : Registry (Console κ)) (streams : Streams) (argv : List String) :
    StateM (Console κ) Turn := do
  match ← streams.within (registry.run Console.standardOutput argv) with
  | .ok status => return .command (status.getD .failure)
  | .error e =>
      Environment.reportError (.system e)
      return .unbound e

/-- Starts a program in a process that holds no end but those of its own streams. -/
def launch (streams : Streams) (held : List Descriptor) (argv : List String) :
    StateM (Console κ) Turn := do
  match unusable? argv with
  | some arg =>
      Environment.reportError (.argument arg)
      return .unusable arg
  | none =>
      let _ ← Console.flush
      match ← Console.call (Kernel.fork ⟨argv, streams.bindings, held⟩) with
      | .ok pid => return .launched pid
      | .error e => return .refused e

/-- The turn of a task with these arguments, where `held` are the ends of pipes that the shell
holds. -/
def turn (registry : Registry (Console κ)) (streams : Streams) (held : List Descriptor) :
    List String → StateM (Console κ) Turn
  | [] => do
      Environment.complain emptyReport
      return .empty
  | program :: args =>
      if registry.isBuiltin program then runBuiltin registry streams (program :: args)
      else launch streams held (program :: args)

/-- Runs a task, and leaves on it what comes of that. -/
def run (registry : Registry (Console κ)) (streams : Streams) (held : List Descriptor)
    (task : Task) : StateM (Console κ) (Except Error (Option Status) × Task) := do
  let turn ← turn registry streams held task.argv
  return (turn.result, turn.mark task)

end Task

end LineShell
