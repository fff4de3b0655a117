import LineShell.CommandLine.Arguments
import LineShell.Shell

/-!
Starting the shell with arguments. Whatever it is asked to do other than to show its help, it first
opens its log file, and goes without one if that cannot be done.
-/

namespace LineShell.CommandLine

variable {κ : Type} [Kernel κ]

def usage : String :=
  "Usage:\n" ++
  "    koish [options]\n" ++
  "    koish [options] -c <command>\n" ++
  "    koish [options] <file>\n" ++
  "    koish (-h | --help)\n" ++
  "    koish --version\n"

def help : String :=
  "koish.\n\n" ++ usage ++ "\n" ++
  "Options:\n" ++
  "    -h --help       Show this screen.\n" ++
  "    --version       Show version.\n" ++
  "    -c              If the -c option is present, then commands are read from the first " ++
    "non-option\n" ++
  "                        argument command_string.\n" ++
  "    --log=<path>    File to write log to, defaults to ~/.koish_log\n"

def version : String := "koish version 0.1.0\n"

def logFileName : String := ".koish_log"

def failureCode : Int := 1

/-- Opens the log file. -/
def openLog (path : Option String) : StateM (Console κ) Unit := do
  let path ← match path with
    | some path => pure (some (.ofText path))
    | none => do pure ((← Environment.home?).map (·.file logFileName))
  match path with
  | some path =>
      let _ ← Console.call (Kernel.openLog path)
      return ()
  | none => return ()

/-- Leaves a shell as the outcome of its work says. -/
def conclude (shell : Shell κ) : Except Error Status → StateM (Console κ) Departure
  | .ok status => shell.leave (some status.exit)
  | .error e => do
      Environment.reportError e
      shell.leave (some .failure)

/-- Has a shell do its work. -/
def withShell (work : Shell κ → StateM (Console κ) (Except Error Status × Shell κ)) :
    StateM (Console κ) Departure := do
  match ← Shell.new .noninteractive .standard with
  | .error e =>
      Environment.reportError e
      return .code failureCode
  | .ok shell =>
      let (result, shell) ← work shell
      conclude shell result

/-- Shows the version, which the shell does not survive if it fails. -/
def showVersion : StateM (Console κ) Departure := do
  match ← Console.print (Utf8.encode version) with
  | .error _ => return .crash
  | .ok () => return .code 0

def perform : Request → StateM (Console κ) Departure
  | .help => do
      let _ ← Console.print (Utf8.encode help)
      return .code 0
  | .version => showVersion
  | .input => withShell Shell.runInput
  | .line text => withShell (·.executeLine text)
  | .file path => withShell (·.runFile path)
  | .nothing => do
      let _ ← Shell.new (κ := κ) .noninteractive .standard
      return .crash

/-- The request that arguments make, and where the log goes. -/
def request (args : List String) : Except UsageError (Request × Option String) := do
  let arguments ← Arguments.read args
  return (← Request.ofArguments arguments, arguments.value? .log)

/-- Runs the shell with arguments to its end. -/
def run (args : List String) : StateM (Console κ) Departure := do
  match request args with
  | .error e =>
      Environment.complain (e.message ++ "\n\n" ++ usage)
      return .code failureCode
  | .ok (.help, _) => perform .help
  | .ok (what, log) => do
      openLog log
      perform what

end LineShell.CommandLine
