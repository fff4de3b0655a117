import LineShell.Builtin
import LineShell.Pipeline
import LineShell.Shell.Supply
import LineShell.Text.Quoted

/-!
The shell: its builtin commands, the exit status of the job that finished last, and, if it is
interactive, a line editor with a history that is kept in a file between sessions.
-/

namespace LineShell

structure Config where
  /-- Lines come through the line editor, which records them. -/
  history : Bool := false
  historyCapacity : Nat := 0
  /-- The shell says when it leaves. -/
  messages : Bool := false
  deriving DecidableEq, Repr

namespace Config

def interactive (capacity : Nat) : Config :=
  { history := true, historyCapacity := capacity, messages := true }

def noninteractive : Config := {}

def render (c : Config) : String :=
  "ShellConfig \x7b enable_command_history: " ++ toString c.history ++
    ", command_history_capacity: " ++ toString c.historyCapacity ++
    ", display_messages: " ++ toString c.messages ++ " \x7d"

end Config

structure Shell (κ : Type) where
  registry : Registry (Console κ)
  editor : Option Editor := none
  /-- Where the history is kept between sessions. -/
  historyFile : Option SystemText := none
  lastStatus : ExitStatus := .success
  config : Config := {}

/-- How the shell's own process ends. -/
inductive Departure where
  | code (code : Int)
  /-- A message could not be written, which the shell does not survive. -/
  | crash
  deriving DecidableEq, Repr

namespace Departure

def crashCode : Int := 101

/-- The code with which the process leaves. -/
def exitCode : Departure → Int
  | .code number => number
  | .crash => crashCode

end Departure

namespace Shell

variable {κ : Type} [Kernel κ]

def historyFileName : String := ".koish_history"

/-- Gives an interactive shell the history that its file keeps. -/
def loadHistory (shell : Shell κ) (editor : Editor) :
    StateM (Console κ) (Except Error (Shell κ)) := do
  match ← Environment.home? with
  | none => return .ok { shell with editor := some editor }
  | some home =>
      let path := home.file historyFileName
      match ← editor.load path with
      | (.ok (), editor) =>
          return .ok { shell with editor := some editor, historyFile := some path }
      | (.error e, _) => return .error e

def new (config : Config) (registry : Registry (Console κ)) :
    StateM (Console κ) (Except Error (Shell κ)) :=
  let shell : Shell κ := { registry := registry, config := config }
  if config.history then do shell.loadHistory (← Editor.new config.historyCapacity)
  else return .ok shell

def withLast (shell : Shell κ) (last : ExitStatus) : Shell κ := { shell with lastStatus := last }

/-- Executes jobs with the builtin commands of the shell. -/
def executor (shell : Shell κ) : Executor (Console κ) := fun job => do
  return (← job.execute shell.registry).1

/-- Executes the jobs of a line. -/
def executeLine (shell : Shell κ) (line : String) :
    StateM (Console κ) (Except Error Status × Shell κ) := do
  let (result, last) ← Session.executeLine shell.executor shell.lastStatus line
  return (result, shell.withLast last)

/-- Executes at most `bound` lines of a supply that keeps `t` to itself. -/
def runWith {τ : Type} (shell : Shell κ) (supply : LineSupply (Console κ × τ)) (bound : Nat)
    (t : τ) : StateM (Console κ) (Except Error Status × Shell κ × τ) := fun p =>
  let execute : Executor (Console κ × τ) := fun job => Session.beside (shell.executor job)
  let ((result, last), (p, t)) := Session.run execute supply bound shell.lastStatus (p, t)
  ((result, shell.withLast last, t), p)

/-- Executes lines that are known beforehand. The prompts shown are returned too. -/
def runListed (shell : Shell κ) (items : List (Except Error String)) :
    StateM (Console κ) (Except Error Status × Shell κ × List String) := do
  let (result, shell, listed) ← shell.runWith LineSupply.listed (items.length + 1) ⟨items, []⟩
  return (result, shell, listed.prompts)

/-- Executes the lines of a source of bytes. -/
def runSource (shell : Shell κ) (source : Source) :
    StateM (Console κ) (Except Error Status × Shell κ) := do
  let (result, shell, _) ← shell.runWith LineSupply.bytes (source.size + 1) source
  return (result, shell)

/-- A bound on the lines that come from an open file, which has all that are in it now and more. -/
def lineBound (d : Descriptor) : StateM (Console κ) Nat := do
  match ← Console.call (Kernel.pending d) with
  | .ok bytes => return bytes.length + Session.patience
  | .error _ => return Session.patience

/-- Executes the lines of an open file. -/
def runDescriptor (shell : Shell κ) (d : Descriptor) :
    StateM (Console κ) (Except Error Status × Shell κ) := do
  let bound ← lineBound d
  let (result, last) ←
    Session.run shell.executor (LineSupply.descriptor d) bound shell.lastStatus
  return (result, shell.withLast last)

/-- Executes the lines of a file. -/
def runFile (shell : Shell κ) (path : String) :
    StateM (Console κ) (Except Error Status × Shell κ) := do
  match ← Console.call (Kernel.openFile path) with
  | .error fault => return (.error (.stream fault), shell)
  | .ok d =>
      let (result, shell) ← shell.runDescriptor d
      Console.call (Kernel.close d)
      return (result, shell)

/-- Executes the lines of standard input, through the editor if the shell has one. Without one they
are read through a descriptor of its own, so it does not matter what stands in the place of standard
input while a builtin command runs. -/
def runInput (shell : Shell κ) : StateM (Console κ) (Except Error Status × Shell κ) := do
  match shell.editor with
  | none =>
      match ← Console.call (Kernel.keep Descriptor.input) with
      | .error e => return (.error (.stream (.system e)), shell)
      | .ok d =>
          let (result, shell) ← shell.runDescriptor d
          Console.call (Kernel.close d)
          return (result, shell)
  | some editor =>
      let bound := editor.ahead.length + (← lineBound Descriptor.input)
      let (result, shell, editor) ← shell.runWith LineSupply.editor bound editor
      return (result, { shell with editor := some editor })

def farewell : String := "exit\n"

/-- Keeps the history, as far as that can be done. -/
def saveHistory (shell : Shell κ) : StateM (Console κ) Unit := do
  match shell.editor, shell.historyFile with
  | some editor, some path =>
      let _ ← editor.save path
      return ()
  | _, _ => return ()

/-- Leaves the shell with a status, or with that of the job that finished last. -/
def leave (shell : Shell κ) (status : Option ExitStatus) : StateM (Console κ) Departure := do
  let said ←
    if shell.config.messages then Console.print (Utf8.encode farewell) else pure (.ok ())
  match said with
  | .error _ => return .crash
  | .ok () =>
      shell.saveHistory
      let _ ← Console.flush
      return .code (status.getD shell.lastStatus).leavingCode

/-- The shell's state for display. -/
def render (shell : Shell κ) : String :=
  let editor := match shell.editor with
    | none => "None"
    | some e => "Some(" ++ e.render ++ ")"
  "Shell \x7b builtins: " ++ Quoted.list shell.registry.names ++ ", editor: " ++ editor ++
    ", last_exit_status: ExitStatus(unix_wait_status(" ++ toString shell.lastStatus.word ++
    ")), config: " ++ shell.config.render ++ " \x7d"

end Shell

end LineShell
