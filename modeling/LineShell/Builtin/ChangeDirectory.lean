import LineShell.Command

/-!
The command `cd`: changes the current directory and keeps the name of the one it leaves in the
variable `OLDPWD`.
-/

namespace LineShell.Builtin.ChangeDirectory

variable {σ : Type}

def topic : Topic where
  name := "cd"
  description := "change the current directory"
  help := "cd: cd [dir]\n    Change the current directory to DIR. " ++
    "A DIR of '~' is the home directory.\n    If DIR is '-', then the current directory will be " ++
    "the variable $OLDPWD,\n    which is the last working directory."

def previousVariable : String := "OLDPWD"

def failure (text : String) : Error := .command text 1

variable [Environment σ]

/-- The directory an argument stands for. The one left last is shown before it is gone back to. -/
def destination (sink : Sink σ) : String → StateM σ (Except Error SystemText)
  | "~" => do
      match ← Environment.home? with
      | some home => return .ok home
      | none => return .error (failure "cd: HOME not set")
  | "-" => do
      match ← Environment.value? previousVariable with
      | none => return .error (failure "cd: OLDPWD not set")
      | some previous =>
          match ← sink.writeAll [previous.shown, "\n"] with
          | .ok () => return .ok previous
          | .error fault => return .error (.stream fault)
  | path => return .ok (.ofText path)

/-- Goes to a directory. The variable is left alone if the directory left has no name. -/
def goTo (path : SystemText) : StateM σ (Except Error Status) := do
  let previous ← Environment.currentDirectory
  match ← Environment.changeDirectory path with
  | .error fault => return .error (failure ("cd: " ++ path.shown ++ ": " ++ fault.message))
  | .ok () =>
      match previous with
      | .ok name => Environment.setVariable previousVariable name
      | .error _ => pure ()
      return .ok .success

def body (call : Invocation σ) : StateM σ (Except Error Status) := do
  match call.argv[1]? with
  | none => return .error (failure "expected a path for 'cd'!")
  | some arg =>
      match ← destination call.sink arg with
      | .error e => return .error e
      | .ok path => goTo path

def command : Command σ := { topic with body := body }

end LineShell.Builtin.ChangeDirectory
