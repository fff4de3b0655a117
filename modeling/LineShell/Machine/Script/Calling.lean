import LineShell.Machine.Script.Running

/-!
The script shell as a program: how it is called, and how it ends.
-/

namespace LineShell.Machine.Script.Calling

open Sh

def exitWith (status : Int) : Program := .done (.exited (status % 256))

/-- Ends the shell, which may have something to do first. -/
def finish (whole : Whole) (s : State) : Program :=
  match s.traps.lookup 0 with
  | none | some "" => exitWith s.status
  | some text =>
      let s' := { s with
        traps := s.traps.filter (·.1 != 0), leaving := some s.status, command := "" }
      whole.runText text {} s' fun (result, after) =>
        match result with
        | .ok _ => exitWith s.status
        | .error () => exitWith after.status

/-- The whole of the shell, where commands are nested at most so deep. -/
def whole : Nat → Whole
  | 0 => {
      run := fun _ _ => return .error ()
      runText := fun _ _ => return .error ()
      leave := fun s => exitWith s.status }
  | depth + 1 => {
      run := fun tree mode => ((Running.command tree mode) (whole depth)).run
      runText := fun text mode =>
        ((Source.run mode 0 Children.patience (.ofText text)) (whole depth)).run
      leave := fun s => finish (whole depth) s }

/-- The variables that the shell starts with. -/
def startVars (settings : Settings) (parent : Pid) : List (String × Binding) :=
  let own : List (String × Binding) := [
    ("PATH", { value := some Finding.standardPath }), ("PS1", { value := some "# " }),
    ("PS2", { value := some "> " }), ("PS4", { value := some "+ " })]
  let given := (settings.filter fun (name, _) => isName name).foldl
    (fun (vars : List (String × Binding)) (name, value) =>
      let b : Binding := { value := some value, exported := true }
      if vars.any (·.1 = name) then vars.map fun (n, old) => (n, if n = name then b else old)
      else vars ++ [(name, b)]) own
  let fixed : List (String × Option String) := [
    ("IFS", some Expansion.defaultSeparators), ("OPTIND", some "1"),
    ("PPID", some (toString parent))]
  given.filter (fun (name, _) => !fixed.any (·.1 = name)) ++
    fixed.map fun (name, value) => (name, { value := value })

def startState (name : String) : Instant State := do
  let self := (← get).self
  return {
    name := name, pid := self.pid, vars := startVars self.settings self.parent
    deaf := self.ignored }

/-- Runs what the operands are: commands, or the name of a file, or else what is read. -/
def runOperands (hasCommands : Bool) (operands : List String) : Sh Unit := do
  let useName (rest : List String) : Sh Unit := do
    match rest with
    | name :: rest => update ({ · with name := name, arguments := rest })
    | [] => return ()
  if hasCommands then
    match operands with
    | [] => fail "-c requires an argument"
    | text :: rest => do
        useName rest
        let _ ← Source.run { isLast := true } 0 Children.patience (.ofText text)
  else if operands.isEmpty || (← hasOption 's') then
    Arguments.setOption 's' true
    update ({ · with arguments := operands })
    let _ ← Source.run {} 0 Children.patience (.ofDescriptor Descriptor.input)
  else
    let d ← Running.openScript (operands.headD "")
    useName operands
    let _ ← Source.run {} 0 Children.patience (.ofDescriptor d)

def main (arguments : List String) : Sh Unit := do
  Places.start
  let (operands, hasCommands) ← Arguments.setOptions true (arguments.length + 1) arguments false
  runOperands hasCommands (operands.getD [])
  leave

/-- So deep may commands be nested. -/
def deepest : Nat := 100000000

/-- What a process does that is the script shell, called by the first of some words with the others. -/
def program (argv : List String) : Program :=
  let name := argv.headD "sh"
  let shell := whole deepest
  Act.instant (startState name) fun s =>
    ((main (argv.drop 1)) shell).run s fun (_, s) => shell.leave s

end LineShell.Machine.Script.Calling
