import LineShell.Machine.Program
import LineShell.Machine.Script.Tree

/-!
What a script shell keeps as it runs, and the errors it comes to. An error ends the builtin command
in which it happens, or else the whole script.
-/

namespace LineShell.Machine.Script

structure Binding where
  value : Option String := none
  exported : Bool := false
  locked : Bool := false

/-- Where a script goes on after a command. -/
inductive Flow where
  | on
  /-- After so many of the loops around. -/
  | breaking (count : Nat)
  /-- With the next round of the last of so many loops around. -/
  | continuing (count : Nat)
  | returning
  deriving DecidableEq, Repr

/-- A child that the shell has started and not yet waited for, or has waited for by the way. -/
structure Job where
  pids : List Pid
  /-- The pids that have ended, with their exit statuses. -/
  ended : List (Pid × Int) := []

structure State where
  /-- The name by which the shell speaks of itself. -/
  name : String
  pid : Pid
  vars : List (String × Binding) := []
  arguments : List String := []
  functions : List (String × Tree) := []
  /-- The letters of the options that are set. -/
  options : List Char := []
  status : Int := 0
  /-- The status of the last command substitution in the command that is run. -/
  substituted : Int := 0
  line : Nat := 0
  /-- The line up to which the script has been read. -/
  lineRead : Nat := 0
  /-- The name of the directory in which the script works. -/
  directory : String := ""
  /-- The builtin command that is run. -/
  command : String := ""
  loops : Nat := 0
  /-- For each function that is being run, its local variables with what they stood for before. -/
  locals : List (List (String × Option Binding)) := []
  background : Option Pid := none
  jobs : List Job := []
  /-- What to do on signals, and on signal 0 at the end. -/
  traps : List (Nat × String) := []
  /-- Signals that were ignored when the shell began. -/
  deaf : List Nat := []
  documents : List (Nat × Word) := []
  nextDocument : Nat := 0
  /-- How far into its argument `getopts` has come. -/
  optionOffset : Nat := 0
  aliases : List (String × String) := []
  /-- The names of programs that have been found. -/
  known : List String := []
  /-- The status that the shell ends with, while it does what it was to do at the end. -/
  leaving : Option Int := none

/-- How a command is run. -/
structure Mode where
  /-- The process has nothing to do after it. -/
  isLast : Bool := false
  /-- That it fails means nothing. -/
  isTested : Bool := false

/-- What the parts of a shell need from the whole: to run commands, or those of a text, and to end. -/
structure Whole where
  run : Tree → Mode → StateT State Act (Except Unit Flow)
  /-- Gives the status of the last command in the text, which is zero if there is none. -/
  runText : String → Mode → StateT State Act (Except Unit (Flow × Int))
  leave : State → Program

abbrev Sh := ReaderT Whole (ExceptT Unit (StateT State Act))

namespace Sh

variable {α : Type}

def act (a : Act α) : Sh α := fun _ => ExceptT.lift (fun state next => a fun value => next (value, state))

def instant (f : Instant α) : Sh α := act (.instant f)

def state : Sh State := get

def update (f : State → State) : Sh Unit := modify f

def run (tree : Tree) (mode : Mode) : Sh Flow := fun whole => ExceptT.mk (whole.run tree mode)

def runText (text : String) (mode : Mode) : Sh (Flow × Int) := fun whole =>
  ExceptT.mk (whole.runText text mode)

/-- What was done up to an error counts, and the error is told. -/
def attempt (a : Sh α) : Sh (Option α) := fun whole => ExceptT.mk do
  match ← (a whole).run with
  | .ok value => return .ok (some value)
  | .error () => return .ok none

def setStatus (status : Int) : Sh Unit := update ({ · with status := status })

/-- The letters of options, in the order in which they are shown. -/
def optionLetters : List Char :=
  ['p', 'u', 'b', 'a', 'C', 'E', 'V', 'v', 'x', 's', 'n', 'm', 'i', 'I', 'f', 'e']

def hasOption (letter : Char) : Sh Bool := return (← state).options.contains letter

/-- Writes bytes to a descriptor, and tells whether that failed. -/
def write (d : Descriptor) (text : String) : Sh (Option Errno) := act (.write d (Raw.toBytes text))

def diagnostics : Descriptor := 2

/-- Says something about the script. -/
def say (text : String) : Sh Unit := do
  let _ ← write diagnostics text

/-- Says what is wrong. -/
def warn (text : String) : Sh Unit := do
  let s ← state
  let command := if s.command.isEmpty then "" else s.command ++ ": "
  say (s.name ++ ": " ++ toString s.line ++ ": " ++ command ++ text ++ "\n")

/-- Says what is wrong, and gives up with an exit status. -/
def failWith (status : Int) (text : String) : Sh α := do
  warn text
  setStatus status
  throw ()

def errorStatus : Int := 2

/-- Says what is wrong, and gives up. -/
def fail (text : String) : Sh α := failWith errorStatus text

/-- Ends the shell. -/
def leave : Sh α := fun whole => ExceptT.mk (fun state _ => whole.leave state)

/-! ### Parameters -/

def binding? (name : String) : Sh (Option Binding) := return (← state).vars.lookup name

def value? (name : String) : Sh (Option String) := return (← binding? name).bind Binding.value

def setBinding (name : String) (b : Binding) : Sh Unit := update fun s =>
  { s with vars :=
      if s.vars.any (·.1 = name) then s.vars.map fun (n, old) => (n, if n = name then b else old)
      else s.vars ++ [(name, b)] }

/-- Gives a variable a value. -/
def assign (name value : String) : Sh Unit := do
  let b := (← binding? name).getD {}
  if b.locked then fail (name ++ ": is read only")
  let exported := b.exported || (← hasOption 'a')
  setBinding name { b with value := some value, exported := exported }
  if name = "OPTIND" then update ({ · with optionOffset := 0 })

def unassign (name : String) : Sh Unit := do
  let b := (← binding? name).getD {}
  if b.locked then fail (name ++ ": is read only")
  update fun s => { s with vars := s.vars.filter (·.1 != name) }

/-- Variables are kept in so many rows, and programs are given those of one row after another. -/
def rowCount : Nat := 39

def row (name : String) : Nat :=
  let sum := name.toList.foldl (fun n c => n + c.toNat) 0
  ((name.toList.headD '\x00').toNat * 16 + sum) % rowCount

/-- The variables that programs are given. -/
def environment : Sh Settings := do
  let given := (← state).vars.filterMap fun (name, b) =>
    if b.exported then b.value.map fun value => (name, value) else none
  return given.mergeSort fun a b => decide (row a.1 ≤ row b.1)

/-- The exit status by which the shell knows an ending. -/
def endingStatus : Ending → Int
  | .exited code => code % 256
  | .killed signal => 128 + signal

end Sh

end LineShell.Machine.Script
