import LineShell.Machine.Script.Arguments
import LineShell.Machine.Script.Children

/-!
The builtin commands of scripts that have to do with signals and children.
-/

namespace LineShell.Machine.Script.Signalling

open Sh

/-- The name that the script shell has for a signal, where 0 stands for its own end. -/
def nameOf (n : Nat) : String :=
  if n = 0 then "EXIT"
  else if n = 16 then "16"
  else (Signal.name? n).getD (toString n)

/-- A signal by its number or its name, if that is not below `least`. -/
def signal? (least : Nat) (text : String) : Option Nat :=
  let byNumber := if !text.isEmpty && text.all Char.isDigit then text.toNat? else none
  match byNumber.filter (· ≤ Signal.last) with
  | some n => some n
  | none => (List.range' least (Signal.last + 1 - least)).find? fun n => nameOf n = text.toUpper

/-! ### Traps -/

/-- Has the process mind a signal as the traps say. -/
def settle (signal : Nat) : Sh Unit := do
  if signal = 0 then return ()
  let action := (← state).traps.lookup signal
  instant (modify fun w =>
    let self := w.self
    let self := { self with
      ignored := self.ignored.filter (· != signal), caught := self.caught.filter (· != signal) }
    { w with self := match action with
      | none => self
      | some "" => { self with ignored := signal :: self.ignored }
      | some _ => { self with caught := signal :: self.caught } })

def setTrap (action : Option String) (signal : Nat) : Sh Unit := do
  if (← state).deaf.contains signal then return ()
  update fun s => { s with traps := s.traps.filter (·.1 != signal) ++
    match action with
    | none | some "-" => []
    | some text => [(signal, text)] }
  settle signal

def setTraps (action : Option String) : List String → Sh Int
  | [] => return 0
  | name :: rest => do
      match signal? 0 name with
      | none => do
          say ("trap: " ++ name ++ ": bad trap\n")
          return 1
      | some signal => do
          setTrap action signal
          setTraps action rest

def trap : Builtin := fun args => do
  let args ← withoutOptions args
  match args with
  | [] => do
      let traps := (← state).traps.mergeSort fun a b => decide (a.1 ≤ b.1)
      Printing.print (String.join (traps.map fun (signal, text) =>
        "trap -- " ++ Arguments.quoted text ++ " " ++ nameOf signal ++ "\n"))
  | [name] => setTraps none [name]
  | first :: rest =>
      if !first.isEmpty && first.all Char.isDigit then setTraps none (first :: rest)
      else setTraps (some first) rest

/-! ### Jobs -/

/-- Takes note of the children that have ended. -/
def collect : Nat → Sh Unit
  | 0 => return ()
  | bound + 1 => do
      match ← act (.wait none .absent) with
      | .ended pid ending => do
          Children.note pid ending
          collect bound
      | _ => return ()

def Job.isOver (job : Job) : Bool := job.pids.all fun pid => job.ended.any (·.1 = pid)

/-- The status of a job that is over. -/
def Job.status (job : Job) : Int := (job.ended.lookup (job.pids.getLast?.getD 0)).getD 0

/-- The job that a text names, by its number or as the last one. -/
def job? (text : String) : Sh (Option Nat) := do
  let jobs := (← state).jobs
  let number := (text.toList.drop 1)
  let found : Option Nat :=
    if number.isEmpty || number = ['%'] || number = ['+'] then
      if jobs.isEmpty then none else some (jobs.length - 1)
    else (String.ofList number).toNat?.map (· - 1)
  return found.filter (· < jobs.length)

def demandJob (text : String) : Sh Nat := do
  match ← job? text with
  | some n => return n
  | none => fail ("No such job: " ++ text)

/-- Jobs are under no control, so that none can be brought to the front or sent to the back. -/
def control : Builtin := fun args => do
  match ← withoutOptions args with
  | [] =>
      if (← state).jobs.isEmpty then fail "No current job"
      else fail "job (null) not created under job control"
  | text :: _ => do
      if text.startsWith "%" then
        let _ ← demandJob text
        fail ("job " ++ text ++ " not created under job control")
      else fail ("No such job: " ++ text)

def statusWidth : Nat := 33

def jobs : Builtin := fun args => do
  let _ ← Arguments.read [('l', false), ('p', false)] args
  collect Children.patience
  let all := (← state).jobs
  let lines := all.zipIdx.map fun (job, n) =>
    let mark := if n + 1 = all.length then "+" else if n + 2 = all.length then "-" else " "
    let word :=
      if !Job.isOver job then "Running"
      else if Job.status job = 0 then "Done"
      else "Done(" ++ toString (Job.status job) ++ ")"
    let text := "[" ++ toString (n + 1) ++ "] " ++ mark ++ " " ++ word
    text ++ String.ofList (List.replicate (statusWidth - text.length) ' ') ++ "\n"
  update fun s => { s with jobs := s.jobs.filter (!Job.isOver ·) }
  Printing.print (String.join lines)

/-- Waits until some jobs are over. A signal that the script minds may come before that. How the
children `told` end is said. -/
def waitUntil (told : List Pid) (reached : List Job → Bool) : Nat → Sh (Option Nat)
  | 0 => return none
  | bound + 1 => do
      if reached (← state).jobs then return none
      match ← act (.wait none .alert) with
      | .ended pid ending => do
          Children.note pid ending
          if told.contains pid then Children.tell ending
          waitUntil told reached bound
      | .interrupted => return (← instant get).self.arrived.head?
      | _ => return none

def interruptedStatus (signal : Nat) : Int := 128 + signal

def unknownStatus : Int := 127

def waitOne (text : String) : Sh Int := do
  let jobs := (← state).jobs
  let found ← do
    if text.startsWith "%" then pure (some (← demandJob text))
    else
      let pid ← Arguments.number text
      pure (jobs.findIdx? fun job => job.pids.getLast? == some (pid : Int))
  match found with
  | none => return unknownStatus
  | some n => do
      let pids := (jobs[n]?).elim [] Job.pids
      match ← waitUntil pids (fun jobs => (jobs[n]?).all Job.isOver) Children.patience with
      | some signal => return interruptedStatus signal
      | none => return ((← state).jobs[n]?).elim 0 Job.status

def wait : Builtin := fun args => do
  let args ← withoutOptions args
  if args.isEmpty then
    match ← waitUntil [] (·.all Job.isOver) Children.patience with
    | some signal => return interruptedStatus signal
    | none => do
        update ({ · with jobs := [] })
        return 0
  let mut status : Int := 0
  for text in args do
    status ← waitOne text
  return status

/-! ### Signals to others -/

def usage {α : Type} : Sh α :=
  fail ("Usage: kill [-s sigspec | -signum | -sigspec] [pid | job]... or\n" ++
    "kill -l [exitstatus]")

def list (args : List String) : Sh Int := do
  match args with
  | [] => Printing.print (String.join ("0\n" ::
      (List.range' 1 Signal.last).map fun n => nameOf n ++ "\n"))
  | text :: _ => do
      let n ← Arguments.number text
      let n := if 128 < n then n - 128 else n
      if 0 < n && n ≤ Signal.last then Printing.print (nameOf n ++ "\n")
      else fail ("invalid signal number or exit status: " ++ text)

def target (text : String) : Sh Int := do
  if text.startsWith "%" then
    let job := (← state).jobs[← demandJob text]?
    return -((job.bind (·.pids.head?)).getD 0)
  else if text.startsWith "-" then return -((← Arguments.number (text.drop 1).copy : Nat) : Int)
  else return (← Arguments.number text : Nat)

def send (signal : Nat) : List String → Int → Sh Int
  | [], status => return status
  | text :: rest, status => do
      match ← act (.kill (← target text) signal) with
      | .ok () => send signal rest status
      | .error e => do
          warn (e.sentence ++ "\n")
          send signal rest 1

def kill : Builtin := fun args => do
  let (signal, isList, operands) ← do
    match args with
    | [] => usage
    | first :: rest =>
        match if first.startsWith "-" then signal? 1 (first.drop 1).copy else none with
        | some signal => pure (some signal, false, rest)
        | none => do
            let (given, operands) ← Arguments.read [('l', false), ('s', true)] args
            let mut signal : Option Nat := none
            for (letter, value) in given do
              if letter = 's' then
                signal := signal? 1 value
                if signal.isNone then fail ("invalid signal number or name: " ++ value)
            pure (signal, given.any (·.1 = 'l'), operands)
  if isList then
    if signal.isSome then usage
    list operands
  else if operands.isEmpty then usage
  else send (signal.getD Signal.terminate) operands 0

/-! ### Limits -/

def times : Builtin := fun _ =>
  Printing.print "0m0.000000s 0m0.000000s\n0m0.000000s 0m0.000000s\n"

def ulimit : Builtin := fun args => do
  let letters : Arguments.Letters := ['H', 'S', 'a', 't', 'f', 'd', 's', 'c', 'm', 'l', 'p', 'n',
    'v', 'w', 'r'].map fun c => (c, false)
  let (given, operands) ← Arguments.read letters args
  match operands with
  | [] => do
      let limit ← instant do return (← get).self.limit
      Printing.print (if given.any (·.1 = 'n') then toString limit ++ "\n" else "unlimited\n")
  | text :: _ => do
      if given.any (·.1 = 'n') then
        let limit ← match text.toNat? with
          | some limit => pure limit
          | none => fail "bad number"
        instant (modify fun w => { w with self := { w.self with limit := limit } })
      return 0

end LineShell.Machine.Script.Signalling
