import LineShell.Machine.World
import LineShell.Wait

/-!
Programs as processes run them. A program is the tree of its calls: each call comes with what the
program does once it has the answer, so a process can be left alone between any two calls and knows
nothing of the machine but the answers.
-/

namespace LineShell.Machine

/-- What waiting for children can bring. -/
inductive Waited where
  | ended (pid : Pid) (ending : Ending)
  /-- A signal came that the process takes note of. -/
  | interrupted
  /-- None of them has ended yet, and the process would not wait. -/
  | running
  | noChild

/-- For how long to wait. -/
inductive Patience where
  /-- Not at all. -/
  | absent
  /-- Until a signal comes that the process takes note of. -/
  | alert
  | endless
  deriving DecidableEq, Repr

inductive Program where
  | done (ending : Ending)
  | act (step : World → World × Program)
  /-- Asks for at most so many bytes. None come at the end. -/
  | read (d : Descriptor) (size : Nat) (next : Except Errno Bytes → Program)
  /-- Writes bytes. The answer is why they could not all be written. -/
  | write (d : Descriptor) (bytes : Bytes) (next : Option Errno → Program)
  /-- Starts a process that shares what this one has open. -/
  | fork (child : Program) (next : Pid → Program)
  /-- Runs another program in the place of this one, unless that fails. -/
  | exec (path : String) (argv : List String) (settings : Settings) (next : Errno → Program)
  | wait (which : Option Pid) (patience : Patience) (next : Waited → Program)
  /-- Lets so many nanoseconds go by. -/
  | sleep (time : Nat) (next : Unit → Program)
  | kill (target : Int) (signal : Nat) (next : Except Errno Unit → Program)

/-- A part of a program: what it comes to is handed to the part that follows. -/
def Act (α : Type) : Type := (α → Program) → Program

namespace Act

variable {α β : Type}

instance : Monad Act where
  pure a := fun next => next a
  bind part f := fun next => part fun a => f a next

def instant (f : Instant α) : Act α := fun next =>
  .act fun w =>
    let (a, w) := f w
    (w, next a)

def world : Act World := instant get

/-- Ends the process, whatever was to follow. -/
def done (ending : Ending) : Act α := fun _ => .done ending

def exit (code : Int) : Act α := done (.exited code)

def read (d : Descriptor) (size : Nat) : Act (Except Errno Bytes) := Program.read d size

def write (d : Descriptor) (bytes : Bytes) : Act (Option Errno) := Program.write d bytes

/-- Starts a process that does `child` and then ends. -/
def fork (child : Program) : Act Pid := Program.fork child

def exec (path : String) (argv : List String) (settings : Settings) : Act Errno :=
  Program.exec path argv settings

def wait (which : Option Pid) (patience : Patience) : Act Waited := Program.wait which patience

def sleep (time : Nat) : Act Unit := Program.sleep time

def kill (target : Int) (signal : Nat) : Act (Except Errno Unit) := Program.kill target signal

end Act

end LineShell.Machine
