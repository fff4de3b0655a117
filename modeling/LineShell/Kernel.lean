import LineShell.Job
import LineShell.Text.SystemText
import LineShell.Wait

/-!
The calls that a shell makes on the operating system. The shell is written against these alone, so
whatever holds of it holds for every behaviour of a system that takes the shell's diagnostics. A
shell that cannot write a diagnostic crashes on the spot; systems that let this happen are left out.
-/

namespace LineShell

/-- A number for an open stream of a process. -/
abbrev Descriptor := Nat

namespace Descriptor

def input : Descriptor := 0

def output : Descriptor := 1

end Descriptor

/-- The surroundings of a process that commands look at and change. -/
class Environment (σ : Type) where
  /-- The name of the current directory, if it can still be named. -/
  currentDirectory : StateM σ (Except Errno SystemText)
  changeDirectory : SystemText → StateM σ (Except Fault Unit)
  value? : String → StateM σ (Option SystemText)
  setVariable : String → SystemText → StateM σ Unit
  /-- The home directory that the user database gives. -/
  accountHome? : StateM σ (Option SystemText)
  /-- Writes to the diagnostic stream. That it takes what is written is assumed, so there is no
  answer. -/
  complain : String → StateM σ Unit
  /-- Reads the standard input to its end. -/
  readInput : StateM σ Bytes

/-- A program to be run in a process of its own. -/
structure Child where
  argv : List String
  /-- Descriptors to be put in the place of others, as source and target. -/
  bindings : List (Descriptor × Descriptor)
  /-- Descriptors to be closed after that. -/
  closing : List Descriptor
  deriving DecidableEq, Repr

class Kernel (κ : Type) extends Environment κ where
  /-- Makes a pipe and gives its reading and its writing end. -/
  pipe : StateM κ (Except Errno (Descriptor × Descriptor))
  close : Descriptor → StateM κ Unit
  /-- Opens another descriptor for the same stream. -/
  duplicate : Descriptor → StateM κ (Except Errno Descriptor)
  /-- Opens another descriptor for the same stream, above those of the standard streams, that the
  programs of children do not get. -/
  keep : Descriptor → StateM κ (Except Errno Descriptor)
  /-- Makes the second descriptor stand for the stream of the first. -/
  replace : Descriptor → Descriptor → StateM κ (Except Errno Unit)
  /-- Writes bytes, or tells how many of them were written before the failure. -/
  write : Descriptor → Bytes → StateM κ (Except (Nat × Errno) Unit)
  fork : Child → StateM κ (Except Errno Pid)
  /-- The replies that waiting for a process brings, one after another. -/
  wait : Pid → StateM κ (List WaitReply)
  /-- What the file of a descriptor holds from its position on. The standard input is a file that the
  shell and its children share. -/
  pending : Descriptor → StateM κ (Except Fault Bytes)
  /-- Moves the position of a descriptor on. -/
  skip : Descriptor → Nat → StateM κ Unit
  /-- Opens a file for the shell to read. -/
  openFile : SystemText → StateM κ (Except Fault Descriptor)
  /-- Makes the file if it does not exist, and opens it for writing at its end. -/
  openLog : SystemText → StateM κ (Except Fault Unit)
  /-- Gives a file new contents, making it if it does not exist. -/
  saveFile : SystemText → Bytes → StateM κ (Except Fault Unit)

namespace Environment

variable {σ : Type} [Environment σ]

/-- The home directory: the variable `HOME` if it says something, else the user database. -/
def home? : StateM σ (Option SystemText) := do
  match ← value? "HOME" with
  | some home => if home.isEmpty then accountHome? else return some home
  | none => accountHome?

/-- Reports an error to the user. -/
def reportError (e : Error) : StateM σ Unit := complain e.report

end Environment

end LineShell
