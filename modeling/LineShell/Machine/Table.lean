import LineShell.Kernel
import LineShell.Machine.FileTree

/-!
Descriptor tables: what stands behind the descriptors of a process. Several descriptors, of one
process or of many, may stand for one open file; they share its position.
-/

namespace LineShell.Machine

inductive Stream where
  | node (n : NodeId)
  | reader (pipe : Nat)
  | writer (pipe : Nat)
  /-- The standard output of the machine, all of which is kept. -/
  | output
  | diagnostics
  deriving DecidableEq, Repr

structure OpenFile where
  stream : Stream
  reads : Bool := true
  writes : Bool := false
  /-- Every write goes to the end. -/
  appends : Bool := false
  position : Nat := 0
  /-- How many descriptors stand for it. -/
  holders : Nat := 1
  deriving DecidableEq, Repr

structure Slot where
  /-- The number of the open file. -/
  file : Nat
  /-- It is closed when the process comes to run another program. -/
  passing : Bool := false
  deriving DecidableEq, Repr

abbrev Table := List (Descriptor × Slot)

namespace Table

def slot? (t : Table) (d : Descriptor) : Option Slot := t.lookup d

def file? (t : Table) (d : Descriptor) : Option Nat := (t.slot? d).map Slot.file

def remove (t : Table) (d : Descriptor) : Table := t.filter (·.1 != d)

def set (t : Table) (d : Descriptor) (s : Slot) : Table := (d, s) :: t.remove d

/-- The lowest number from `least` on, below the limit, that is no descriptor yet. -/
def lowestFree? (t : Table) (least limit : Nat) : Option Descriptor :=
  ((List.range' least (t.length + 1)).find? fun d => (t.slot? d).isNone).filter (· < limit)

end Table

end LineShell.Machine
