/-!
Exit statuses. A status is kept as the word a wait call delivers for an ended process: a plain
exit has its code in the second byte and a zero below it, a killing signal stands in the low
seven bits.
-/

namespace LineShell

structure ExitStatus where
  /-- The word as a signed number. -/
  word : Int
  deriving DecidableEq, Repr

namespace ExitStatus

/-- A plain exit. Codes are taken modulo 256. -/
def ofCode (code : Int) : ExitStatus := ⟨code % 256 * 256⟩

def success : ExitStatus := ofCode 0

def failure : ExitStatus := ofCode 1

/-- The low seven bits: zero for a plain exit. -/
def ending (s : ExitStatus) : Int := s.word % 128

def code? (s : ExitStatus) : Option Int :=
  if s.ending = 0 then some (s.word / 256 % 256) else none

/-- The signal that ended the process. All seven bits set mean that it has only stopped. -/
def signal? (s : ExitStatus) : Option Int :=
  if 1 ≤ s.ending ∧ s.ending ≤ 126 then some s.ending else none

def isSuccess (s : ExitStatus) : Bool := s.word = 0

/-- The code a shell leaves with: a status that carries no code counts as a failure. -/
def leavingCode (s : ExitStatus) : Int := s.code?.getD 1

theorem code?_ofCode (c : Int) : (ofCode c).code? = some (c % 256) := by
  have h : (ofCode c).ending = 0 := by
    show c % 256 * 256 % 128 = 0
    omega
  rw [code?, if_pos h]
  show some (c % 256 * 256 / 256 % 256) = some (c % 256)
  congr 1
  omega

end ExitStatus

/-- What running a task, a job or a line comes to. -/
inductive Status where
  /-- The shell goes on. -/
  | proceed (exit : ExitStatus)
  /-- A builtin command asked the shell to end. -/
  | terminate (exit : ExitStatus)
  deriving DecidableEq, Repr

namespace Status

def success : Status := .proceed .success

def failure : Status := .proceed .failure

def isTerminal : Status → Bool
  | .proceed _ => false
  | .terminate _ => true

def exit : Status → ExitStatus
  | .proceed e => e
  | .terminate e => e

def code (s : Status) : Int := s.exit.leavingCode

/-- The status for display, as in `continue (0)`. -/
def render : Status → String
  | s@(.proceed _) => "continue (" ++ toString s.code ++ ")"
  | s@(.terminate _) => "terminate (" ++ toString s.code ++ ")"

end Status

end LineShell
