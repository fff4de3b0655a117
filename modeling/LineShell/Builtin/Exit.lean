import LineShell.Command
import LineShell.Text.Numeral

/-!
The command `exit`: ends the shell, with the code that its argument gives modulo 256.
-/

namespace LineShell.Builtin.Exit

variable {σ : Type}

def topic : Topic where
  name := "exit"
  description := "exit the current shell instance"
  help := "exit: exit [n]\n    Exit the shell with a status of N. " ++
    "If N is omitted, the exit status\n    is 0."

/-- The code for an argument that is no numeral. -/
def misuseCode : Int := 2

def diagnostic (arg : String) : String :=
  "koish: exit: " ++ arg ++ ": numeric argument required\n"

def body [Environment σ] (call : Invocation σ) : StateM σ (Except Error Status) := do
  match call.argv[1]? with
  | none => return .ok (.terminate .success)
  | some arg =>
      match Numeral.signed64? arg with
      | some n => return .ok (.terminate (.ofCode n))
      | none =>
          Environment.complain (diagnostic arg)
          return .ok (.terminate (.ofCode misuseCode))

def command [Environment σ] : Command σ := { topic with body := body }

end LineShell.Builtin.Exit
