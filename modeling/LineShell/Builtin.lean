import LineShell.Builtin.ChangeDirectory
import LineShell.Builtin.Exit
import LineShell.Builtin.Help

/-!
The commands that every shell has.
-/

namespace LineShell.Registry

variable {σ : Type}

def standard [Environment σ] : Registry σ :=
  ⟨[Builtin.Help.command, Builtin.Exit.command, Builtin.ChangeDirectory.command]⟩

end LineShell.Registry
