import LineShell.Editor
import LineShell.Line.Source
import LineShell.Shell.Session

/-!
Where the lines of a session come from: a list, a source of bytes, an open file, or the line editor.
A supply that keeps something to itself keeps it beside the state of the session.
-/

namespace LineShell

namespace Session

variable {σ τ α : Type}

/-- Acts on the state of a session and leaves what is kept beside it alone. -/
def beside (m : StateM σ α) : StateM (σ × τ) α := fun (s, t) =>
  let (a, s) := m s
  (a, (s, t))

instance [Environment σ] : Environment (σ × τ) where
  currentDirectory := beside Environment.currentDirectory
  changeDirectory path := beside (Environment.changeDirectory path)
  value? name := beside (Environment.value? name)
  setVariable name value := beside (Environment.setVariable name value)
  accountHome? := beside Environment.accountHome?
  complain text := beside (Environment.complain text)
  readInput := beside Environment.readInput

end Session

/-- Lines, and failures to give one, that are known beforehand. -/
structure Listed where
  items : List (Except Error String)
  /-- The prompts that were shown, the first one first. -/
  prompts : List String := []

namespace LineSupply

variable {σ : Type}

def listed : LineSupply (σ × Listed) := fun prompt (s, l) =>
  let prompts := l.prompts ++ [prompt]
  match l.items with
  | [] => (.ok none, (s, { l with prompts := prompts }))
  | item :: later => (item.map some, (s, ⟨later, prompts⟩))

def bytes : LineSupply (σ × Source) := fun _ (s, source) =>
  let (line, source) := source.readLine
  (line.mapError Error.stream, (s, source))

variable {κ : Type} [Kernel κ]

/-- The file of a descriptor. No more is taken from it than the line that is returned, and what is
put into it while the line is executed counts. -/
def descriptor (d : Descriptor) : LineSupply (Console κ) := fun _ => do
  match ← Console.call (Kernel.pending d) with
  | .error fault => return .error (.stream fault)
  | .ok pending =>
      let (line, left) := (Source.ofBytes pending).readLine
      Console.call (Kernel.skip d (pending.length - left.unread.length))
      return line.mapError Error.stream

def editor : LineSupply (Console κ × Editor) := fun prompt (p, e) =>
  let ((line, e), p) := e.next prompt p
  (line, (p, e))

end LineSupply

end LineShell
