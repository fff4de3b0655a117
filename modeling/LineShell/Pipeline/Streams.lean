import LineShell.Pipeline.Pipe

/-!
The streams of one task. A builtin command runs in the shell itself, so its streams are put in the
place of the shell's own for as long as it runs, and what they replaced is kept in duplicates.
-/

namespace LineShell

/-- The ends that replace the standard streams of a task; `none` leaves the shell's own. -/
structure Streams where
  input : Option Descriptor := none
  output : Option Descriptor := none
  deriving DecidableEq, Repr

namespace Streams

/-- The descriptors to be put in the place of others, as source and target. -/
def bindings (streams : Streams) : List (Descriptor × Descriptor) :=
  streams.input.toList.map (·, Descriptor.input) ++
    streams.output.toList.map (·, Descriptor.output)

def ends (streams : Streams) : List Descriptor := streams.input.toList ++ streams.output.toList

/-- The streams of task `i`: it reads from the pipe before it and writes to the pipe after it. -/
def ofTask (pipes : List HeldPipe) (i : Nat) : Streams where
  input := match i with
    | 0 => none
    | i + 1 => pipes[i]?.bind HeldPipe.reader
  output := pipes[i]?.bind HeldPipe.writer

theorem target_eq {streams : Streams} {b : Descriptor × Descriptor} (h : b ∈ streams.bindings) :
    b.2 = Descriptor.input ∨ b.2 = Descriptor.output := by
  simp only [bindings, List.mem_append, List.mem_map] at h
  rcases h with ⟨_, _, rfl⟩ | ⟨_, _, rfl⟩
  · exact .inl rfl
  · exact .inr rfl

end Streams

/-- A replaced descriptor and the duplicate that keeps its stream. -/
structure Saved where
  target : Descriptor
  copy : Descriptor
  deriving DecidableEq, Repr

namespace Streams

variable {κ : Type} [Kernel κ]

/-- Puts `source` in the place of `target`. -/
def bindOne (source target : Descriptor) : StateM κ (Except Errno Saved) := do
  match ← Kernel.duplicate target with
  | .error e => return .error e
  | .ok copy =>
      match ← Kernel.replace source target with
      | .ok () => return .ok ⟨target, copy⟩
      | .error e =>
          Kernel.close copy
          return .error e

/-- Puts the streams kept back, the last replaced first. -/
def restore : List Saved → StateM κ Unit
  | [] => return ()
  | s :: earlier => do
      let _ ← Kernel.replace s.copy s.target
      Kernel.close s.copy
      restore earlier

/-- Makes all replacements after those in `saved`. If one fails, those made before it stay for the
caller to undo. -/
def bindAfter (saved : List Saved) :
    List (Descriptor × Descriptor) → StateM κ (Except Errno Unit × List Saved)
  | [] => return (.ok (), saved)
  | (source, target) :: rest => do
      match ← bindOne source target with
      | .ok s => bindAfter (s :: saved) rest
      | .error e => return (.error e, saved)

/-- Runs an action with these streams, and puts the shell's own back. Output is written out before
each change of streams. The action is not run if a stream cannot be replaced. -/
def within {α : Type} (streams : Streams) (action : StateM (Console κ) α) :
    StateM (Console κ) (Except Errno α) := do
  let _ ← Console.flush
  let (bound, saved) ← Console.call (bindAfter [] streams.bindings)
  let result ← match bound with
    | .ok () => do pure (.ok (← action))
    | .error e => pure (.error e)
  let _ ← Console.flush
  Console.call (restore saved)
  return result

end Streams

end LineShell
