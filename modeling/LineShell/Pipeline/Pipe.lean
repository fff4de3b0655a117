import LineShell.Console

/-!
The pipes of a job. All of them are made before the first task starts; if one cannot be made, those
made before it are closed again. From then on the shell gives up their ends one after another.
-/

namespace LineShell

/-- The shell's two ends of a pipe between neighbouring tasks. -/
structure Pipe where
  reader : Descriptor
  writer : Descriptor
  deriving DecidableEq, Repr

namespace Pipe

variable {κ : Type} [Kernel κ]

def ends (p : Pipe) : List Descriptor := [p.reader, p.writer]

def closeAll : List Descriptor → StateM κ Unit
  | [] => return ()
  | d :: rest => do
      Kernel.close d
      closeAll rest

/-- Makes `count` pipes after those in `made`, or none at all. -/
def openAfter (made : List Pipe) : Nat → StateM κ (Except Errno (List Pipe))
  | 0 => return .ok made
  | count + 1 => do
      match ← Kernel.pipe with
      | .ok (reader, writer) => openAfter (made ++ [⟨reader, writer⟩]) count
      | .error e =>
          closeAll (made.flatMap ends)
          return .error e

def openMany (count : Nat) : StateM κ (Except Errno (List Pipe)) := openAfter [] count

end Pipe

/-- A pipe, as far as the shell still holds it. An end that it has given up is `none`. -/
structure HeldPipe where
  reader : Option Descriptor
  writer : Option Descriptor
  deriving DecidableEq, Repr

namespace HeldPipe

/-- Both ends are held. -/
def ofPipe (p : Pipe) : HeldPipe := ⟨some p.reader, some p.writer⟩

/-- The ends that are held. -/
def ends (p : HeldPipe) : List Descriptor := p.reader.toList ++ p.writer.toList

def dropReader (p : HeldPipe) : HeldPipe := { p with reader := none }

def dropWriter (p : HeldPipe) : HeldPipe := { p with writer := none }

/-- What is held of the pipes of a job once the ends that its task `i` was given are given up: the
reading end of the pipe before the task, and the writing end of the pipe after it. -/
def release (pipes : List HeldPipe) (i : Nat) : List HeldPipe :=
  let pipes := match i with
    | 0 => pipes
    | i + 1 => pipes.modify i dropReader
  pipes.modify i dropWriter

end HeldPipe

end LineShell
