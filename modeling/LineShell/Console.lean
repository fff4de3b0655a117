import LineShell.Kernel

/-!
The console of a shell: the system it runs on, and its buffer for standard output. The buffer
belongs to the shell and not to the stream, so what it holds goes wherever descriptor 1 leads when
it is written out. It is written out up to the last newline as soon as there is one, and what a
failing write leaves unwritten stays in it.
-/

namespace LineShell

structure Console (κ : Type) where
  kernel : κ
  /-- Output that has not been written out. -/
  buffered : Bytes := []

namespace Console

variable {κ : Type}

/-- Makes a call on the system. -/
def call {α : Type} (m : StateM κ α) : StateM (Console κ) α := fun c =>
  let (a, kernel) := m c.kernel
  (a, { c with kernel := kernel })

instance [Kernel κ] : Environment (Console κ) where
  currentDirectory := call Environment.currentDirectory
  changeDirectory path := call (Environment.changeDirectory path)
  value? name := call (Environment.value? name)
  setVariable name value := call (Environment.setVariable name value)
  accountHome? := call Environment.accountHome?
  complain text := call (Environment.complain text)
  readInput := call Environment.readInput

def bufferCapacity : Nat := 1024

variable [Kernel κ]

/-- Writes past the buffer. -/
def writeThrough (bytes : Bytes) : StateM (Console κ) (Except Fault Unit) := do
  match ← call (Kernel.write Descriptor.output bytes) with
  | .ok () => return .ok ()
  | .error (_, e) => return .error (.system e)

/-- Writes the buffer out. On failure it keeps what was not written. -/
def flush : StateM (Console κ) (Except Fault Unit) := do
  let bytes := (← get).buffered
  if bytes.isEmpty then return .ok ()
  match ← call (Kernel.write Descriptor.output bytes) with
  | .ok () => modify ({ · with buffered := [] }); return .ok ()
  | .error (count, e) =>
      modify ({ · with buffered := bytes.drop count })
      return .error (.system e)

def append (bytes : Bytes) : StateM (Console κ) Unit :=
  modify fun c => { c with buffered := c.buffered ++ bytes }

/-- Adds bytes to the buffer, which is written out first if they do not fit. Bytes that would fill
it alone go past it. -/
def buffer (bytes : Bytes) : StateM (Console κ) (Except Fault Unit) := do
  let room := bufferCapacity - (← get).buffered.length
  if bytes.length ≤ room ∧ bytes.length < bufferCapacity then
    append bytes
    return .ok ()
  let emptied ← if bytes.length ≤ room then pure (.ok ()) else flush
  match emptied with
  | .error e => return .error e
  | .ok () =>
      if bufferCapacity ≤ bytes.length then writeThrough bytes
      else
        append bytes
        return .ok ()

/-- The bytes up to the last newline, and those after it. -/
def splitLines (bytes : Bytes) : Bytes × Bytes :=
  let tail := (bytes.reverse.takeWhile (· != Utf8.newline)).reverse
  (bytes.take (bytes.length - tail.length), tail)

/-- Prints bytes on standard output. -/
def print (bytes : Bytes) : StateM (Console κ) (Except Fault Unit) := do
  let (lines, tail) := splitLines bytes
  let pending := (← get).buffered
  let written ←
    if lines.isEmpty then
      if pending.getLast? = some Utf8.newline then flush else pure (.ok ())
    else if pending.isEmpty then writeThrough lines
    else
      match ← buffer lines with
      | .ok () => flush
      | .error e => pure (.error e)
  match written with
  | .ok () => buffer tail
  | .error e => return .error e

end Console

end LineShell
