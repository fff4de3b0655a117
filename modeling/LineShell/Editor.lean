import LineShell.Console
import LineShell.History
import LineShell.Line.Rubout

/-!
The line editor of an interactive shell, for a standard input that is no terminal. As rustyline 17
does, it reads ahead in blocks, so programs started by the shell do not find what it has read, and it
asks for a line only if the terminal, as far as it knows of one, is of a kind that it can do nothing
with.
-/

namespace LineShell

structure Editor where
  history : History
  /-- What was read from standard input and not yet used. -/
  ahead : Bytes := []
  /-- It asks for each line. -/
  asks : Bool := false
  deriving DecidableEq, Repr

namespace Editor

def ofCapacity (capacity : Nat) : Editor := { history := { capacity := capacity } }

def blockSize : Nat := 8192

/-- How much of a standard input of `size` bytes is read to get `needed` bytes from it. -/
def readAhead (needed size : Nat) : Nat :=
  min size ((needed + blockSize - 1) / blockSize * blockSize)

/-- The number of bytes of the first line, its newline counted. -/
def lineSize (bytes : Bytes) : Nat :=
  let line := bytes.takeWhile (· != Utf8.newline)
  min (line.length + 1) bytes.length

/-- Records a line that holds more than white space. -/
def record (e : Editor) (line : String) : Editor :=
  if Blank.isBlankText line then e else { e with history := e.history.add line }

/-- The outcome of reading a line of the given bytes. -/
def take (e : Editor) : Option (Bytes × Bytes) → Except Error (Option String) × Editor
  | none => (.ok none, { e with ahead := [] })
  | some (line, rest) =>
      let e := { e with ahead := rest }
      match Utf8.decode? line with
      | none => (.error (.editor .invalidText), e)
      | some text =>
          match Line.rubout text with
          | none => (.error .collapse, e)
          | some text => (.ok (some text), e.record text)

/-- The next line, its end not included, and how much of the `pending` standard input it took. -/
def readLine (e : Editor) (pending : Bytes) : Except Error (Option String) × Editor × Nat :=
  let size := lineSize (e.ahead ++ pending)
  let count := readAhead (size - e.ahead.length) pending.length
  let (line, e) := e.take (Line.first? (e.ahead ++ pending.take count))
  (line, e, count)

/-- The editor's state for display. -/
def render (e : Editor) : String :=
  "count: " ++ toString e.history.size ++ "\ncapacity: " ++ toString e.history.capacity

/-- Kinds of terminals that the editor can do nothing with. -/
def plainTerminals : List String := ["dumb", "cons25", "emacs"]

variable {κ : Type} [Kernel κ]

/-- An editor that keeps a history of at most `capacity` lines. -/
def new (capacity : Nat) : StateM (Console κ) Editor := do
  let terminal ← Environment.value? "TERM"
  return { ofCapacity capacity with asks := terminal.any (plainTerminals.contains ·.shown.toLower) }

/-- Shows the prompt, if the editor asks for lines. -/
def ask (e : Editor) (prompt : String) : StateM (Console κ) (Except Fault Unit) := do
  if !e.asks then return .ok ()
  match ← Console.print (Utf8.encode prompt) with
  | .error fault => return .error fault
  | .ok () => Console.flush

/-- Asks for a line and reads it from standard input. -/
def next (e : Editor) (prompt : String) :
    StateM (Console κ) (Except Error (Option String) × Editor) := do
  match ← e.ask prompt with
  | .error fault => return (.error (.editor fault), e)
  | .ok () =>
      match ← Console.call (Kernel.pending Descriptor.input) with
      | .error fault => return (.error (.editor fault), e)
      | .ok pending =>
          let (line, e, count) := e.readLine pending
          Console.call (Kernel.skip Descriptor.input count)
          return (line, e)

/-- Records the entries of a file. That there is no such file is no failure. -/
def load (e : Editor) (path : SystemText) : StateM (Console κ) (Except Error Unit × Editor) := do
  match ← Console.call (Kernel.openFile path) with
  | .error fault =>
      if fault = .system .noEntry then return (.ok (), e)
      return (.error (.editor fault), e)
  | .ok d =>
      let contents ← Console.call (Kernel.pending d)
      Console.call (Kernel.close d)
      match contents with
      | .error fault => return (.error (.editor fault), e)
      | .ok contents =>
          match e.history.addFile contents with
          | (history, some fault) => return (.error (.editor fault), { e with history := history })
          | (history, none) => return (.ok (), { e with history := history.settled })

/-- Keeps the history in a file, if lines were recorded that are not in one. -/
def save (e : Editor) (path : SystemText) : StateM (Console κ) (Except Error Unit × Editor) := do
  if e.history.entries.isEmpty || e.history.fresh = 0 then return (.ok (), e)
  match ← Console.call (Kernel.saveFile path e.history.render) with
  | .ok () => return (.ok (), { e with history := e.history.settled })
  | .error fault => return (.error (.editor fault), e)

end Editor

end LineShell
