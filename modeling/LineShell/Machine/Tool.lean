import LineShell.Machine.Options
import LineShell.Machine.Program

/-!
Tools: the small programs that every machine has. What a tool prints is kept until there is enough of
it or the tool says something about its work. A tool ends by returning, or early with an exit code.
-/

namespace LineShell.Machine

/-- How a tool was called. -/
structure Call where
  /-- The name by which the tool speaks of itself. -/
  name : String
  arguments : List String
  /-- The exit code if the output cannot be written. -/
  outputFailure : Int := 1
  /-- What is said then. -/
  outputComplaint : Errno → String := fun e => "write error: " ++ e.sentence

/-- How far the work of a tool has come. -/
structure Progress where
  /-- What was printed and not yet written, the last part first. -/
  printed : List Bytes := []
  size : Nat := 0
  /-- The exit code that the tool comes to. -/
  code : Int := 0

abbrev Tool := ReaderT Call (StateT Progress Act)

namespace Tool

variable {α σ : Type}

def diagnostics : Descriptor := 2

def blockSize : Nat := 65536

/-- So much is printed before it is written. -/
def printSize : Nat := 4096

/-- A bound that no loop of a tool reaches. -/
def patience : Nat := 100000000

def act (a : Act α) : Tool α := fun _ progress next => a fun value => next (value, progress)

def instant (f : Instant α) : Tool α := act (.instant f)

def world : Tool World := instant get

def writeTo (d : Descriptor) (bytes : Bytes) : Tool (Option Errno) := act (.write d bytes)

/-- Ends the tool at once, without writing what was printed. -/
def quit (code : Int) : Tool α := act (.exit code)

/-- Ends the tool because its output cannot be written. -/
def failOutput (e : Errno) : Tool α := do
  let call ← read
  let _ ← writeTo diagnostics (Raw.toBytes (call.name ++ ": " ++ call.outputComplaint e ++ "\n"))
  quit call.outputFailure

/-- Writes what was printed. -/
def flush : Tool Unit := do
  let progress ← get
  if progress.size != 0 then
    set { progress with printed := [], size := 0 }
    match ← writeTo Descriptor.output progress.printed.reverse.flatten with
    | none => return ()
    | some e => failOutput e

def put (bytes : Bytes) : Tool Unit := do
  modify fun p => { p with printed := bytes :: p.printed, size := p.size + bytes.length }
  if printSize ≤ (← get).size then flush

def putText (text : String) : Tool Unit := put (Raw.toBytes text)

/-- Ends the tool. -/
def exit (code : Int) : Tool α := do
  flush
  quit code

/-- Says something about the tool's work. -/
def say (text : String) : Tool Unit := do
  flush
  let _ ← writeTo diagnostics (Raw.toBytes text)

/-- Says what is wrong, as the tool itself. -/
def warn (text : String) : Tool Unit := do say ((← read).name ++ ": " ++ text ++ "\n")

/-- The tool comes to an exit code at least this high. -/
def blame (code : Int) : Tool Unit := modify fun p => { p with code := max p.code code }

/-- Says what is wrong, and goes on to fail. -/
def complain (text : String) : Tool Unit := do
  warn text
  blame 1

def fail (code : Int) (text : String) : Tool α := do
  warn text
  exit code

/-- Where to learn how the tool is called. -/
def hint (code : Int) : Tool α := do
  say ("Try '" ++ (← read).name ++ " --help' for more information.\n")
  exit code

/-- Says what is wrong with the call, and where to learn better. -/
def misuse (code : Int) (text : String) : Tool α := do
  warn text
  hint code

def forEach {β : Type} (list : List β) (f : β → Tool Unit) : Tool Unit :=
  match list with
  | [] => return ()
  | b :: rest => do
      f b
      forEach rest f

/-- The options and operands among some arguments. Each option and its value have to bear up against
`check`, before it is told what is wrong with later ones. -/
def checkedOptions (code : Int) (letters words : String) (arguments : List String)
    (check : String → String → Tool Unit) : Tool Options := do
  let (o, trouble) := Options.parse (Options.known letters words) arguments
  forEach o.given fun (key, value) => check key value
  match trouble with
  | none => return o
  | some e => misuse code e

/-- The options and operands among some arguments. -/
def optionsOf (code : Int) (letters words : String) (arguments : List String) : Tool Options :=
  checkedOptions code letters words arguments fun _ _ => return ()

/-- The options and operands of the call. -/
def options (code : Int) (letters words : String) : Tool Options := do
  optionsOf code letters words (← read).arguments

/-- What a process does to whom this tool is given to run. -/
def toProgram (tool : Tool Unit) (call : Call) : Program :=
  (do
    tool
    exit (← get).code : Tool Empty) call {} nofun

/-! ### Input -/

def block (d : Descriptor) : Tool (Except Errno Bytes) := act (.read d blockSize)

/-- Gives back bytes that were read last, if the descriptor stands for a file. -/
def giveBack (d : Descriptor) (count : Nat) : Tool Unit := do
  match ← instant (World.file? d) with
  | some file =>
      if file.stream matches .node _ then instant (World.moveTo d (file.position - count))
  | none => return ()

def openInput (path : String) : Tool (Except Errno Descriptor) :=
  instant (World.openPath .forReading path)

def close (d : Descriptor) : Tool Unit := do
  let _ ← instant (World.close d)

/-- Reads on to the end, after the blocks in `blocks`, the last one first. -/
def drain (d : Descriptor) : Nat → List Bytes → Tool (Except Errno Bytes)
  | 0, blocks => return .ok blocks.reverse.flatten
  | bound + 1, blocks => do
      match ← block d with
      | .error e => return .error e
      | .ok bytes =>
          if bytes.isEmpty then return .ok blocks.reverse.flatten
          drain d bound (bytes :: blocks)

def everything (d : Descriptor) : Tool (Except Errno Bytes) := drain d patience []

/-- Hands the blocks that come to `f`, and gives why they stopped if that is not their end. -/
def forBlocks (d : Descriptor) (f : Bytes → Tool Unit) : Nat → Tool (Option Errno)
  | 0 => return none
  | bound + 1 => do
      match ← block d with
      | .error e => return some e
      | .ok bytes =>
          if bytes.isEmpty then return none
          f bytes
          forBlocks d f bound

/-- The lines of some bytes, and the bytes after the last newline. -/
def cutLines (ending : UInt8) (bytes : Bytes) : List Bytes × Bytes :=
  let pieces := pieces (· = ending) bytes
  (pieces.dropLast, pieces.getLast?.getD [])

/-- All lines of some bytes; the last one may lack its newline. -/
def linesOf (ending : UInt8) (bytes : Bytes) : List Bytes :=
  let (lines, rest) := cutLines ending bytes
  if rest.isEmpty then lines else lines ++ [rest]

def joinLines (ending : UInt8) (lines : List Bytes) : Bytes := lines.flatMap (· ++ [ending])

/-- What to do after a line. -/
inductive Next (σ : Type) where
  | more (s : σ)
  | stop (s : σ)

/-- Hands lines to `f` until it asks for no more, and tells how many bytes are left then. -/
def eachLine (f : σ → Bytes → Tool (Next σ)) (left : Nat) :
    List Bytes → σ → Tool (σ × Option Nat)
  | [], s => return (s, none)
  | line :: rest, s => do
      match ← f s line with
      | .more s => eachLine f left rest s
      | .stop s => return (s, some (rest.foldl (fun n l => n + l.length + 1) left))

/-- Hands the lines that come to `f`, as `ended` says with or without a newline at the end. Of a
file, what comes after the line with which `f` stops is given back. -/
def foldLines (d : Descriptor) (ending : UInt8) (f : Bool → σ → Bytes → Tool (Next σ)) :
    Nat → Bytes → σ → Tool (σ × Option Errno)
  | 0, _, s => return (s, none)
  | bound + 1, carried, s => do
      match ← block d with
      | .error e => return (s, some e)
      | .ok bytes =>
          if bytes.isEmpty then
            if carried.isEmpty then return (s, none)
            match ← f false s carried with
            | .more s | .stop s => return (s, none)
          let (lines, rest) := cutLines ending bytes
          match lines with
          | [] => foldLines d ending f bound (carried ++ rest) s
          | first :: more =>
              match ← eachLine (f true) rest.length ((carried ++ first) :: more) s with
              | (s, none) => foldLines d ending f bound rest s
              | (s, some left) => do
                  giveBack d left
                  return (s, none)

/-- The complaint that names a file and says what is wrong with it. -/
def named (operand : String) (e : Errno) : String := operand ++ ": " ++ e.sentence

/-- Does something with the descriptor of an operand, where a dash is the standard input. -/
def withInput (operand : String) (unopened : Errno → Tool α) (f : Descriptor → Tool α) : Tool α := do
  if operand = "-" then f Descriptor.input
  else
    match ← openInput operand with
    | .error e => unopened e
    | .ok d => do
        let a ← f d
        close d
        return a

/-- A numeral of the numbers 0, 1, 2, … -/
def count? (text : String) : Option Nat :=
  if !text.isEmpty && text.all Char.isDigit then text.toNat? else none

end Tool

end LineShell.Machine
