import LineShell.Machine.Script.Grammar
import LineShell.Machine.Script.Children

/-!
Where the commands of a script come from: a text, or a descriptor that is read as far as is needed.
-/

namespace LineShell.Machine.Script

structure Source where
  reading : Reading
  /-- Where more can be read. -/
  descriptor : Option Descriptor := none

namespace Source

open Sh

def ofText (text : String) : Source := { reading := { rest := text.toList } }

def ofDescriptor (d : Descriptor) : Source :=
  { reading := { rest := [], closed := false }, descriptor := some d }

def blockSize : Nat := 8192

/-- Reads more of the script. Zeros in it do not count. -/
def extend (s : Source) : Sh Source := do
  let bytes ← match s.descriptor with
    | none => pure []
    | some d =>
        match ← act (.read d blockSize) with
        | .ok bytes => pure bytes
        | .error _ => pure []
  let text := (Raw.ofBytes bytes).toList.filter (· != '\x00')
  return { s with reading := { s.reading with
    rest := s.reading.rest ++ text, closed := s.reading.closed || bytes.isEmpty } }

/-- Nothing comes after what has been read. -/
def isOver (s : Source) : Bool := s.reading.held matches some .eof

/-- Shows the text that has been read, if that is asked for. -/
def showRead (before after : List Char) (s : Source) : Sh Unit := do
  if s.descriptor.isSome && (← hasOption 'v') then
    say (String.ofList (before.take (before.length - after.length)))

/-- The command of the next line or lines, if there is one, and what is left. -/
def next : Nat → Source → Sh (Option (Option Tree × Source))
  | 0, _ => return none
  | bound + 1, s => do
      let now ← state
      let reading := { s.reading with nextDocument := now.nextDocument, aliases := now.aliases }
      match Grammar.line.run reading with
      | .error .more => next bound (← s.extend)
      | .error (.failed line text) => do
          update ({ · with line := line })
          fail text
      | .ok (tree?, reading) => do
          let s' := { s with reading := { reading with documents := [] } }
          showRead s.reading.rest reading.rest s
          update fun state => { state with
            lineRead := reading.line
            documents := reading.documents ++ state.documents
            nextDocument := reading.nextDocument }
          return tree?.map fun tree => (tree, s')

/-- Runs commands up to the end or a command that returns, and gives the status of the last one. The
last one may be the last of all. -/
def run (mode : Mode) (status : Int) : Nat → Source → Sh (Flow × Int)
  | 0, _ => return (.on, status)
  | bound + 1, s => do
      match ← next Children.patience s with
      | none => return (.on, status)
      | some (none, s) => run mode status bound s
      | some (some tree, s) => do
          let flow ← Sh.run tree { mode with isLast := mode.isLast && s.isOver }
          let status := (← state).status
          if flow = .on then run mode status bound s else return (flow, status)

end Source

end LineShell.Machine.Script
