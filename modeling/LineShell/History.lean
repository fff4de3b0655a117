import LineShell.Error
import LineShell.Line.Terminated
import LineShell.Text.Blank

/-!
The history of a line editor, by the rules of rustyline 17: the lines entered last, no more than its
capacity. A line is not recorded if it is empty, begins with white space, or repeats the one recorded
last. Kept in a file, a history is a first line that names the format and then a line for each entry,
in which a newline is written `\n` and a backslash is doubled.
-/

namespace LineShell

structure History where
  capacity : Nat
  /-- The lines recorded, the oldest first. -/
  entries : List String := []
  /-- How many lines were recorded since the history was last loaded or saved. -/
  fresh : Nat := 0
  deriving DecidableEq, Repr

namespace History

def size (h : History) : Nat := h.entries.length

def ignores (h : History) (line : String) : Bool :=
  h.capacity = 0 || line.isEmpty || Blank.startsBlank line || h.entries.getLast? = some line

/-- Records a line, at the cost of the oldest one when the history is full. -/
def add (h : History) (line : String) : History :=
  if h.ignores line then h
  else
    let kept := if h.entries.length = h.capacity then h.entries.drop 1 else h.entries
    let entries := kept ++ [line]
    { h with entries := entries, fresh := min (h.fresh + 1) entries.length }

def formatLine : String := "#V2"

def escape (entry : String) : String :=
  String.ofList (entry.toList.flatMap fun c =>
    if c = '\n' then ['\\', 'n'] else if c = '\\' then ['\\', '\\'] else [c])

def unescapeChars : List Char → Option (List Char)
  | [] => some []
  | '\\' :: 'n' :: rest => (unescapeChars rest).map ('\n' :: ·)
  | '\\' :: '\\' :: rest => (unescapeChars rest).map ('\\' :: ·)
  | c :: rest => if c = '\\' then none else (unescapeChars rest).map (c :: ·)

/-- The entry that a line stands for. A line that is no escaped entry stands for itself. -/
def unescape (line : String) : String :=
  match unescapeChars line.toList with
  | some cs => String.ofList cs
  | none => line

/-- The contents of a file that keeps the history. -/
def render (h : History) : Bytes :=
  Utf8.encode (String.join ((formatLine :: h.entries.map escape).map (· ++ "\n")))

/-- Records lines of a file, up to the first that is no text. -/
def addLines (h : History) (read : String → String) : List Bytes → History × Option Fault
  | [] => (h, none)
  | bytes :: rest =>
      match Utf8.decode? bytes with
      | none => (h, some .invalidText)
      | some line => addLines (h.add (read line)) read rest

/-- Records the entries kept in a file. A file without the first line that names the format is
taken to hold its entries as they are. -/
def addFile (h : History) (contents : Bytes) : History × Option Fault :=
  match Line.all contents with
  | [] => (h, none)
  | first :: rest =>
      if Utf8.decode? first = some formatLine then addLines h unescape rest
      else addLines h id (first :: rest)

/-- Forgets that lines are new. -/
def settled (h : History) : History := { h with fresh := 0 }

end History

end LineShell
