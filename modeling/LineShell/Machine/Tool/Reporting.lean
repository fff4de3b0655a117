import LineShell.Machine.Awk.Reader
import LineShell.Machine.Awk.Running

/-!
A tool that works on records and their fields as a program tells it.
-/

namespace LineShell.Machine.Tool

namespace Reporting

open Awk

def usage : String :=
  "Usage: mawk [Options] [Program] [file ...]\n\nProgram:\n" ++
  "    The -f option value is the name of a file containing program text.\n" ++
  "    If no -f option is given, a \"--\" ends option processing; the following\n" ++
  "    parameters are the program text.\n\nOptions:\n" ++
  "    -f program-file  Program  text is read from file instead of from the\n" ++
  "                     command-line.  Multiple -f options are accepted.\n" ++
  "    -F value         sets the field separator, FS, to value.\n" ++
  "    -v var=value     assigns value to program variable var.\n" ++
  "    --               unambiguous end of options.\n\n" ++
  "    Implementation-specific options are prefixed with \"-W\".  They can be\n" ++
  "    abbreviated:\n\n" ++
  "    -W version       show version information and exit.\n" ++
  "    -W compat        pre-POSIX 2001.\n" ++
  "    -W dump          show assembler-like listing of program and exit.\n" ++
  "    -W help          show this message and exit.\n" ++
  "    -W interactive   set unbuffered output, line-buffered input.\n" ++
  "    -W exec file     use file as program as well as last option.\n" ++
  "    -W posix         stricter POSIX checking.\n" ++
  "    -W random=number set initial random seed.\n" ++
  "    -W sprintf=number adjust size of sprintf buffer.\n" ++
  "    -W usage         show this message and exit.\n"

/-- How the tool was called. -/
structure Setup where
  separator : Option String := none
  /-- The names and values that are assigned, the last one first. -/
  given : List (String × String) := []
  /-- The files that the program is read from, the last one first. -/
  files : List String := []
  operands : List String := []

/-- Options that have long names. Of a name, its beginning will do. -/
def longNames : List String := [
  "compat", "dump", "exec", "help", "interactive", "posix", "random", "repetitions", "sprintf",
  "traditional", "usage", "version"]

def longName? (text : String) : Option String :=
  let name := String.ofList (text.toList.takeWhile (· != '='))
  if name.isEmpty then none else longNames.find? (·.startsWith name)

/-- Does what an option with a long name asks for. -/
def longOption (name : String) : Tool Unit := do
  if name = "help" || name = "usage" then
    putText usage
    exit 0

/-- Reads the options, up to the operands. -/
def readOptions : List String → Setup → Tool Setup
  | [], s => return s
  | "--" :: rest, s => return { s with operands := rest }
  | arg :: rest, s => do
      match arg.toList with
      | ['-'] => return { s with operands := arg :: rest }
      | '-' :: '-' :: name =>
          match longName? (String.ofList name) with
          | some name => do
              longOption name
              readOptions rest s
          | none => fail 2 ("not an option: " ++ arg)
      | '-' :: letter :: attached =>
          if letter != 'F' && letter != 'f' && letter != 'v' && letter != 'W' then
            fail 2 ("not an option: " ++ arg)
          match attached, rest with
          | [], [] => fail 2 ("option -" ++ String.singleton letter ++ " lacks argument")
          | [], text :: rest => do
              let s ← use letter text s
              readOptions rest s
          | attached, rest => do
              let s ← use letter (String.ofList attached) s
              readOptions rest s
      | _ => return { s with operands := arg :: rest }
where
  use (letter : Char) (text : String) (s : Setup) : Tool Setup := do
    match letter with
    | 'F' =>
        return { s with
          separator := some (String.ofList (Run.unescape (text.length + 1) text.toList)) }
    | 'f' => return { s with files := text :: s.files }
    | 'v' =>
        match Run.assignment? text with
        | some given => return { s with given := given :: s.given }
        | none => fail 2 ("improper assignment: -v " ++ text)
    | _ => do
        match longName? text with
        | some name => longOption name
        | none => warn ("vacuous option: -W \"" ++ text ++ "\"")
        return s

/-- The names and texts of the files that the program is read from. -/
def readFiles : List String → Tool (List (String × List Char))
  | [] => return []
  | name :: rest => do
      let unopened (e : Errno) : Tool (Except Errno Bytes) :=
        fail 2 ("cannot open \"" ++ name ++ "\" (" ++ e.sentence ++ ")")
      match ← withInput name unopened everything with
      | .error e => fail 2 ("read error (" ++ e.sentence ++ ")")
      | .ok bytes => do
          let text := (Raw.ofBytes bytes).toList
          return (name, text ++ ['\n']) :: (← readFiles rest)

/-- An array of texts. -/
def tableOf (elements : List (Key × String)) : Awk.Table Value :=
  elements.foldl (fun t (key, text) => t.insert key (.input text)) Awk.Table.empty

/-- What the program starts with. -/
def startState (name : String) (operands : List String) (settings : Settings) (script : Script) :
    State :=
  let arguments := name :: operands
  let numbered := arguments.zipIdx.map fun (text, i) => (Key.number i, text)
  let texts : List (String × Value) := [
    ("FS", .text " "), ("OFS", .text " "), ("ORS", .text "\n"), ("RS", .text "\n"),
    ("SUBSEP", .text "\x1c"), ("CONVFMT", .text "%.6g"), ("OFMT", .text "%.6g"),
    ("NR", .number 0), ("FNR", .number 0), ("FILENAME", .text ""), ("ARGC", .ofNat arguments.length)]
  { shared := Std.HashMap.ofList texts
    tableIds := Std.HashMap.ofList [("ENVIRON", 0), ("ARGV", 1)]
    tables := #[tableOf (settings.map fun (name, text) => (Key.text name, text)), tableOf numbered]
    functions := script.functions }

def assignAll : List (String × String) → Run Unit
  | [] => return ()
  | (name, text) :: rest => do
      Run.assign name text
      assignAll rest

end Reporting

open Reporting in
def awk : Tool Unit := do
  let call ← read
  if call.arguments.isEmpty then
    say usage
    exit 0
  let setup ← readOptions call.arguments {}
  let given := setup.given.reverse.map (·.1)
  if let some separator := setup.separator then
    if let .error e := Awk.Separator.ofText separator then
      fail 2 ("line 0: regular expression compile failed (" ++ e ++ ")\n" ++ separator)
  let (script, complaints, operands) ← match setup.files.reverse, setup.operands with
    | [], [] => exit 0
    | [], "-" :: _ => exit 0
    | [], text :: operands => do
        let (script, complaints) := Awk.Script.read given none (text.toList ++ ['\n']) []
        pure (script, complaints, operands)
    | files, operands => do
        match ← readFiles files with
        | [] => exit 0
        | (name, text) :: further => do
            let (script, complaints) := Awk.Script.read given (some name) text further
            pure (script, complaints, operands)
  if !complaints.isEmpty then
    for text in complaints do warn text
    exit 2
  let settings := (← world).self.settings
  let work : Awk.Run Unit := do
    assignAll setup.given.reverse
    if let some s := setup.separator then Awk.Run.set "FS" (.text s)
    Awk.Run.perform script
  let _ ← (work.run).run (startState call.name operands settings script)
  return ()

end LineShell.Machine.Tool
