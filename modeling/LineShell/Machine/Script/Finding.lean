import LineShell.Machine.Script.Grammar
import LineShell.Machine.Script.Redirecting
import LineShell.Machine.Script.Arguments
import LineShell.Machine.Search
import LineShell.Machine.Stat

/-!
What the name of a command stands for: a keyword, a function, a builtin command or a program.
-/

namespace LineShell.Machine.Script

/-- What the name of a command stands for. -/
inductive Found where
  | function (body : Tree)
  | builtin
  /-- A program by its path. -/
  | program
  /-- A program that was found on the search path, with the paths that are to be tried. -/
  | onPath (paths : List String)
  | nothing (e : Errno)

namespace Finding

open Sh

/-- Builtin commands in which errors end a script. -/
def special : List String :=
  [".", ":", "break", "continue", "eval", "exec", "exit", "export", "readonly", "return", "set",
    "shift", "times", "trap", "unset", "local"]

/-- Those of them that describe themselves as such. -/
def ordinary : List String :=
  ["[", "alias", "bg", "cd", "chdir", "command", "echo", "false", "fg", "getopts", "hash", "jobs",
    "kill", "printf", "pwd", "read", "test", "true", "type", "ulimit", "umask", "unalias", "wait"]

/-- Builtin commands whose arguments may be assignments. -/
def assigning : List String := ["alias", "export", "local", "readonly"]

def isBuiltin (name : String) : Bool := special.contains name || ordinary.contains name

def standardPath : String := "/usr/local/sbin:/usr/local/bin:/usr/sbin:/usr/bin:/sbin:/bin"

/-- Where programs are looked for. -/
def searchPath : Sh (Option String) := value? "PATH"

def candidates (path : Option String) (name : String) : List String :=
  match path with
  | none => []
  | some path => (pieces (· = ':') path.toList).map fun d =>
      if d.isEmpty then name else String.ofList d ++ "/" ++ name

/-- Looks for a program, and tells why none was found. -/
def search : List String → Errno → Sh Found
  | [], e => return .nothing e
  | path :: rest, e => do
      match ← instant (Stat.ofPath true path) with
      | .error f => search rest (if f = .noEntry || f = .notDirectory then e else f)
      | .ok s =>
          if s.kind = .regular && fileTest 'x' s then return .onPath (path :: rest)
          else search rest .noAccess

/-- What a name stands for, where functions may be left out. -/
def find (usesFunctions : Bool) (path : Option String) (name : String) : Sh Found := do
  if name.contains '/' then return .program
  let functions := (← state).functions
  match if usesFunctions then functions.lookup name else none with
  | some body => return .function body
  | none =>
      if isBuiltin name then return .builtin
      search (candidates path name) .noEntry

/-- Keeps in mind that a program was found. -/
def remember (name : String) : Sh Unit := update fun s =>
  { s with known := s.known.filter (· != name) ++ [name] }

def notFound : String := "not found"

/-! ### Telling what names stand for -/

/-- Tells what a name stands for, in a word or in a sentence. -/
def describe (verbose : Bool) (path : Option String) (name : String) : Sh Int := do
  let tell (word sentence : String) : Sh Int := Printing.print
    ((if verbose then name ++ sentence else word) ++ "\n")
  if Grammar.keywords.contains name then tell name " is a shell keyword"
  else match (← state).aliases.lookup name with
    | some value =>
        tell ("alias " ++ name ++ "=" ++ Arguments.quoted value) (" is an alias for " ++ value)
    | none =>
        match ← find true path name with
        | .function _ => tell name " is a shell function"
        | .builtin =>
            tell name (if special.contains name then " is a special shell builtin"
              else " is a shell builtin")
        | .program =>
            match ← instant (Stat.ofPath true name) with
            | .ok _ => tell name (" is " ++ name)
            | .error _ => missing
        | .onPath paths =>
            let path := paths.headD ""
            tell path ((if (← state).known.contains name then " is a tracked alias for "
              else " is ") ++ path)
        | .nothing _ => missing
where
  missing : Sh Int := do
    let _ ← if verbose then Printing.print (name ++ ": " ++ notFound ++ "\n") else pure 0
    return 127

def type : Builtin := fun args => do
  let path ← searchPath
  let mut status : Int := 0
  for name in args do
    let one ← describe true path name
    status := max status one
  return status

/-- Tells what a command stands for, where options ask for that. -/
def command : Builtin := fun args => do
  let (given, names) ← Arguments.read [('p', false), ('v', false), ('V', false)] args
  let path ← if given.any (·.1 = 'p') then pure (some standardPath) else searchPath
  match names with
  | name :: _ =>
      if given.any (·.1 = 'V') then describe true path name
      else if given.any (·.1 = 'v') then describe false path name
      else return 0
  | [] => return 0

def hash : Builtin := fun args => do
  let (given, names) ← Arguments.read [('r', false)] args
  if !given.isEmpty then
    update ({ · with known := [] })
    return 0
  let path ← searchPath
  if names.isEmpty then
    let mut text := ""
    for name in (← state).known do
      if let .onPath (found :: _) ← find false path name then text := text ++ found ++ "\n"
    return ← Printing.print text
  let mut status : Int := 0
  for name in names do
    match ← find true path name with
    | .nothing e =>
        warn (name ++ ": " ++ Redirecting.reason e notFound)
        status := 1
    | .onPath _ => remember name
    | _ => pure ()
  return status

end Finding

end LineShell.Machine.Script
