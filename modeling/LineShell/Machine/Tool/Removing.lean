import LineShell.Machine.Stat
import LineShell.Machine.Tool.Choosing

/-!
Tools that take files and directories out of the tree.
-/

namespace LineShell.Machine.Tool

/-- The last name of a path, with nothing but slashes behind it. -/
def lastName (path : String) : String := FileTree.lastName path

/-- The path of a name in a directory. -/
def below (directory name : String) : String :=
  if directory.endsWith "/" then directory ++ name else directory ++ "/" ++ name

/-- The names in a directory. -/
def namesWithin (n : NodeId) : Tool (List String) := do
  return ((← world).system.tree.children n).map (·.1)

/-- Where a link leads. -/
def linkTarget (n : NodeId) : Tool String := do
  match (← world).system.tree.content n with
  | .link target => return target
  | _ => return ""

def quoted (operand : String) (e : Errno) : String := Quoting.always operand ++ ": " ++ e.sentence

/-! ### Directories -/

/-- Removes a directory, and says so if that is wanted. -/
def removeDirectory (o : Options) (parent : Bool) (path : String) : Tool Bool := do
  if o.isSet "v" then putText ("rmdir: removing directory, " ++ Quoting.always path ++ "\n")
  match ← instant (World.change fun t cwd => t.removeDirectory cwd path) with
  | .ok () => return true
  | .error e => do
      let isSlashed := path.endsWith "/" && e = .notDirectory &&
        (← instant (testPath 'h' (FileTree.withoutSlashes path)))
      if o.isSet "ignore-fail-on-non-empty" && e = .notEmpty then return false
      let sentence := if isSlashed then "Symbolic link not followed" else e.sentence
      complain ("failed to remove " ++ (if parent then "directory " else "") ++
        Quoting.always path ++ ": " ++ sentence)
      return false

/-- The path without its last name, if something is left. -/
def parentPath? (path : String) : Option String :=
  let body := (FileTree.withoutSlashes path).toList.reverse
  let above := (body.dropWhile (· != '/')).dropWhile (· = '/')
  if above.isEmpty then none else some (String.ofList above.reverse)

def removeParents (o : Options) : Nat → String → Tool Unit
  | 0, _ => return ()
  | bound + 1, path => do
      match parentPath? path with
      | none => return ()
      | some parent =>
          if ← removeDirectory o true parent then removeParents o bound parent

def rmdir : Tool Unit := do
  let o ← options 1 "pv" "ignore-fail-on-non-empty path=p parents=p verbose=v"
  if o.operands.isEmpty then misuse 1 "missing operand"
  forEach o.operands fun path => do
    if ← removeDirectory o false path then
      if o.isSet "p" then removeParents o path.length path

/-! ### Everything -/

/-- When `rm` asks before it removes. -/
inductive Asking where
  | never
  | once
  | always
  deriving DecidableEq, Repr

structure Removal where
  asking : Asking
  force : Bool
  recursive : Bool
  /-- Directories with nothing in them are removed too. -/
  directories : Bool
  verbose : Bool
  sparesRoot : Bool
  deriving DecidableEq, Repr

/-- Reads a line of the standard input, of which the first character is given. -/
def answer : Nat → Option UInt8 → Tool (Option UInt8)
  | 0, first => return first
  | bound + 1, first => do
      match ← act (.read Descriptor.input 1) with
      | .ok [b] => if b = 10 then return first else answer bound (first.orElse fun _ => some b)
      | _ => return first

/-- Asks, and gives whether the answer was yes. -/
def confirm (question : String) : Tool Bool := do
  say ((← read).name ++ ": " ++ question ++ "? ")
  let first ← answer patience none
  return first = some 121 || first = some 89

def kindName (s : Stat) : String :=
  match s.kind with
  | .regular => if s.size = 0 then "regular empty file" else "regular file"
  | .directory => "directory"
  | .link => "symbolic link"
  | .character => "character special file"
  | .pipe => "fifo"

/-- Takes one name away, after asking if that is wanted. -/
def removeOne (r : Removal) (path : String) (s : Stat) : Tool Bool := do
  let isDirectory := s.kind = .directory
  if r.asking = .always then
    if !(← confirm ("remove " ++ kindName s ++ " " ++ Quoting.always path)) then return false
  match ← instant (World.change fun t cwd =>
      if isDirectory then t.removeDirectory cwd path else t.removeFile cwd path) with
  | .ok () => do
      if r.verbose then
        putText ("removed " ++ (if isDirectory then "directory " else "") ++ Quoting.always path ++
          "\n")
      return true
  | .error e => do
      complain ("cannot remove " ++ quoted path e)
      return false

/-- Removes a file, or a directory with what is in it. A directory stays if something in it does. -/
def removeTree (r : Removal) : Nat → Bool → String → Tool Bool
  | 0, _, _ => return false
  | depth + 1, top, path => do
      match ← instant (Stat.ofPath false path) with
      | .error e => do
          let e ← match ← instant (World.change fun t cwd => t.removeFile cwd path) with
            | .error e => pure e
            | .ok () => pure e
          if !(r.force && (e = .noEntry || e = .notDirectory)) then
            complain ("cannot remove " ++ quoted path e)
          return false
      | .ok s =>
          if s.kind != .directory then removeOne r path s
          else
            let names ← namesWithin s.node
            if !r.recursive && !(r.directories && names.isEmpty) then
              let e : Errno := if r.directories then .notEmpty else .isDirectory
              complain ("cannot remove " ++ quoted path e)
              return false
            let last := (((Path.names path).filter (· != "")).getLast?).getD ""
            if top && (last = "." || last = "..") then
              complain ("refusing to remove '.' or '..' directory: skipping " ++
                Quoting.always path)
              return false
            if top && r.sparesRoot && s.node = FileTree.root then
              complain ("it is dangerous to operate recursively on " ++
                (if path = "/" then "'/'" else Quoting.always path ++ " (same as '/')"))
              warn "use --no-preserve-root to override this failsafe"
              return false
            if r.asking = .always && !names.isEmpty then
              if !(← confirm ("descend into directory " ++ Quoting.always path)) then return false
            let gone ← names.foldlM (fun gone name => do
              return (← removeTree r depth false (below path name)) && gone) true
            if gone then removeOne r path s else return false

def deepestTree : Nat := 4096

/-- Tells how to name a file that begins with a dash, if one was meant. -/
def tellOfDashes : List String → Tool Unit
  | [] => return ()
  | argument :: rest => do
      let isFile := argument.startsWith "-" && 1 < argument.length &&
        (← instant (Stat.ofPath false argument)) matches .ok _
      if isFile then
        say ("Try 'rm " ++ Quoting.ifNeeded ("./" ++ argument) ++ "' to remove the file " ++
          Quoting.always argument ++ ".\n")
      else tellOfDashes rest

def rmOptions (letters words : String) : Tool Options := do
  let arguments := (← read).arguments
  let (o, trouble) := Options.parse (Options.known letters words) arguments
  let choices : Choices := [["never", "no", "none"], ["once"], ["always", "yes"]]
  forEach o.given fun (key, value) =>
    if key = "interactive" && !value.isEmpty then choices.insist "--interactive" value
    else return ()
  match trouble with
  | none => return { o with given := o.given.map fun (key, value) =>
      (key, if key = "interactive" then (choices.meaning? value).getD "always" else value) }
  | some e => do
      warn e
      tellOfDashes arguments
      hint 1

def rm : Tool Unit := do
  let o ← rmOptions "dfiIrRv"
    ("force=f interactive:: one-file-system no-preserve-root preserve-root:: " ++
      "-presume-input-tty recursive=r dir=d verbose=v")
  let asking ← match o.last? ["f", "i", "I", "interactive"] with
    | some "i" => pure Asking.always
    | some "I" => pure .once
    | some "interactive" =>
        match (o.value? "interactive").getD "" with
        | "never" => pure .never
        | "once" => pure .once
        | _ => pure .always
    | _ => pure .never
  let force := (o.last? ["f", "i", "I"]) = some "f"
  if o.operands.isEmpty then
    if force then return ()
    misuse 1 "missing operand"
  let recursive := o.isSet "r" || o.isSet "R"
  let count := o.operands.length
  if asking = .once && (recursive || 3 < count) then
    let question := "remove " ++ toString count ++ (if count = 1 then " argument" else " arguments")
      ++ (if recursive then " recursively" else "")
    if !(← confirm question) then return ()
  let r : Removal := {
    asking := asking, force := force, recursive := recursive, directories := o.isSet "d"
    verbose := o.isSet "v"
    sparesRoot := (o.last? ["preserve-root", "no-preserve-root"]) != some "no-preserve-root" }
  forEach o.operands fun path => do
    let _ ← removeTree r deepestTree true path

def unlink : Tool Unit := do
  let o ← options 1 "" ""
  match o.operands with
  | [] => misuse 1 "missing operand"
  | [path] => do
      if let .error e ← instant (World.change fun t cwd => t.removeFile cwd path) then
        fail 1 ("cannot unlink " ++ quoted path e)
  | _ :: extra :: _ => misuse 1 ("extra operand " ++ Quoting.plain extra)

end LineShell.Machine.Tool
