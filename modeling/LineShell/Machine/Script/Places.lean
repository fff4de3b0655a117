import LineShell.Machine.Mode
import LineShell.Machine.Script.Arguments
import LineShell.Machine.Stat

/-!
The builtin commands of scripts that have to do with where the script works and what becomes of the
files that it makes.
-/

namespace LineShell.Machine.Script.Places

open Sh

/-- The directory in which the process works, by its name in the tree. -/
def physical : Sh (Except Errno String) := instant do
  let w ← get
  return match w.system.tree.nameOf? w.self.cwd with
    | some name => .ok name
    | none => .error .noEntry

/-- The directory in which the script works, by its name in the tree; the script is told if it has
none. -/
def physicalName : Sh String := do
  match ← physical with
  | .ok name => return name
  | .error e => do
      warn ("getcwd() failed: " ++ e.sentence)
      return ""

/-- Goes to where the names of a path lead from a directory, by its text alone. -/
def combine (base path : String) : String :=
  let start := if Path.isAbsolute path then [] else (Path.names base).filter (· != "")
  let names := (Path.names path).foldl (fun names name =>
    if Path.stays name then names
    else if name = ".." then names.dropLast
    else names ++ [name]) start
  "/" ++ "/".intercalate names

def setDirectory (path : String) : Sh Unit := do
  let b := (← binding? "PWD").getD {}
  if b.locked then fail "PWD: is read only"
  setBinding "PWD" { b with value := some path, exported := true }
  update ({ · with directory := path })

/-- Takes up the name of the working directory that the script was given, if it is right. -/
def start : Sh Unit := do
  let given := (← value? "PWD").getD ""
  let isRight ← instant do
    let w ← get
    return Path.isAbsolute given &&
      (match w.system.tree.locate w.self.cwd given with
        | .ok n => n = w.self.cwd
        | .error _ => false)
  setDirectory (← if isRight then pure given else physicalName)

/-- Goes to a directory, and tells whether that was done. -/
def go (isPhysical : Bool) (path : String) : Sh Bool := do
  let directory := (← state).directory
  let goal := if isPhysical || directory.isEmpty then path else combine directory path
  match ← instant (World.changeDirectory goal) with
  | .error _ => return false
  | .ok () => do
      assign "OLDPWD" directory
      let b := (← binding? "OLDPWD").getD {}
      setBinding "OLDPWD" { b with exported := true }
      setDirectory (← if isPhysical || directory.isEmpty then physicalName else pure goal)
      return true

/-- A path that says itself where it starts. -/
def isSettled (path : String) : Bool :=
  Path.isAbsolute path || path = "." || path = ".." || path.startsWith "./" ||
    path.startsWith "../"

/-- Goes to a directory that may lie in one of some others, and tells under what name it was found. -/
def goAmong (isPhysical : Bool) (path : String) : List String → Sh (Option String)
  | [] => return if ← go isPhysical path then some "" else none
  | base :: rest => do
      let candidate := if base.isEmpty then path else base ++ "/" ++ path
      if ← instant (testPath 'd' candidate) then
        if ← go isPhysical candidate then return some base else return none
      else goAmong isPhysical path rest

def cd : Builtin := fun args => do
  let (given, operands) ← Arguments.read [('L', false), ('P', false)] args
  let isPhysical := given.getLast?.any (·.1 = 'P')
  let wanted ← match operands with
    | [] => value? "HOME"
    | "-" :: _ => value? "OLDPWD"
    | path :: _ => pure (some path)
  let path := wanted.getD ""
  let bases ← do
    if isSettled path then pure []
    else match ← value? "CDPATH" with
      | some text => pure ((pieces (· = ':') text.toList).map String.ofList)
      | none => pure []
  let path := if path.isEmpty then "." else path
  match ← goAmong isPhysical path bases with
  | none => fail ("can't cd to " ++ wanted.getD "")
  | some base =>
      if !base.isEmpty || operands.head? = some "-" then
        Printing.print ((← state).directory ++ "\n")
      else return 0

def pwd : Builtin := fun args => do
  let (given, _) ← Arguments.read [('L', false), ('P', false)] args
  if given.getLast?.any (·.1 = 'P') then Printing.print ((← physicalName) ++ "\n")
  else Printing.print ((← state).directory ++ "\n")

/-! ### The mask for new files -/

def octal (n least : Nat) : String :=
  let text := String.ofList (Nat.toDigits 8 n)
  String.ofList (List.replicate (least - text.length) '0') ++ text

def letters (bits : Nat) : String :=
  (if bits &&& 4 != 0 then "r" else "") ++ (if bits &&& 2 != 0 then "w" else "") ++
    (if bits &&& 1 != 0 then "x" else "")

def symbolic (mask : Nat) : String :=
  let open_ (shift : Nat) : String := letters (((mask >>> shift) &&& 7) ^^^ 7)
  "u=" ++ open_ 6 ++ ",g=" ++ open_ 3 ++ ",o=" ++ open_ 0

def umask : Builtin := fun args => do
  let (given, operands) ← Arguments.read [('S', false)] args
  let mask ← instant do return (← get).self.mask
  match operands with
  | [] => Printing.print ((if given.isEmpty then octal mask 4 else symbolic mask) ++ "\n")
  | text :: _ => do
      let set (mask : Nat) : Sh Int := do
        instant (modify fun w => { w with self := { w.self with mask := mask &&& 0o777 } })
        return 0
      if text.toList.head?.any Char.isDigit then
        let (n, rest) := Class.number 8 text.length 0 text.toList
        if rest.isEmpty then set n else Arguments.illegal text
      else
        match Mode.ofText? text with
        | some change => set (0o777 ^^^ (change.apply false 0 (0o777 ^^^ mask)))
        | none => fail ("Illegal mode: " ++ text)

end LineShell.Machine.Script.Places
