import LineShell.Machine.Script.Arguments
import LineShell.Machine.Script.Children

/-!
The builtin commands of scripts that have to do with variables and arguments.
-/

namespace LineShell.Machine.Script.Variables

open Sh

/-- The name in the text of an assignment, and the value if there is one. -/
def cut (text : String) : String × Option String :=
  let name := text.toList.takeWhile (· != '=')
  match text.toList.drop name.length with
  | _ :: value => (String.ofList name, some (String.ofList value))
  | [] => (text, none)

def checkName (name : String) : Sh Unit := do
  if !isName name then fail (name ++ ": bad variable name")

/-- The variables, of which only some are to be shown, in order of their names. -/
def listing (lead : String) (isShown : Binding → Bool) : Sh String := do
  let s ← state
  let shown := s.vars.filter fun (_, b) => isShown b
  let sorted := shown.mergeSort fun a b => decide (a.1 ≤ b.1)
  return String.join (sorted.map fun (name, b) =>
    lead ++ name ++ (match b.value with
      | some value => "=" ++ Arguments.quoted value
      | none => "") ++ "\n")

/-- Marks variables, which may be given values at the same time. -/
def mark (change : Binding → Binding) : List String → Sh Unit
  | [] => return ()
  | text :: rest => do
      let (name, value) := cut text
      checkName name
      if let some value := value then assign name value
      let b := (← binding? name).getD {}
      setBinding name (change b)
      mark change rest

def marking (lead : String) (isShown : Binding → Bool) (change : Binding → Binding) : Builtin :=
  fun args => do
    let (given, names) ← Arguments.read [('p', false)] args
    if given.isEmpty && !names.isEmpty then
      mark change names
      return 0
    else Printing.print (← listing lead isShown)

def export_ : Builtin := marking "export " Binding.exported ({ · with exported := true })

def readonly : Builtin := marking "readonly " Binding.locked ({ · with locked := true })

/-- Makes a variable local to the function that is run. It keeps its value unless another is given. -/
def makeLocal (name : String) (value : Option String) (exported : Bool) : Sh Unit := do
  let old ← binding? name
  update fun s => { s with locals := match s.locals with
    | frame :: rest =>
        (if frame.any (·.1 = name) then frame else (name, old) :: frame) :: rest
    | [] => [] }
  match value with
  | some value => assign name value
  | none => if old.isNone then setBinding name {}
  if exported then
    let b := (← binding? name).getD {}
    setBinding name { b with exported := true }

/-- Gives variables back what they stood for before a frame of local ones was opened. -/
def closeFrame : Sh Unit := do
  match (← state).locals with
  | [] => return ()
  | frame :: rest => do
      for (name, old) in frame do
        match old with
        | some b => setBinding name b
        | none => update fun s => { s with vars := s.vars.filter (·.1 != name) }
      update ({ · with locals := rest })

def openFrame : Sh Unit := update fun s => { s with locals := [] :: s.locals }

def local_ : Builtin := fun args => do
  if (← state).locals.isEmpty then fail "not in a function"
  for text in args do
    let (name, value) := cut text
    if name != "-" then
      checkName name
      makeLocal name value false
  return 0

def unset : Builtin := fun args => do
  let (given, names) ← Arguments.read [('v', false), ('f', false)] args
  let ofFunctions := given.getLast?.any (·.1 = 'f')
  for name in names do
    if ofFunctions then
      update fun s => { s with functions := s.functions.filter (·.1 != name) }
    else
      checkName name
      unassign name
  return 0

def set_ : Builtin := fun args => do
  if args.isEmpty then Printing.print (← listing "" fun b => b.value.isSome)
  else
    let (operands, _) ← Arguments.setOptions false (args.length + 1) args false
    if let some operands := operands then
      update ({ · with arguments := operands, optionOffset := 0 })
    return 0

def shift : Builtin := fun args => do
  let count ← match args with
    | [] => pure 1
    | text :: _ => Arguments.number text
  if (← state).arguments.length < count then fail "can't shift that many"
  update fun s => { s with arguments := s.arguments.drop count, optionOffset := 0 }
  return 0

/-! ### Options of scripts -/

/-- What comes of looking for the next option. -/
structure NextOption where
  letter : Char
  value : Option String
  /-- The number of the next argument, and how far into the one before it the options have come. -/
  next : Nat
  offset : Nat
  complaint : Option String := none
  isOver : Bool := false

/-- Whether an option is known, and takes a value. -/
def takes? (letters : List Char) (c : Char) : Option Bool :=
  match letters with
  | [] => none
  | d :: ':' :: rest => if c = d then some true else takes? rest c
  | d :: rest => if c = d then some false else takes? rest c

/-- Looks for the next option, where `ind` is the number of the next argument. -/
def nextOption (letters : List Char) (args : List String) (ind offset : Nat) : NextOption :=
  let quiet := letters.head? = some ':'
  let letters := if quiet then letters.drop 1 else letters
  let current := (args[ind - 2]?).getD ""
  let left := if ind ≤ 1 || offset = 0 || current.length < offset then [] else
    current.toList.drop offset
  let ended (next : Nat) : NextOption :=
    { letter := '?', value := none, next := next, offset := 0, isOver := true }
  let start : Option (List Char × Nat) :=
    if !left.isEmpty then some (left, ind)
    else match args[ind - 1]? with
      | none => none
      | some arg =>
          match arg.toList with
          | '-' :: c :: text => some (c :: text, ind + 1)
          | _ => none
  match start with
  | none => ended ind
  | some (['-'], next) => if left.isEmpty then ended next else
      { letter := '?', value := none, next := next, offset := 0 }
  | some ([], next) => ended next
  | some (c :: text, next) =>
      let here := ((args[next - 2]?).getD "").length - text.length
      let offset := if text.isEmpty then 0 else here
      match takes? letters c with
      | none =>
          if quiet then
            { letter := '?', value := some (String.singleton c), next := next, offset := offset }
          else
            { letter := '?', value := none, next := next, offset := offset
              complaint := some ("Illegal option -" ++ String.singleton c ++ "\n") }
      | some false => { letter := c, value := some "", next := next, offset := offset }
      | some true =>
          if !text.isEmpty then
            { letter := c, value := some (String.ofList text), next := next, offset := 0 }
          else match args[next - 1]? with
            | some value => { letter := c, value := some value, next := next + 1, offset := 0 }
            | none =>
                if quiet then
                  { letter := ':', value := some (String.singleton c), next := next, offset := 0 }
                else
                  { letter := '?', value := none, next := next, offset := 0
                    complaint := some ("No arg for -" ++ String.singleton c ++ " option\n") }

def getopts : Builtin := fun args => do
  match args with
  | letters :: name :: rest => do
      let s ← state
      let args := if rest.isEmpty then s.arguments else rest
      let ind := (((← value? "OPTIND").bind String.toNat?).getD 1)
      let ind := if args.length + 1 < ind then 1 else max ind 1
      let o := nextOption letters.toList args ind s.optionOffset
      if let some text := o.complaint then say text
      if !o.isOver then
        match o.value with
        | some value => assign "OPTARG" value
        | none => unassign "OPTARG"
      assign "OPTIND" (toString o.next)
      assign name (String.singleton o.letter)
      update ({ · with optionOffset := o.offset })
      return if o.isOver then 1 else 0
  | _ => fail "Usage: getopts optstring var [arg...]"

/-! ### Reading a line -/

/-- A character of a line, and whether a backslash protects it. -/
abbrev Mark := Char × Bool

/-- Reads a line, the last character first, and tells whether it was whole. -/
def readLine (raw : Bool) : Nat → Bool → List Mark → Sh (List Mark × Bool)
  | 0, _, acc => return (acc, false)
  | bound + 1, afterBackslash, acc => do
      match ← act (.read Descriptor.input 1) with
      | .ok [b] =>
          let c := Char.ofNat b.toNat
          if c = '\x00' then readLine raw bound afterBackslash acc
          else if afterBackslash then
            readLine raw bound false (if c = '\n' then acc else (c, true) :: acc)
          else if c = '\\' && !raw then readLine raw bound true acc
          else if c = '\n' then return (acc, true)
          else readLine raw bound false ((c, false) :: acc)
      | _ => return (acc, false)

/-- The first field of a line and what follows it. -/
def field (separates blanks : Mark → Bool) (line : List Mark) : List Mark × List Mark :=
  let line := line.dropWhile blanks
  let first := line.takeWhile fun m => !separates m
  let rest := (line.drop first.length).dropWhile blanks
  match line.drop first.length with
  | [] => (first, [])
  | m :: _ =>
      if blanks m then
        match rest with
        | m :: later =>
            if separates m then (first, later.dropWhile blanks) else (first, rest)
        | [] => (first, [])
      else (first, (line.drop (first.length + 1)).dropWhile blanks)

/-- What is left of a line for the last variable: if it is one field, that alone. -/
def lastField (separates blanks : Mark → Bool) (line : List Mark) : List Mark :=
  let line := line.dropWhile blanks
  let (first, rest) := field separates blanks line
  if rest.isEmpty then first else (line.reverse.dropWhile blanks).reverse

def textOf (line : List Mark) : String := String.ofList (line.map (·.1))

def distribute (separates blanks : Mark → Bool) : List String → List Mark → Sh Unit
  | [], _ => return ()
  | [name], line => assign name (textOf (lastField separates blanks line))
  | name :: rest, line => do
      let (first, later) := field separates blanks line
      assign name (textOf first)
      distribute separates blanks rest later

def read : Builtin := fun args => do
  let (given, names) ← Arguments.read [('p', true), ('r', false)] args
  if names.isEmpty then fail "arg count"
  for name in names do checkName name
  let (line, whole) ← readLine (given.any (·.1 = 'r')) Children.patience false []
  let separators := ((← value? "IFS").getD " \t\n").toList
  let separates (m : Mark) : Bool := !m.2 && separators.contains m.1
  let blanks (m : Mark) : Bool := separates m && [' ', '\t', '\n'].contains m.1
  distribute separates blanks names line.reverse
  return if whole then 0 else 1

/-! ### Other names for commands -/

def showAlias (name value : String) : String := name ++ "=" ++ Arguments.quoted value ++ "\n"

def alias_ : Builtin := fun args => do
  if args.isEmpty then
    return ← Printing.print (String.join ((← state).aliases.map fun (n, v) => showAlias n v))
  let mut status : Int := 0
  for text in args do
    match cut text with
    | (name, some value) =>
        update fun s =>
          { s with aliases := s.aliases.filter (·.1 != name) ++ [(name, value)] }
    | (name, none) =>
        match (← state).aliases.lookup name with
        | some value =>
            let _ ← Printing.print (showAlias name value)
        | none =>
            say ("alias: " ++ name ++ " not found\n")
            status := 1
  return status

def unalias : Builtin := fun args => do
  let (given, names) ← Arguments.read [('a', false)] args
  if !given.isEmpty then
    update ({ · with aliases := [] })
    return 0
  let mut status : Int := 0
  for name in names do
    if ((← state).aliases.lookup name).isNone then
      say ("unalias: " ++ name ++ " not found\n")
      status := 1
    update fun s => { s with aliases := s.aliases.filter (·.1 != name) }
  return status

end LineShell.Machine.Script.Variables
