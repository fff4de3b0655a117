import LineShell.Machine.Script.Printing

/-!
The arguments of the builtin commands of scripts, and the options of the script shell.
-/

namespace LineShell.Machine.Script

namespace Arguments

open Sh

/-- The letters of the options that may be given, each with whether it takes a value. -/
abbrev Letters := List (Char × Bool)

/-- The options in one argument, without its dash, and the arguments left. -/
def cluster (letters : Letters) : List Char → List String → List (Char × String) →
    Sh (List (Char × String) × List String)
  | [], rest, acc => return (acc, rest)
  | c :: text, rest, acc => do
      match letters.lookup c with
      | none => fail ("Illegal option -" ++ String.singleton c)
      | some false => cluster letters text rest (acc ++ [(c, "")])
      | some true =>
          if !text.isEmpty then return (acc ++ [(c, String.ofList text)], rest)
          match rest with
          | value :: rest => return (acc ++ [(c, value)], rest)
          | [] => fail ("No arg for -" ++ String.singleton c ++ " option")

/-- The options in front of the operands, and the operands. -/
def options (letters : Letters) : Nat → List String → List (Char × String) →
    Sh (List (Char × String) × List String)
  | 0, args, acc => return (acc, args)
  | _, [], acc => return (acc, [])
  | bound + 1, arg :: rest, acc => do
      if arg = "--" then return (acc, rest)
      match arg.toList with
      | '-' :: c :: text => do
          let (acc, rest) ← cluster letters (c :: text) rest acc
          options letters bound rest acc
      | _ => return (acc, arg :: rest)

/-- The options and operands of a builtin command. -/
def read (letters : Letters) (args : List String) : Sh (List (Char × String) × List String) :=
  options letters (args.length + 1) args []

def illegal {α : Type} (text : String) : Sh α := fail ("Illegal number: " ++ text)

/-- A number that is not negative. -/
def number (text : String) : Sh Nat := do
  match Numeral.decimal? text.toList with
  | some (n, []) => if 0 ≤ n && n ≤ 2147483647 then return n.toNat else illegal text
  | _ => illegal text

/-- A text in quotes, so that it can be read again. -/
def quotedFrom : Nat → List Char → String
  | 0, _ => ""
  | bound + 1, text =>
      let plain := text.takeWhile (· != '\'')
      let rest := text.drop plain.length
      let marks := rest.takeWhile (· = '\'')
      let later := rest.drop marks.length
      "'" ++ String.ofList plain ++ "'" ++
        (if marks.isEmpty then "" else "\"" ++ String.ofList marks ++ "\"") ++
        (if later.isEmpty then "" else quotedFrom bound later)

def quoted (text : String) : String := quotedFrom (text.length + 1) text.toList

/-! ### Options of the shell -/

/-- The names of the options, in the order in which they are shown. Some have no letter. -/
def optionNames : List (String × Option Char) := [
  ("errexit", some 'e'), ("noglob", some 'f'), ("ignoreeof", some 'I'), ("interactive", some 'i'),
  ("monitor", some 'm'), ("noexec", some 'n'), ("stdin", some 's'), ("xtrace", some 'x'),
  ("verbose", some 'v'), ("vi", some 'V'), ("emacs", some 'E'), ("noclobber", some 'C'),
  ("allexport", some 'a'), ("notify", some 'b'), ("nounset", some 'u'),
  ("privileged", some 'p'), ("nolog", none), ("debug", none)]

def setOption (letter : Char) (on : Bool) : Sh Unit := update fun s =>
  { s with options := s.options.filter (· != letter) ++ if on then [letter] else [] }

/-- Shows the options, or the commands that set them. In the call of the shell they are not yet
settled, and count as set. -/
def showOptions (inCall on : Bool) : Sh Unit := do
  let s ← state
  let isOn (letter : Option Char) : Bool := inCall || letter.any s.options.contains
  let line (name : String) (letter : Option Char) : String :=
    if on then
      name ++ String.ofList (List.replicate (16 - name.length) ' ') ++
        (if isOn letter then "on\n" else "off\n")
    else "set " ++ (if isOn letter then "-o " else "+o ") ++ name ++ "\n"
  let _ ← Printing.print ((if on then "Current option settings\n" else "") ++
    String.join (optionNames.map fun (name, letter) => line name letter))

/-- Sets an option by its name. -/
def setNamed (name : String) (on : Bool) : Sh Unit := do
  match optionNames.lookup name with
  | some (some letter) => setOption letter on
  | some none => return ()
  | none => fail ("Illegal option -o " ++ name)

/-- What the options in the call of the shell can ask for besides. -/
structure Asked where
  /-- The operands begin with commands. -/
  hasCommands : Bool := false
  operands : List String := []

/-- Sets the options in one argument, without its sign, and gives the arguments left. -/
def setCluster (inCall on : Bool) : List Char → List String → Bool → Sh (List String × Bool)
  | [], rest, c => return (rest, c)
  | letter :: text, rest, c => do
      if letter = 'c' && inCall then setCluster inCall on text rest true
      else if letter = 'l' && inCall then setCluster inCall on text rest c
      else if letter = 'o' then
        match rest with
        | [] => do
            showOptions inCall on
            setCluster inCall on text [] c
        | name :: rest => do
            setNamed name on
            setCluster inCall on text rest c
      else if optionLetters.contains letter then
        setOption letter on
        setCluster inCall on text rest c
      else fail ("Illegal option -" ++ String.singleton letter)

/-- Sets the options in front of the operands. `none` stands for operands that are to stay. -/
def setOptions (inCall : Bool) : Nat → List String → Bool → Sh (Option (List String) × Bool)
  | 0, _, c => return (none, c)
  | _, [], c => return (none, c)
  | bound + 1, arg :: rest, c => do
      match arg.toList with
      | ['-'] => do
          if !inCall then
            setOption 'x' false
            setOption 'v' false
          return (if rest.isEmpty then none else some rest, c)
      | ['-', '-'] => return (some rest, c)
      | '-' :: text => do
          let (rest, c) ← setCluster inCall true text rest c
          setOptions inCall bound rest c
      | '+' :: text => do
          let (rest, c) ← setCluster inCall false text rest c
          setOptions inCall bound rest c
      | _ => return (some (arg :: rest), c)

end Arguments

end LineShell.Machine.Script
