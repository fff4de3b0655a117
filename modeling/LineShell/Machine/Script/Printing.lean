import LineShell.Machine.Numeral
import LineShell.Machine.Script.State

/-!
The builtin commands of scripts that print.
-/

namespace LineShell.Machine.Script

/-- Carries out a builtin command with its arguments, and gives its exit status. -/
abbrev Builtin := List String → Sh Int

/-- The arguments of a builtin command that has no options. -/
def withoutOptions (args : List String) : Sh (List String) := do
  match args with
  | "--" :: rest => return rest
  | first :: _ =>
      match first.toList with
      | '-' :: c :: _ => Sh.fail ("Illegal option -" ++ String.singleton c)
      | _ => return args
  | [] => return []

namespace Printing

open Sh

/-- Prints a text, and gives the exit status. -/
def print (text : String) : Sh Int := do
  if text.isEmpty then return 0
  match ← write Descriptor.output text with
  | none => return 0
  | some _ => do
      warn ((← state).command ++ ": I/O error")
      return 1

/-- The characters that a letter after a backslash stands for. -/
def letters : List (Char × Char) := [
  ('\\', '\\'), ('a', '\x07'), ('b', '\x08'), ('e', '\x1b'), ('f', '\x0c'), ('n', '\n'), ('r', '\r'),
  ('t', '\t'), ('v', '\x0b')]

def byte (n : Nat) : Char := Char.ofNat (n % 256)

/-- What stands after a backslash: a character, and the text after it. What is no escape is the
backslash itself. -/
def escape (text : List Char) : Char × List Char :=
  match text with
  | [] => ('\\', [])
  | c :: rest =>
      match letters.lookup c with
      | some d => (d, rest)
      | none =>
          if (Class.digit? 8 c).isSome then
            let (n, rest) := Class.number 8 3 0 text
            (byte n, rest)
          else ('\\', text)

/-- A text with its escapes carried out, and whether one of them asked for an end. -/
def escaped : Nat → List Char → List Char → List Char × Bool
  | 0, _, acc => (acc.reverse, false)
  | _, [], acc => (acc.reverse, false)
  | bound + 1, '\\' :: 'c' :: _, acc => let _ := bound; (acc.reverse, true)
  | bound + 1, '\\' :: '0' :: rest, acc =>
      let (n, rest) := Class.number 8 3 0 rest
      escaped bound rest (byte n :: acc)
  | bound + 1, '\\' :: rest, acc =>
      let (c, rest) := escape rest
      escaped bound rest (c :: acc)
  | bound + 1, c :: rest, acc => escaped bound rest (c :: acc)

def unescape (text : String) : String × Bool :=
  let (cs, ended) := escaped (text.length + 1) text.toList []
  (String.ofList cs, ended)

def echo : Builtin := fun args => do
  let (newline, args) := match args with
    | "-n" :: rest => (false, rest)
    | rest => (true, rest)
  let (text, ended) := unescape (" ".intercalate args)
  print (text ++ if newline && !ended then "\n" else "")

/-! ### Formats -/

/-- How far printing by a format has come. -/
structure Printer where
  /-- What was printed, the last part first. -/
  out : List String := []
  arguments : List String
  /-- Some argument was used. -/
  used : Bool := false
  status : Int := 0
  ended : Bool := false

abbrev Print := StateT Printer Sh

namespace Print

def emit (text : String) : Print Unit := modify fun p => { p with out := text :: p.out }

def argument? : Print (Option String) := do
  match (← get).arguments with
  | [] => return none
  | a :: rest => do
      modify fun p => { p with arguments := rest, used := true }
      return some a

def complain (text : String) : Print Unit := do
  warn text
  modify fun p => { p with status := 1 }

def wordLimit : Int := 18446744073709551616

def signedLimit : Int := 9223372036854775807

/-- Complains of an argument that is no number, of which `rest` was not understood. -/
def check (text : String) (found : Bool) (rest : List Char) : Print Unit := do
  if !rest.isEmpty then
    complain (text ++ if found then ": not completely converted" else ": expected numeric value")

/-- The next argument as a whole number within bounds. -/
def integer (low high : Int) : Print Int := do
  match ← argument? with
  | none => return 0
  | some text =>
      match text.toList with
      | '"' :: rest | '\'' :: rest => return (rest.headD '\x00').toNat
      | cs =>
          match Numeral.integer? cs with
          | none => do
              check text false cs
              return 0
          | some (n, rest) => do
              check text true rest
              if n < low || high < n then
                if rest.isEmpty then complain (text ++ ": " ++ Errno.outOfRange.sentence)
              return max low (min high n)

def real : Print Quantity := do
  match ← argument? with
  | none => return .finite false ⟨0, 1⟩
  | some text =>
      match text.toList with
      | '"' :: rest | '\'' :: rest => return .finite false ⟨(rest.headD '\x00').toNat, 1⟩
      | cs =>
          match Numeral.real? cs with
          | none => do
              check text false cs
              return .finite false ⟨0, 1⟩
          | some (q, rest) => do
              check text true rest
              return q

/-- Binary digits of the numbers that the script shell works with. -/
def bits : Nat := 53

def count (c : Directive.Count) : Print (Option Int) := do
  match c with
  | .argument => return some (← integer (-signedLimit - 1) signedLimit)
  | _ => return none

/-- Says what is wrong with the format, prints what came before it, and gives up. -/
def abort (text : String) : Print Unit := do
  Sh.warn text
  let _ ← Printing.print (String.join (← get).out.reverse)
  Sh.setStatus Sh.errorStatus
  throw ()

/-- Prints by one directive, which was spelled `spelling`. -/
def directive (d : Directive) (letter : Char) (spelling : String) : Print Unit := do
  match letter with
  | 'b' => do
      let (text, ended) := unescape ((← argument?).getD "")
      emit (d.text text)
      modify fun p => { p with ended := ended }
  | 'c' => do
      let text := (← argument?).getD ""
      emit (d.pad (String.singleton (text.toList.headD '\x00')))
  | 's' => emit (d.text ((← argument?).getD ""))
  | 'd' | 'i' => emit (d.signed (← integer (-signedLimit - 1) signedLimit))
  | 'o' | 'u' | 'x' | 'X' => do
      let n ← integer (-signedLimit - 1) (wordLimit - 1)
      emit (d.unsigned letter (n % wordLimit).toNat)
  | 'a' | 'A' | 'e' | 'E' | 'f' | 'F' | 'g' | 'G' => do
      emit (d.float letter 1 (Numeral.round bits (← real)))
  | _ => abort (spelling ++ ": invalid directive")

/-- Prints by a format once. -/
def once : Nat → List Char → Print Unit
  | 0, _ => return ()
  | _, [] => return ()
  | bound + 1, c :: rest => do
      match c, rest with
      | '\\', rest =>
          let (c, rest) := escape rest
          emit (String.singleton c)
          once bound rest
      | '%', '%' :: rest => do
          emit "%"
          once bound rest
      | '%', rest => do
          let (outline, after) := Directive.readOutline rest
          let d := Directive.ofOutline outline (← count outline.width) (← count outline.precision)
          match after with
          | [] => abort "missing format character"
          | letter :: after => do
              let spelling := String.ofList ('%' :: rest.take (rest.length - after.length))
              directive d letter spelling
              if !(← get).ended then once bound after
      | c, rest => do
          emit (String.singleton c)
          once bound rest

/-- Prints by a format as often as there are arguments for. -/
def repeatedly (format : List Char) : Nat → Print Unit
  | 0 => return ()
  | bound + 1 => do
      modify fun p => { p with used := false }
      once (format.length + 1) format
      let p ← get
      if p.used && !p.arguments.isEmpty && !p.ended then repeatedly format bound

end Print

def printf : Builtin := fun args => do
  match ← withoutOptions args with
  | [] => fail "usage: printf format [arg ...]"
  | format :: rest => do
      let printer : Printer := { arguments := rest }
      let (_, p) ← (Print.repeatedly format.toList (rest.length + 1)).run printer
      let status ← print (String.join p.out.reverse)
      return max status p.status

end Printing

end LineShell.Machine.Script
