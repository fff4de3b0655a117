import LineShell.Machine.Script.Printing
import LineShell.Machine.Stat

/-!
The builtin command of scripts that judges: `test`, also spelled `[`. With few arguments it takes
them as the standard says; with more, it reads an expression.
-/

namespace LineShell.Machine.Script.Judging

open Sh

def binaryOperators : List String :=
  ["=", "!=", "<", ">", "-eq", "-ne", "-gt", "-ge", "-lt", "-le", "-nt", "-ot", "-ef"]

def unaryOperators : List String :=
  ["-r", "-w", "-x", "-e", "-f", "-d", "-c", "-b", "-p", "-u", "-g", "-k", "-s", "-t", "-z", "-n",
    "-h", "-O", "-G", "-L", "-S"]

/-- What an argument is, where it stands. -/
inductive Token where
  | ended
  | operand
  | unary
  | binary
  | either
  | both
  | negation
  | opening
  | closing
  deriving DecidableEq, Repr

def token (args : List String) : Token :=
  match args with
  | [] => .ended
  | s :: rest =>
      if unaryOperators.contains s then
        let isOperand := match rest with
          | [] => true
          | _ :: [] => false
          | t :: u :: _ => let _ := t; binaryOperators.contains t && u != ")"
        if isOperand then .operand else .unary
      else if binaryOperators.contains s then .binary
      else if s = "-o" then .either
      else if s = "-a" then .both
      else if s = "!" then .negation
      else if s = "(" then (if rest.isEmpty then .operand else .opening)
      else if s = ")" then .closing
      else .operand

def number (text : String) : Sh Int := do
  match Numeral.decimal? text.toList with
  | some (n, rest) =>
      if rest.all Class.isSpace then return n else fail ("Illegal number: " ++ text)
  | none => fail ("Illegal number: " ++ text)

/-- Compares two files by when they were changed; one that is missing is older. -/
def compareFiles (op a b : String) : Sh Bool := do
  let a ← instant (Stat.ofPath true a)
  let b ← instant (Stat.ofPath true b)
  return match op, a, b with
    | "-nt", .ok a, .ok b => decide (b.stamp < a.stamp)
    | "-ot", .ok a, .ok b => decide (a.stamp < b.stamp)
    | "-ef", .ok a, .ok b => a.node = b.node
    | _, _, _ => false

def compare (op a b : String) : Sh Bool := do
  match op with
  | "=" => return a = b
  | "!=" => return a != b
  | "<" => return decide (a < b)
  | ">" => return decide (b < a)
  | "-nt" | "-ot" | "-ef" => compareFiles op a b
  | op => do
      let a ← number a
      let b ← number b
      return match op with
        | "-eq" => a = b
        | "-ne" => a != b
        | "-gt" => decide (b < a)
        | "-ge" => decide (b ≤ a)
        | "-lt" => decide (a < b)
        | _ => decide (a ≤ b)

def ask (op a : String) : Sh Bool := do
  match op with
  | "-z" => return a.isEmpty
  | "-n" => return !a.isEmpty
  | "-t" => do
      let _ ← number a
      return false
  | op => instant (testPath (op.toList.getLast?.getD 'e') a)

/-- Reads an expression from its first argument on, where `args` begins with that. The last argument
that was used comes first in what is left. -/
def whole : Nat → List String → Sh (Bool × List String)
  | 0, args => return (false, args)
  | bound + 1, args => either bound false args
where
  either (bound : Nat) (before : Bool) (args : List String) : Sh (Bool × List String) := do
    let (value, args) ← both bound true args
    let value := before || value
    if token (args.drop 1) = .either then
      let (later, args) ← whole bound (args.drop 2)
      return (value || later, args)
    else return (value, args)
  both (bound : Nat) (before : Bool) (args : List String) : Sh (Bool × List String) := do
    let (value, args) ← negations bound args
    let value := before && value
    if token (args.drop 1) = .both then
      let (later, args) ← conjunction bound (args.drop 2)
      return (value && later, args)
    else return (value, args)
  conjunction (bound : Nat) (args : List String) : Sh (Bool × List String) := do
    match bound with
    | 0 => return (false, args)
    | bound + 1 => both bound true args
  negations (bound : Nat) (args : List String) : Sh (Bool × List String) := do
    match bound with
    | 0 => return (false, args)
    | bound + 1 =>
        if token args = .negation then
          let rest := args.drop 1
          let (value, args) ← if rest.isEmpty then pure (false, args) else negations bound rest
          return (!value, args)
        else primary bound args
  primary (bound : Nat) (args : List String) : Sh (Bool × List String) := do
    match token args, args with
    | .ended, _ => return (false, args)
    | .opening, _ :: rest =>
        if token rest = .closing then return (false, rest)
        else
          let (value, args) ← whole bound rest
          if token (args.drop 1) = .closing then return (value, args.drop 1)
          else fail "closing paren expected"
    | .unary, op :: rest =>
        match rest with
        | a :: _ => return (← ask op a, rest)
        | [] => fail (op ++ ": argument expected")
    | _, a :: rest =>
        match rest with
        | op :: more =>
            if binaryOperators.contains op then
              match more with
              | b :: _ => return (← compare op a b, more)
              | [] => fail (op ++ ": argument expected")
            else return (!a.isEmpty, args)
        | [] => return (!a.isEmpty, args)
    | _, [] => return (false, args)

/-- Judges arguments, of which three may be two operands with an operator between them. -/
def judge : Nat → List String → Sh Bool
  | 0, _ => return false
  | bound + 1, args => do
      match args with
      | [] => return false
      | [a, op, b] =>
          if binaryOperators.contains op || op = "-a" || op = "-o" then
            if op = "-a" then return !a.isEmpty && !b.isEmpty
            else if op = "-o" then return !a.isEmpty || !b.isEmpty
            else compare op a b
          else enclosed bound args
      | [_, _, _, _] => enclosed bound args
      | args => expression args
where
  expression (args : List String) : Sh Bool := do
    let (value, left) ← whole (args.length + 1) args
    match left with
    | a :: _ :: _ => fail (a ++ ": unexpected operator")
    | _ => return value
  enclosed (bound : Nat) (args : List String) : Sh Bool := do
    match args with
    | "(" :: rest =>
        if rest.getLast? = some ")" then judge bound rest.dropLast else expression args
    | "!" :: rest => return !(← judge bound rest)
    | args => expression args

def test : Builtin := fun args => do
  return if ← judge (args.length + 1) args then 0 else 1

def bracket : Builtin := fun args => do
  if args.getLast? = some "]" then test args.dropLast else fail "missing ]"

end LineShell.Machine.Script.Judging
