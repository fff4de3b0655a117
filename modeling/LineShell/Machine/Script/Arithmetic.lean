import LineShell.Machine.Class
import LineShell.Machine.Script.State

/-!
Arithmetic in scripts, on numbers of 64 bits that wrap around. An expression is read as a whole before
it is worked out, and of two ways only the one taken has effects.
-/

namespace LineShell.Machine.Script

inductive Expression where
  | number (n : Int)
  | named (name : String)
  | unary (op : String) (e : Expression)
  | binary (op : String) (a b : Expression)
  | choose (test a b : Expression)
  | assign (name op : String) (e : Expression)

namespace Expression

inductive Token where
  | number (n : Int)
  | named (name : String)
  | operator (text : String)
  | bad
  deriving DecidableEq, Repr

def wordSize : Int := 18446744073709551616

def greatest : Int := 9223372036854775807

/-- A number as one of 64 bits. -/
def wrap (n : Int) : Int := (n + greatest + 1) % wordSize - greatest - 1

def operators : List String :=
  ["<<=", ">>=", "&&", "||", "<<", ">>", "<=", ">=", "==", "!=", "+=", "-=", "*=", "/=", "%=",
    "&=", "|=", "^=", "+", "-", "*", "/", "%", "&", "|", "^", "<", ">", "=", "!", "~", "?", ":",
    "(", ")"]

/-- The number at the front of a text, in the base that its first characters tell. -/
def numeral (text : List Char) : Int × List Char :=
  let (n, rest) := match text with
    | '0' :: x :: c :: rest =>
        if (x = 'x' || x = 'X') && Class.isHexDigit c then
          Class.number 16 text.length 0 (c :: rest)
        else Class.number 8 text.length 0 text
    | '0' :: _ => Class.number 8 text.length 0 text
    | _ => Class.number 10 text.length 0 text
  (min n greatest, rest)

def tokens : Nat → List Char → List Token
  | 0, _ => []
  | _, [] => []
  | bound + 1, c :: rest =>
      if Class.isSpace c then tokens bound rest
      else if c.isDigit then
        let (n, rest) := numeral (c :: rest)
        .number n :: tokens bound rest
      else if isNameStart c then
        let name := (c :: rest).takeWhile isNamePart
        .named (String.ofList name) :: tokens bound ((c :: rest).drop name.length)
      else
        match operators.find? fun op => op.toList.isPrefixOf (c :: rest) with
        | some op => .operator op :: tokens bound ((c :: rest).drop op.length)
        | none => .bad :: tokens bound rest

/-- How strongly an operator binds. -/
def strength (op : String) : Nat :=
  match op with
  | "||" => 1
  | "&&" => 2
  | "|" => 3
  | "^" => 4
  | "&" => 5
  | "==" | "!=" => 6
  | "<" | "<=" | ">" | ">=" => 7
  | "<<" | ">>" => 8
  | "+" | "-" => 9
  | "*" | "/" | "%" => 10
  | _ => 0

def assigning : List String :=
  ["=", "<<=", ">>=", "+=", "-=", "*=", "/=", "%=", "&=", "|=", "^="]

abbrev Reader := StateT (List Token) (Except String)

def takeOperator? (wanted : String) : Reader Bool := do
  match ← get with
  | .operator op :: rest =>
      if op = wanted then
        set rest
        return true
      else return false
  | _ => return false

/-- A part that no operator splits, where `whole` reads an expression. -/
def primary (whole : Reader Expression) : Nat → Reader Expression
  | 0 => throw "expecting primary"
  | bound + 1 => do
      match ← get with
      | .number n :: rest => do
          set rest
          return .number n
      | .named name :: rest => do
          set rest
          return .named name
      | .operator "(" :: rest => do
          set rest
          let e ← whole
          if ← takeOperator? ")" then return e else throw "expecting ')'"
      | .operator op :: rest =>
          if ["!", "~", "+", "-"].contains op then
            set rest
            return .unary op (← primary whole bound)
          else throw "expecting primary"
      | _ => throw "expecting primary"

/-- Reads on after `left` as long as operators bind at least as strongly as `least`. -/
def operations (whole : Reader Expression) (least : Nat) :
    Nat → Expression → Reader Expression
  | 0, left => return left
  | bound + 1, left => do
      match ← get with
      | .operator op :: rest =>
          if strength op < max least 1 then return left
          else do
            set rest
            let right ← operations whole (strength op + 1) bound (← primary whole bound)
            operations whole least bound (.binary op left right)
      | _ => return left

/-- Reads an expression, nested at most so deep. -/
def read : Nat → Reader Expression
  | 0 => throw "expecting primary"
  | depth + 1 => do
      let bound := (← get).length + 1
      match ← get with
      | .named name :: .operator op :: rest =>
          if assigning.contains op then
            set rest
            return .assign name op (← read depth)
          else pure ()
      | _ => pure ()
      let test ← operations (read depth) 1 bound (← primary (read depth) bound)
      if ← takeOperator? "?" then
        let a ← read depth
        if !(← takeOperator? ":") then throw "expecting ':'"
        return .choose test a (← read depth)
      else return test

/-- Reads an expression, or tells what is wrong with it. -/
def parse (text : String) : Except String Expression := do
  let all := tokens text.length text.toList
  let (e, rest) ← (read (all.length + 1)).run all
  if rest.isEmpty then return e else throw "expecting EOF"

/-! ### Values -/

def ofBool (b : Bool) : Int := if b then 1 else 0

/-- The 64 bits of a number. -/
def bits (n : Int) : Nat := (n % wordSize).toNat

def shiftSize (n : Int) : Nat := (n % 64).toNat

/-- The value of an operation, unless it is a division by zero. -/
def operate (op : String) (a b : Int) : Option Int :=
  match op with
  | "+" => some (wrap (a + b))
  | "-" => some (wrap (a - b))
  | "*" => some (wrap (a * b))
  | "/" => if b = 0 then none else some (wrap (Int.tdiv a b))
  | "%" => if b = 0 then none else some (Int.tmod a b)
  | "|" => some (wrap (Nat.lor (bits a) (bits b)))
  | "&" => some (wrap (Nat.land (bits a) (bits b)))
  | "^" => some (wrap (Nat.xor (bits a) (bits b)))
  | "<<" => some (wrap (Nat.shiftLeft (bits a) (shiftSize b)))
  | ">>" => some (Int.fdiv a (Nat.shiftLeft 1 (shiftSize b)))
  | "==" => some (ofBool (a = b))
  | "!=" => some (ofBool (a != b))
  | "<" => some (ofBool (a < b))
  | "<=" => some (ofBool (a ≤ b))
  | ">" => some (ofBool (b < a))
  | ">=" => some (ofBool (b ≤ a))
  | _ => some 0

/-- A numeral with nothing but white space around it. -/
def number? (text : String) : Option Int :=
  let start := text.toList.dropWhile Class.isSpace
  let (negative, digits) := match start with
    | '-' :: rest => (true, rest)
    | '+' :: rest => (false, rest)
    | rest => (false, rest)
  if !(digits.head?.any Char.isDigit) then none
  else
    let (n, rest) := numeral digits
    if rest.all Class.isSpace then some (if negative then -n else n) else none

open Sh

variable {α : Type}

def complain (text wrong : String) : Sh α :=
  fail ("arithmetic expression: " ++ wrong ++ ": \"" ++ text ++ "\"")

def valueOf (name : String) : Sh Int := do
  match ← value? name with
  | none => return 0
  | some value =>
      if value.all Class.isSpace then return 0
      match number? value with
      | some n => return n
      | none => fail ("Illegal number: " ++ value)

/-- The value of an expression that is part of `text`. -/
def evaluate (text : String) : Expression → Sh Int
  | .number n => return n
  | .named name => valueOf name
  | .unary op e => do
      let n ← evaluate text e
      return match op with
        | "!" => ofBool (n = 0)
        | "~" => -n - 1
        | "-" => wrap (-n)
        | _ => n
  | .binary "&&" a b => do
      if (← evaluate text a) = 0 then return 0
      return ofBool ((← evaluate text b) != 0)
  | .binary "||" a b => do
      if (← evaluate text a) != 0 then return 1
      return ofBool ((← evaluate text b) != 0)
  | .binary op a b => do
      let a ← evaluate text a
      match operate op a (← evaluate text b) with
      | some n => return n
      | none => complain text "division by zero"
  | .choose test a b => do
      if (← evaluate text test) != 0 then evaluate text a else evaluate text b
  | .assign name op e => do
      let n ← evaluate text e
      let n ←
        if op = "=" then pure n
        else
          match operate (op.dropEnd 1).copy (← valueOf name) n with
          | some n => pure n
          | none => complain text "division by zero"
      Sh.assign name (toString n)
      return n

/-- The value of an expression. -/
def valueOfText (text : String) : Sh Int := do
  match parse text with
  | .ok e => evaluate text e
  | .error wrong => complain text wrong

end Expression

end LineShell.Machine.Script
