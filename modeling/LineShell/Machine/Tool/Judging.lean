import LineShell.Machine.Numeral
import LineShell.Machine.Quoting
import LineShell.Machine.Regex.Parse
import LineShell.Machine.Stat
import LineShell.Machine.Tool

/-!
Tools that judge or compute: `test`, which answers with its exit code, and `expr`, which prints the
value of an expression. Both read an expression from their arguments.
-/

namespace LineShell.Machine.Tool

/-! ### Conditions -/

namespace Condition

def operators : List String :=
  ["=", "==", "!=", "-eq", "-ne", "-lt", "-le", "-gt", "-ge", "-nt", "-ot", "-ef"]

def isOperator (text : String) : Bool := operators.contains text

def unaries : List Char :=
  ['e', 'r', 'w', 'x', 'N', 'O', 'G', 'f', 'd', 's', 'S', 'c', 'b', 'p', 'L', 'h', 'u', 'g', 'k',
    'n', 'z', 't']

/-- The letter of a text that looks like an option. -/
def letter? (text : String) : Option Char :=
  match text.toList with
  | ['-', c] => some c
  | _ => none

def trouble {α : Type} (text : String) : Tool α := fail 2 text

/-- Complains that something should follow the last argument. -/
def beyond {α : Type} : Tool α := do
  let call ← read
  let arguments := if call.name.endsWith "[" then call.arguments.dropLast else call.arguments
  trouble ("missing argument after " ++ Quoting.plain (arguments.getLast?.getD ""))

def integer (text : String) : Tool Int := do
  match Numeral.decimal? text.toList with
  | some (n, rest) =>
      if rest.all Class.isBlank then return n else trouble ("invalid integer " ++ Quoting.plain text)
  | none => trouble ("invalid integer " ++ Quoting.plain text)

def compareFiles (op a b : String) : Tool Bool := do
  let a ← instant (Stat.ofPath true a)
  let b ← instant (Stat.ofPath true b)
  let stamp (s : Except Errno Stat) : Int := match s with
    | .ok s => s.stamp
    | .error _ => -1
  return match op with
    | "-nt" => decide (stamp b < stamp a)
    | "-ot" => decide (stamp a < stamp b)
    | _ => match a, b with
      | .ok a, .ok b => a.node = b.node
      | _, _ => false

def compare (op : String) (a b : Tool Int) : Tool Bool := do
  let a ← a
  let b ← b
  return match op with
    | "-eq" => a = b
    | "-ne" => a != b
    | "-lt" => decide (a < b)
    | "-le" => decide (a ≤ b)
    | "-gt" => decide (b < a)
    | _ => decide (b ≤ a)

/-- An operator between two operands, of which each may be the length of a text. -/
def binary (lengthOfLeft : Bool) (arguments : List String) : Tool (Bool × List String) := do
  let arguments := if lengthOfLeft then arguments.drop 1 else arguments
  match arguments with
  | a :: op :: b :: rest =>
      let lengthOfRight := b = "-l" && !rest.isEmpty
      let isNumeric := ! ["=", "==", "!=", "-nt", "-ot", "-ef"].contains op
      if isNumeric then
        let left : Tool Int := if lengthOfLeft then pure a.length else integer a
        if lengthOfRight then
          return (← compare op left (pure ((rest.headD "").length : Int)), rest.drop 1)
        else return (← compare op left (integer b), rest)
      else if lengthOfLeft || lengthOfRight then
        if ["-nt", "-ot", "-ef"].contains op then trouble (op ++ " does not accept -l")
        else return ((a = b) != (op = "!="), rest)
      else if ["=", "==", "!="].contains op then return ((a = b) != (op = "!="), rest)
      else return (← compareFiles op a b, rest)
  | _ => beyond

/-- A question about one operand. -/
def unary (c : Char) (arguments : List String) : Tool (Bool × List String) := do
  let name := arguments.headD ""
  if !unaries.contains c then trouble (Quoting.plain name ++ ": unary operator expected")
  match arguments.drop 1 with
  | [] => beyond
  | a :: rest =>
      match c with
      | 'n' => return (!a.isEmpty, rest)
      | 'z' => return (a.isEmpty, rest)
      | 't' => do
          let _ ← integer a
          return (false, rest)
      | c => return (← instant (testPath c a), rest)

/-- One operand holds if it is not empty. -/
def one (arguments : List String) : Tool (Bool × List String) :=
  match arguments with
  | [] => beyond
  | a :: rest => return (!a.isEmpty, rest)

def negate (answer : Tool (Bool × List String)) : Tool (Bool × List String) := do
  let (value, rest) ← answer
  return (!value, rest)

def two (arguments : List String) : Tool (Bool × List String) :=
  match arguments with
  | "!" :: rest => negate (one rest)
  | a :: _ => match letter? a with
    | some c => unary c arguments
    | none => beyond
  | [] => beyond

/-- Drops a negation, after which there must be something. -/
def afterNot (arguments : List String) (answer : List String → Tool (Bool × List String)) :
    Tool (Bool × List String) :=
  if arguments.isEmpty then beyond else negate (answer arguments)

/-- Reads an expression of `count` arguments. If there are more than four it takes as many as make
one. -/
def posix : Nat → Nat → List String → Tool (Bool × List String)
  | 0, _, arguments => return (false, arguments)
  | bound + 1, count, arguments =>
      match count, arguments with
      | 1, _ => one arguments
      | 2, _ => two arguments
      | 3, _ => three bound arguments
      | 4, "!" :: rest => afterNot rest (three bound)
      | 4, "(" :: a :: b :: ")" :: rest => do
          let (value, _) ← two [a, b]
          return (value, rest)
      | _, _ => either bound false arguments
where
  three (bound : Nat) (arguments : List String) : Tool (Bool × List String) := do
    match arguments with
    | a :: op :: b :: rest =>
        if isOperator op then binary false arguments
        else if a = "!" then afterNot (op :: b :: rest) two
        else if a = "(" && b = ")" then return (!op.isEmpty, rest)
        else if op = "-a" || op = "-o" then either bound false arguments
        else trouble (Quoting.plain op ++ ": binary operator expected")
    | _ => beyond
  either (bound : Nat) (before : Bool) (arguments : List String) : Tool (Bool × List String) := do
    match bound with
    | 0 => return (before, arguments)
    | bound + 1 =>
        if arguments.isEmpty then beyond
        let (value, rest) ← both bound true arguments
        match rest with
        | "-o" :: rest => either bound (before || value) rest
        | rest => return (before || value, rest)
  both (bound : Nat) (before : Bool) (arguments : List String) : Tool (Bool × List String) := do
    match bound with
    | 0 => return (before, arguments)
    | bound + 1 =>
        let (value, rest) ← term bound arguments
        match rest with
        | "-a" :: rest => both bound (before && value) rest
        | rest => return (before && value, rest)
  term (bound : Nat) (arguments : List String) : Tool (Bool × List String) := do
    match bound, arguments with
    | 0, _ => return (false, arguments)
    | _, [] => beyond
    | bound + 1, "!" :: rest => afterNot rest (term bound)
    | bound + 1, "(" :: rest =>
        if rest.isEmpty then beyond
        let inside := ((rest.drop 1).takeWhile (· != ")")).length + 1
        let (value, left) ← posix bound (if 4 < inside then rest.length else inside) rest
        match left with
        | [] => trouble "')' expected"
        | ")" :: left => return (value, left)
        | found :: _ => trouble ("')' expected, found " ++ Quoting.plain found)
    | _ + 1, a :: rest =>
        if a = "-l" && 3 ≤ rest.length && isOperator (rest.getD 1 "") then binary true arguments
        else if 2 ≤ rest.length && isOperator (rest.headD "") then binary false arguments
        else match letter? a with
          | some c => unary c arguments
          | none => return (!a.isEmpty, rest)

/-- Answers with the exit code. -/
def judge (arguments : List String) : Tool Unit := do
  if arguments.isEmpty then exit 1
  let (value, rest) ← posix (3 * arguments.length + 3) arguments.length arguments
  match rest with
  | extra :: _ => trouble ("extra argument " ++ Quoting.plain extra)
  | [] => exit (if value then 0 else 1)

end Condition

def test : Tool Unit := do Condition.judge (← read).arguments

def bracketTest : Tool Unit := do
  let arguments := (← read).arguments
  if arguments.getLast? = some "]" then Condition.judge arguments.dropLast
  else Condition.trouble "missing ']'"

/-! ### Expressions -/

namespace Expression

def wrong {α : Type} (text : String) : Tool α := fail 2 ("syntax error: " ++ text)

/-- The value is an empty text, or zero. -/
def isNull (text : String) : Bool :=
  let digits := match text.toList with
    | '-' :: rest => rest
    | rest => rest
  text.isEmpty || (!digits.isEmpty && digits.all (· = '0'))

def integer? (text : String) : Option Int :=
  match text.toList with
  | '-' :: rest =>
      if !rest.isEmpty && rest.all Char.isDigit then
        some (-((Class.number 10 rest.length 0 rest).1 : Int)) else none
  | cs =>
      if !cs.isEmpty && cs.all Char.isDigit then
        some ((Class.number 10 cs.length 0 cs).1 : Int) else none

def number (text : String) : Tool Int := do
  match integer? text with
  | some n => return n
  | none => fail 2 "non-integer argument"

def dialect : Regex.Dialect := { emptyRanges := true }

/-- What the front of a text has that matches: its length, or the part in the first group. -/
def matched (text pattern : String) : Tool String := do
  match Regex.parse dialect pattern.toList with
  | .error e => fail 2 e
  | .ok (r, reading) =>
      let s : Regex.Subject := { text := text.toList }
      let found := Regex.matchAt? s r (fun _ => true) (Regex.start s)
      return match found, reading.opened with
        | none, 0 => "0"
        | none, _ => ""
        | some m, 0 => toString m.stop
        | some m, _ => String.ofList (m.text s 1)

def truth (value : Bool) : String := if value then "1" else "0"

def compareOperators : List String := ["<", "<=", "=", "==", "!=", ">=", ">"]

def compare (op a b : String) : String :=
  let order : Ordering := match integer? a, integer? b with
    | some m, some n => Ord.compare m n
    | _, _ => if a = b then .eq else if a < b then .lt else .gt
  truth (match op with
    | "<" => order = .lt
    | "<=" => order != .gt
    | "=" | "==" => order = .eq
    | "!=" => order != .eq
    | ">=" => order != .lt
    | _ => order = .gt)

def calculate (op : String) (a b : Int) : Tool String := do
  if (op = "/" || op = "%") && b = 0 then fail 2 "division by zero"
  return toString (match op with
    | "+" => a + b
    | "-" => a - b
    | "*" => a * b
    | "/" => a.tdiv b
    | _ => a.tmod b)

/-- The operators that stand between operands, the ones that bind least first. -/
def levels : List (List String) :=
  [["|"], ["&"], compareOperators, ["+", "-"], ["*", "/", "%"], [":"]]

/-- What an operator makes of its operands. -/
def combine (op a b : String) : Tool String := do
  if op = ":" then matched a b
  else if compareOperators.contains op then return compare op a b
  else
    match op with
    | "|" => return if !isNull a then a else if !isNull b then b else "0"
    | "&" => return if isNull a || isNull b then "0" else a
    | _ => calculate op (← number a) (← number b)

/-- The right operand of an operator counts, given the left one. -/
def needs (op a : String) : Bool :=
  if op = "|" then isNull a else if op = "&" then !isNull a else true

def last : Tool String := do return (← read).arguments.getLast?.getD ""

/-- Reads an operand, and gives the arguments after it. If `live` is false its value does not
count. -/
def operand : Nat → Bool → List String → Tool (String × List String)
  | 0, _, arguments => return ("", arguments)
  | bound + 1, live, arguments =>
      match arguments with
      | [] => do wrong ("missing argument after " ++ Quoting.plain (← last))
      | "+" :: rest =>
          match rest with
          | a :: rest => return (a, rest)
          | [] => do wrong ("missing argument after " ++ Quoting.plain (← last))
      | "length" :: rest => do
          let (a, rest) ← operand bound live rest
          return (toString a.length, rest)
      | "match" :: rest => do
          let (a, rest) ← operand bound live rest
          let (b, rest) ← operand bound live rest
          if live then return (← matched a b, rest) else return (a, rest)
      | "index" :: rest => do
          let (a, rest) ← operand bound live rest
          let (b, rest) ← operand bound live rest
          let before := a.toList.takeWhile (!b.toList.contains ·)
          return (toString (if before.length < a.length then before.length + 1 else 0), rest)
      | "substr" :: rest => do
          let (a, rest) ← operand bound live rest
          let (i, rest) ← operand bound live rest
          let (j, rest) ← operand bound live rest
          let part := match integer? i, integer? j with
            | some start, some count =>
                if 0 < start && 0 < count then
                  String.ofList ((a.toList.drop (start.toNat - 1)).take count.toNat)
                else ""
            | _, _ => ""
          return (part, rest)
      | "(" :: rest => do
          let (a, left) ← level bound live levels rest
          match left with
          | [] => wrong ("expecting ')' after " ++ Quoting.plain (← last))
          | ")" :: left => return (a, left)
          | other :: _ => wrong ("expecting ')' instead of " ++ Quoting.plain other)
      | ")" :: _ => wrong "unexpected ')'"
      | a :: rest => return (a, rest)
where
  level (bound : Nat) (live : Bool) (operators : List (List String)) (arguments : List String) :
      Tool (String × List String) := do
    match bound, operators with
    | 0, _ => return ("", arguments)
    | bound + 1, [] => operand bound live arguments
    | bound + 1, here :: higher =>
        let (a, rest) ← level bound live higher arguments
        more bound live here higher a rest
  more (bound : Nat) (live : Bool) (here : List String) (higher : List (List String)) (a : String)
      (arguments : List String) : Tool (String × List String) := do
    match bound, arguments with
    | bound + 1, op :: rest =>
        if here.contains op then
          let (b, rest) ← level bound (live && needs op a) higher rest
          let value ← if live then combine op a b else pure a
          more bound live here higher value rest
        else return (a, arguments)
    | _, _ => return (a, arguments)

end Expression

def expr : Tool Unit := do
  let arguments := match (← read).arguments with
    | "--" :: rest => rest
    | rest => rest
  if arguments.isEmpty then misuse 2 "missing operand"
  let (value, rest) ← Expression.operand.level (8 * arguments.length + 8) true
    Expression.levels arguments
  match rest with
  | extra :: _ => Expression.wrong ("unexpected argument " ++ Quoting.plain extra)
  | [] => do
      putText (value ++ "\n")
      exit (if Expression.isNull value then 1 else 0)

end LineShell.Machine.Tool
