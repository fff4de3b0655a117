import LineShell.Machine.Awk.Source

/-!
Reading `awk` programs. Operators that bind tighter have higher levels; two operands side by side
are joined, which binds looser than addition and tighter than comparison.
-/

namespace LineShell.Machine.Awk.Reading

/-! ### Levels of operators -/

namespace Level

def lowest : Nat := 1

def choice : Nat := 2

def either : Nat := 3

def both : Nat := 4

def member : Nat := 5

def matching : Nat := 6

/-- On this level and below, an operand may be an assignment. -/
def comparison : Nat := 7

def join : Nat := 8

def sum : Nat := 10

def product : Nat := 11

def sign : Nat := 12

def pipe : Nat := 13

def power : Nat := 14

def highest : Nat := 15

end Level

def assignments : List (String × Option Operation) := [
  ("=", none), ("+=", some .add), ("-=", some .subtract), ("*=", some .multiply),
  ("/=", some .divide), ("%=", some .remainder), ("^=", some .power)]

def comparisons : List (String × Comparison) := [
  ("<", .less), ("<=", .lessOrEqual), ("==", .equal), ("!=", .different), (">=", .greaterOrEqual),
  (">", .greater)]

def operations : List (String × Operation × Nat) := [
  ("+", .add, Level.sum), ("-", .subtract, Level.sum), ("*", .multiply, Level.product),
  ("/", .divide, Level.product), ("%", .remainder, Level.product)]

/-- Where an expression stands. -/
structure Place where
  /-- What is printed: a greater-than sign and a bar say where to. -/
  prints : Bool := false
  /-- Several values in parentheses may stand here. -/
  lists : Bool := false
  deriving DecidableEq, Repr

def Place.inner (p : Place) : Place := { p with lists := false }

/-- The mark says where a print goes. -/
def isRoute (t : Token) : Bool := t.isMark ">" || t.isMark ">>" || t.isMark "|"

/-- The one value, or the several values as one. -/
def asKey : List Expr → Expr
  | [e] => e
  | parts => .tuple parts

/-- Checks how many arguments a builtin function is given. -/
def checkCount (b : Builtin) (args : List Expr) : Reading Unit := do
  match builtins.find? fun (_, other, _) => other = b with
  | some (name, _, least, most) =>
      if args.length < least || most < args.length then
        complain ("wrong number of arguments in call to " ++ name)
  | none => return ()

/-- The number of the argument of a builtin function that is a regular expression. -/
def patternIndex? (b : Builtin) : Option Nat :=
  match b with
  | .sub | .gsub => some 0
  | .match => some 1
  | .split => some 2
  | _ => none

/-- Checks a regular expression that is known before the program runs. -/
def checkPattern (e : Expr) : Reading Unit := do
  if let .text s := e then checkRegex s

/-- The name that an argument is, if it is no more than a name. -/
def argumentName (e : Expr) : Reading (Option String) := do
  match e with
  | .name (.shared text) => return some text
  | .name (.own _) => return some ""
  | _ => return none

/-- An operand, which a step may follow. -/
def stepped (e : Expr) : Reading Expr := do
  if e.isTarget then
    if ← accept "++" then return .step e 1 false
    if ← accept "--" then return .step e (-1) false
  return e

mutual

/-- Reads an expression whose operators are at least of a level. -/
def expression : Nat → Nat → Place → Reading Expr
  | 0, _, _ => throw .hopeless
  | bound + 1, level, p => do
      let t ← peek
      let first ←
        if t.isMark "!" then do
          let _ ← take
          pure (.not (← expression bound Level.sign p.inner))
        else if t.isMark "-" then do
          let _ ← take
          pure (.negate (← expression bound Level.sign p.inner))
        else if t.isMark "+" then do
          let _ ← take
          pure (.plus (← expression bound Level.sign p.inner))
        else if t.isMark "++" || t.isMark "--" then do
          let _ ← take
          let next ← peek
          if !(next.isMark "$" || next matches .name _) then misplaced
          let target ← primary bound p.inner
          pure (.step target (if t.isMark "++" then 1 else -1) true)
        else do
          let e ← primary bound p
          stepped e
      operators bound level p first

/-- Reads the operators that follow an operand. -/
def operators : Nat → Nat → Place → Expr → Reading Expr
  | 0, _, _, e => return e
  | bound + 1, level, p, e => do
      if e matches .tuple _ then return e
      let t ← peek
      let inner := p.inner
      match t with
      | .mark m =>
          if p.prints && isRoute t then return e
          else if m = "?" && level ≤ Level.choice then do
            let _ ← take
            let first ← expression bound Level.choice inner
            expect ":"
            let second ← expression bound Level.choice inner
            operators bound level p (.choice e first second)
          else if m = "||" && level ≤ Level.either then do
            let _ ← take
            let second ← expression bound (Level.either + 1) inner
            operators bound level p (.either e second)
          else if m = "&&" && level ≤ Level.both then do
            let _ ← take
            let second ← expression bound (Level.both + 1) inner
            operators bound level p (.both e second)
          else if (m = "~" || m = "!~") && level ≤ Level.matching then do
            let _ ← take
            let second ← expression bound (Level.matching + 1) inner
            checkPattern second
            operators bound level p (.matches (m = "!~") e second)
          else if m = "|" && level ≤ Level.pipe then do
            let _ ← take
            if !(← peek).isWord "getline" then misplaced
            let _ ← take
            let target ← lineTarget bound inner
            operators bound level p (.getline target (some (.pipe, e)))
          else if m = "^" && level ≤ Level.power then do
            let _ ← take
            let second ← expression bound Level.power inner
            operators bound level p (.operate .power e second)
          else
            match assignments.lookup m, comparisons.lookup m, operations.lookup m with
            | some op, _, _ =>
                if e.isTarget && level ≤ Level.comparison + 1 then
                  let _ ← take
                  let value ← expression bound Level.lowest inner
                  operators bound level p (.assign e op value)
                else return e
            | _, some op, _ =>
                if level ≤ Level.comparison then
                  let _ ← take
                  let second ← expression bound (Level.comparison + 1) inner
                  operators bound level p (.compare op e second)
                else return e
            | _, _, some (op, own) =>
                if level ≤ own then
                  let _ ← take
                  let second ← expression bound (own + 1) inner
                  operators bound level p (.operate op e second)
                else return e
            | none, none, none => joined bound level p e t
      | .word "in" =>
          if level ≤ Level.member then
            let _ ← take
            operators bound level p (.member e (← tableName))
          else return e
      | t => joined bound level p e t

/-- Joins an operand to another one that follows it. -/
def joined : Nat → Nat → Place → Expr → Token → Reading Expr
  | 0, _, _, e, _ => return e
  | bound + 1, level, p, e, t => do
      if level ≤ Level.join && t.startsOperand then
        let second ← expression bound (Level.join + 1) p.inner
        operators bound level p (.join e second)
      else return e

/-- Reads what a line is read into, if that is told. -/
def lineTarget : Nat → Place → Reading (Option Expr)
  | 0, _ => throw .hopeless
  | bound + 1, p => do
      let t ← peek
      if t.isMark "$" || t matches .name _ then
        let e ← primary bound p.inner
        return some e
      else return none

/-- Reads an operand. -/
def primary : Nat → Place → Reading Expr
  | 0, _ => throw .hopeless
  | bound + 1, p => do
      match ← peek with
      | .number x _ => do
          let _ ← take
          return .number x
      | .string s => do
          let _ ← take
          return .text s
      | .regex source => do
          let _ ← take
          return .regex source
      | .name text => do
          let _ ← take
          named bound p text
      | .call text => do
          let _ ← take
          let line := (← get).tokenLine
          expect "("
          let args ← if ← accept ")" then pure [] else do
            let args ← arguments bound
            expect ")"
            pure args
          let names ← args.mapM argumentName
          modify fun s => { s with requests := ⟨text, names, line⟩ :: s.requests }
          return .call text args
      | .builtin b _ => do
          let _ ← take
          if b = .length && !(← isNext "(") then return .builtin b []
          expect "("
          let args ← if ← accept ")" then pure [] else do
            let args ← arguments bound
            expect ")"
            pure args
          checkCount b args
          if let some index := patternIndex? b then
            if let some e := args[index]? then checkPattern e
          return .builtin b args
      | .mark "(" => do
          let _ ← take
          let parts ← list bound {}
          expect ")"
          match parts with
          | [e] => return .grouped e
          | parts =>
              if (← peek).isWord "in" then
                let _ ← take
                return .grouped (.member (.tuple parts) (← tableName))
              else if p.lists then return .tuple parts
              else misplaced
      | .mark "$" => do
          let _ ← take
          let t ← peek
          if ["-", "+", "!", "++", "--"].any t.isMark then
            return .field (← expression bound Level.highest p.inner)
          else return .field (← primary bound p.inner)
      | .word "getline" => do
          let _ ← take
          let target ← lineTarget bound p
          if ← accept "<" then
            let file ← expression bound (Level.pipe + 1) p.inner
            return .getline target (some (.file, file))
          else return .getline target none
      | _ => misplaced

/-- What the name of a value or of an array begins. -/
def named : Nat → Place → String → Reading Expr
  | 0, _, _ => throw .hopeless
  | bound + 1, p, text => do
      if ← accept "[" then
        let n ← use text .table
        let keys ← list bound p.inner
        expect "]"
        return .element n (asKey keys)
      else return .name (← use text .value)

/-- Reads expressions between commas. -/
def list : Nat → Place → Reading (List Expr)
  | 0, _ => throw .hopeless
  | bound + 1, p => do
      let first ← expression bound Level.lowest p
      if ← accept "," then
        let rest ← list bound p.inner
        return first :: rest
      else return [first]

/-- Reads arguments. A name alone may turn out to be that of an array. -/
def arguments : Nat → Reading (List Expr)
  | 0 => throw .hopeless
  | bound + 1 => do
      let first ← match ← peek with
        | .name text => do
            let _ ← take
            if (← isNext ",") || (← isNext ")") then
              let (n, _) ← resolve text
              pure (.name n)
            else do
              let e ← named bound {} text
              let e ← stepped e
              operators bound Level.lowest {} e
        | _ => expression bound Level.lowest {}
      if ← accept "," then
        let rest ← arguments bound
        return first :: rest
      else return [first]

end

def full (bound : Nat) : Reading Expr := expression bound Level.lowest {}

/-! ### Statements -/

/-- What is printed, and where to. -/
def printing (bound : Nat) : Reading (List Expr × Option (Route × Expr)) := do
  let t ← peek
  let args ← if t.separates || isRoute t then pure [] else do
    let args ← list bound { prints := true, lists := true }
    match args with
    | [.tuple parts] =>
        let t ← peek
        if !(t.separates || isRoute t) then misplaced
        pure parts
    | args => pure args
  let t ← peek
  if isRoute t then
    let _ ← take
    let route := if t.isMark "|" then Route.pipe else if t.isMark ">>" then .append else .file
    return (args, some (route, ← full bound))
  else return (args, none)

/-- Goes on behind the next separator. -/
def recover : Nat → Reading Unit
  | 0 => throw .hopeless
  | bound + 1 => do
      match ← peek with
      | .finish => throw .hopeless
      | t => do
          let _ ← take
          if t.separates then modify fun s => { s with parens := 0, quiet := 0 } else recover bound

/-- What stands behind a closing parenthesis may stand on a line of its own. -/
def closeHead : Reading Unit := do
  expect ")"
  if (← get).ahead.isNone then skipLines

def inLoop {α : Type} (body : Reading α) : Reading α := do
  modify fun s => { s with loops := s.loops + 1 }
  let a ← body
  modify fun s => { s with loops := s.loops - 1 }
  return a

/-- An expression, unless a mark comes first. -/
def optional (mark : Token → Bool) (bound : Nat) : Reading (Option Expr) := do
  if mark (← peek) then return none else return some (← full bound)

def simpleWords : List String := [
  "break", "continue", "next", "nextfile", "exit", "return", "delete", "print", "printf"]

/-- Reads a statement that begins with a keyword and has no parts. -/
def simple (bound : Nat) (word : String) : Reading Statement := do
  if !simpleWords.contains word then misplaced
  let _ ← take
  let s ← get
  match word with
  | "break" => do
      separator
      if s.loops = 0 then complain "break statement outside of loop"
      return .leave
  | "continue" => do
      separator
      if s.loops = 0 then complain "continue statement outside of loop"
      return .goOn
  | "next" => do
      separator
      if !s.inRule then complain "improper use of next"
      return .next
  | "nextfile" => do
      separator
      if !s.inRule then complain "improper use of nextfile"
      return .nextFile
  | "exit" => do
      let code ← optional Token.separates bound
      separator
      return .exit code
  | "return" => do
      let value ← optional Token.separates bound
      separator
      if !s.inFunction then complain "return outside function body"
      return .give value
  | "delete" => do
      match ← peek with
      | .name text => do
          let _ ← take
          let n ← use text .table
          let key ← if ← accept "[" then do
              let keys ← list bound {}
              expect "]"
              pure (some (asKey keys))
            else pure none
          separator
          return .delete n key
      | _ => misplaced
  | "print" => do
      let (args, sink) ← printing bound
      separator
      return .print args sink
  | "printf" => do
      let (args, sink) ← printing bound
      if args.isEmpty then complain "no arguments in call sink printf"
      separator
      return .printf args sink
  | _ => misplaced

def expressionStatement (bound : Nat) : Reading Statement := do
  let e ← full bound
  separator
  return .expression e

/-- Reads the condition behind the body of a loop. -/
def untilCondition (bound : Nat) : Reading Expr := do
  if !(← peek).isWord "while" then misplaced
  let _ ← take
  expect "("
  let condition ← full bound
  expect ")"
  separator
  return condition

/-- Reads the condition behind the body of a loop. Where it is misplaced, what follows up to a
separator is taken for the body. -/
def untilFound (bound : Nat) : Nat → Reading Expr
  | 0 => throw .hopeless
  | steps + 1 =>
      tryCatch (untilCondition bound) fun fault => do
        match fault with
        | .hopeless => throw .hopeless
        | .misplaced => do
            recover (((← get).text.length + 2) * 2)
            untilFound bound steps

mutual

def statement : Nat → Reading Statement
  | 0 => throw .hopeless
  | bound + 1 =>
      tryCatch (statementOrFail bound) fun fault => do
        match fault with
        | .hopeless => throw .hopeless
        | .misplaced => do
            recover (((← get).text.length + 2) * 2)
            return .nothing

def statementOrFail : Nat → Reading Statement
  | 0 => throw .hopeless
  | bound + 1 => do
      let t ← peek
      match t with
      | .semicolon | .newline | .understood => do
          let _ ← take
          return .nothing
      | .mark "\x7b" => block bound
      | .word "if" => do
          let _ ← take
          expect "("
          let condition ← full bound
          closeHead
          let first ← statement bound
          if (← peek).isWord "else" then
            let _ ← take
            return .branch condition first (← statement bound)
          else return .branch condition first .nothing
      | .word "while" => do
          let _ ← take
          expect "("
          let condition ← full bound
          closeHead
          return .loop condition (← inLoop (statement bound))
      | .word "do" => do
          let _ ← take
          let body ← inLoop (statement bound)
          let condition ← untilFound bound ((← get).text.length + 2)
          return .until body condition
      | .word "for" => do
          let _ ← take
          expect "("
          let start ← optional (· matches .semicolon) bound
          match start, ← isNext ")" with
          | some (.member (.name n) array), true => do
              closeHead
              return .each (.name n) array (← inLoop (statement bound))
          | start, _ => do
              if !((← peek) matches .semicolon) then misplaced
              let _ ← take
              let condition ← optional (· matches .semicolon) bound
              if !((← peek) matches .semicolon) then misplaced
              let _ ← take
              let step ← optional (·.isMark ")") bound
              closeHead
              return .count start condition step (← inLoop (statement bound))
      | .word w =>
          if w = "getline" then expressionStatement bound else simple bound w
      | _ => expressionStatement bound

def block : Nat → Reading Statement
  | 0 => throw .hopeless
  | bound + 1 => do
      expect "\x7b"
      let list ← statements bound
      expect "\x7d"
      return .block list

def statements : Nat → Reading (List Statement)
  | 0 => throw .hopeless
  | bound + 1 => do
      let t ← peek
      if t.isMark "\x7d" || t matches .finish then return []
      let first ← statement bound
      let rest ← statements bound
      return first :: rest

end

/-! ### Programs -/

def addRule (occasion : Occasion) (body : Statement) : Reading Unit :=
  modify fun s => { s with rules := ⟨occasion, body⟩ :: s.rules }

/-- The names of parameters, up to the closing parenthesis. -/
def parameters (function : String) : Nat → List String → Reading (List String)
  | 0, _ => throw .hopeless
  | bound + 1, found => do
      match ← peek with
      | .name text | .call text => do
          let _ ← take
          if found.contains text then complain (text ++ " is duplicated in argument list")
          if text = function then complain "function parameter cannot be the function"
          if ← accept "," then parameters function bound (found ++ [text])
          else return found ++ [text]
      | _ => if found.isEmpty && (← isNext ")") then return [] else misplaced

def function (bound : Nat) : Reading Unit := do
  let _ ← take
  match ← peek with
  | .name name | .call name => do
      let _ ← take
      expect "("
      let own ← parameters name bound []
      closeHead
      match (← get).kinds.lookup name with
      | some .function => complain ("redefinition of " ++ name)
      | some .table => complain ("illegal reference to array " ++ name)
      | some .value => complain ("illegal reference to variable " ++ name)
      | none => pure ()
      modify fun s => { s with
        kinds := (name, .function) :: s.kinds.filter (·.1 != name)
        own := own, ownKinds := [], inFunction := true, inRule := false }
      let body ← block bound
      modify fun s => { s with
        own := [], ownKinds := [], inFunction := false, inRule := true
        expected := (name, own.map fun p => s.ownKinds.lookup p) :: s.expected
        functions := ⟨name, own.length, body⟩ :: s.functions }
  | _ => misplaced

/-- Reads a rule or a function. -/
def item (bound : Nat) : Reading Unit := do
  let edge (occasion : Occasion) : Reading Unit := do
    let _ ← take
    modify fun s => { s with inRule := false }
    let body ← block bound
    modify fun s => { s with inRule := true }
    addRule occasion body
  match ← peek with
  | .word "BEGIN" => edge .start
  | .word "END" => edge .finish
  | .word "function" => function bound
  | .mark "\x7b" => do addRule .always (← block bound)
  | t => do
      if t.separates then misplaced
      let first ← full bound
      let occasion ← if ← accept "," then do
          pure (.between first (← full bound))
        else pure (.when first)
      let t ← peek
      if t.isMark "\x7b" then addRule occasion (← block bound)
      else if t.separates then
        let _ ← take
        addRule occasion (.print [] none)
      else misplaced

/-- Goes on with the next block. -/
def recoverItem (bound : Nat) : Nat → Reading Unit
  | 0 => throw .hopeless
  | steps + 1 => do
      match ← peek with
      | .finish => throw .hopeless
      | .mark "\x7b" => do
          let _ ← block bound
      | _ => do
          let quiet := (← get).quiet
          let _ ← take
          modify fun s => { s with quiet := quiet }
          recoverItem bound steps

def items (bound : Nat) : Nat → Reading Unit
  | 0 => throw .hopeless
  | steps + 1 => do
      if (← peek) matches .finish then return ()
      tryCatch (item bound) fun fault => do
        match fault with
        | .hopeless => throw .hopeless
        | .misplaced => recoverItem bound (((← get).text.length + 2) * 2)
      items bound steps

/-- Checks calls against the functions that there are. -/
def checkRequests : Reading Unit := do
  let s ← get
  for r in s.requests.reverse do
    match s.functions.find? (·.name = r.function) with
    | none => complainAt s.tokenLine ("function " ++ r.function ++ " never defined")
    | some f =>
        if f.arity < r.args.length then
          complainAt r.line ("too many arguments in call to " ++ r.function)
        else
          let expected := (s.expected.lookup r.function).getD []
          let actual (arg : Option String) : Option Kind :=
            match arg with
            | some name => s.kinds.lookup name
            | none => some .value
          let show_ (k : Kind) : String := if k = .table then "local array" else "local variable"
          for ((wanted, arg), index) in (expected.zip r.args).zipIdx do
            match wanted, actual arg with
            | some wanted, some actual =>
                if wanted != actual then
                  complainAt r.line ("type error in arg(" ++ toString (index + 1) ++ ") in call to " ++
                    r.function ++ " (actual " ++ show_ actual ++ " vs " ++ show_ wanted ++ ")")
            | _, _ => pure ()

end Reading

/-- The names that have a meaning from the start. -/
def givenNames : List (String × Kind) :=
  (["NR", "FNR", "NF", "FS", "OFS", "ORS", "RS", "FILENAME", "SUBSEP", "RSTART", "RLENGTH", "CONVFMT",
    "OFMT", "ARGC"].map fun name => (name, Kind.value)) ++
  [("ENVIRON", .table), ("ARGV", .table)]

/-- Reads a program in which some names are those of values, and tells what is wrong with it if
anything is. -/
def Script.read (given : List String) (file : Option String) (text : List Char)
    (further : List (String × List Char)) : Script × List String :=
  let length := further.foldl (fun n f => n + f.2.length) text.length
  let bound := 40 * (length + 10)
  let (start, line) := Token.skipLines (text.length + 1) 1 text
  let source : Source := {
    text := start, file := file, further := further, line := line
    kinds := givenNames ++ (given.filter fun name => (givenNames.lookup name).isNone).map fun name =>
      (name, Kind.value) }
  let reading : Reading Unit := do
    Reading.items bound (2 * length + 10)
    if (← get).complaints.isEmpty then Reading.checkRequests
  let s := match reading.run source with
    | .ok _ s | .error _ s => s
  (⟨s.rules.reverse, s.functions⟩, s.complaints.reverse)

end LineShell.Machine.Awk
