import LineShell.Machine.Regex

/-!
The programs of `awk`: rules that say what is done with which records, and functions.
-/

namespace LineShell.Machine.Awk

/-- Of what a name is the name: of what all of the program shares, or of one of the parameters of
the function that it stands in. -/
inductive Name where
  | shared (text : String)
  | own (index : Nat)
  deriving DecidableEq, Repr

inductive Operation where
  | add
  | subtract
  | multiply
  | divide
  | remainder
  | power
  deriving DecidableEq, Repr

inductive Comparison where
  | less
  | lessOrEqual
  | equal
  | different
  | greaterOrEqual
  | greater
  deriving DecidableEq, Repr

/-- The functions that every program has. -/
inductive Builtin where
  | length
  | substr
  | index
  | split
  | sub
  | gsub
  | match
  | sprintf
  | sin
  | cos
  | atan2
  | exp
  | log
  | sqrt
  | int
  | rand
  | srand
  | toupper
  | tolower
  | system
  | close
  | fflush
  deriving DecidableEq, Repr

/-- Where a print goes or a record comes from. -/
inductive Route where
  | file
  | append
  | pipe
  deriving DecidableEq, Repr

inductive Expr where
  | number (x : Float)
  | text (s : String)
  | regex (source : String)
  | name (n : Name)
  | field (index : Expr)
  | element (array : Name) (key : Expr)
  /-- Several values as one key, or as what is printed. -/
  | tuple (parts : List Expr)
  | grouped (e : Expr)
  | assign (target : Expr) (op : Option Operation) (value : Expr)
  /-- Adds to a target. What it comes to is the value before or after that. -/
  | step (target : Expr) (by_ : Float) (before : Bool)
  | negate (e : Expr)
  | plus (e : Expr)
  | not (e : Expr)
  | operate (op : Operation) (first second : Expr)
  | join (first second : Expr)
  | compare (op : Comparison) (first second : Expr)
  | matches (negated : Bool) (first second : Expr)
  | member (key : Expr) (array : Name)
  | both (first second : Expr)
  | either (first second : Expr)
  | choice (condition first second : Expr)
  | builtin (b : Builtin) (args : List Expr)
  | call (function : String) (args : List Expr)
  /-- Reads a record, from a file or a command if there is one. -/
  | getline (target : Option Expr) (source : Option (Route × Expr))

/-- What may be assigned to. -/
def Expr.isTarget : Expr → Bool
  | .name _ | .field _ | .element .. => true
  | _ => false

inductive Statement where
  | nothing
  | block (statements : List Statement)
  | expression (e : Expr)
  | print (args : List Expr) (sink : Option (Route × Expr))
  | printf (args : List Expr) (sink : Option (Route × Expr))
  | branch (condition : Expr) (first second : Statement)
  | loop (condition : Expr) (body : Statement)
  | until (body : Statement) (condition : Expr)
  | count (start : Option Expr) (condition : Option Expr) (step : Option Expr) (body : Statement)
  | each (target : Expr) (array : Name) (body : Statement)
  | leave
  | goOn
  | next
  | nextFile
  | exit (code : Option Expr)
  | give (value : Option Expr)
  | delete (array : Name) (key : Option Expr)

/-- When the body of a rule is carried out. -/
inductive Occasion where
  | start
  | finish
  | always
  | when (condition : Expr)
  | between (first last : Expr)

structure Rule where
  occasion : Occasion
  body : Statement

structure Function where
  name : String
  arity : Nat
  body : Statement

structure Script where
  rules : List Rule
  functions : List Function

end LineShell.Machine.Awk
