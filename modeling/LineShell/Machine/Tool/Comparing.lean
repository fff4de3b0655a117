import LineShell.Machine.Tool.Copying

/-!
Tools that compare files line by line or byte by byte.
-/

namespace LineShell.Machine.Tool

/-! ### Columns of two files -/

/-- Whether the lines of a file have to be in order. -/
inductive OrderCheck where
  /-- Only if the files differ. -/
  | lenient
  | strict
  | none
  deriving DecidableEq, Repr

/-- A file of which some lines have been compared. -/
structure Compared where
  /-- The line before the next one, and the one before that. -/
  before : List Bytes := []
  rest : List Bytes
  /-- It was said that the lines are out of order. -/
  told : Bool := false

namespace Compared

/-- Goes on to the next line. The lines around the new place have to be in order. -/
def advance (c : Compared) : Compared × Bool :=
  match c.rest with
  | [] => (c, true)
  | line :: rest =>
      let c := { c with before := line :: c.before.take 1, rest := rest }
      match rest, c.before with
      | next :: _, _ => (c, decide (line ≤ next))
      | [], last :: earlier :: _ => (c, decide (earlier ≤ last))
      | [], _ => (c, true)

end Compared

/-- How two files compare: the columns of their lines, and what was said on the way. -/
structure Comparison where
  check : OrderCheck
  /-- A line was in one file only. -/
  differs : Bool := false
  first : Compared
  second : Compared
  /-- Lines with their columns, the last one first. -/
  columns : List (Nat × Bytes) := []
  /-- The numbers of files that are out of order, the one last found first. -/
  faults : List Nat := []
  /-- Nothing more is compared. -/
  isOver : Bool := false

namespace Comparison

def isChecked (c : Comparison) : Bool :=
  c.check = .strict || (c.check = .lenient && c.differs)

/-- Notes that a file is out of order. -/
def fault (c : Comparison) (number : Nat) : Comparison :=
  { c with faults := number :: c.faults, isOver := c.isOver || c.check = .strict }

def stepFirst (c : Comparison) : Comparison :=
  let (file, inOrder) := c.first.advance
  if c.isChecked && !inOrder && !file.told then
    ({ c with first := { file with told := true } }).fault 1
  else { c with first := file }

def stepSecond (c : Comparison) : Comparison :=
  if c.isOver then c
  else
    let (file, inOrder) := c.second.advance
    if c.isChecked && !inOrder && !file.told then
      ({ c with second := { file with told := true } }).fault 2
    else { c with second := file }

def put (c : Comparison) (column : Nat) (line : Bytes) : Comparison :=
  { c with columns := (column, line) :: c.columns }

/-- Compares the lines that are left. -/
def run : Nat → Comparison → Comparison
  | 0, c => c
  | bound + 1, c =>
      if c.isOver then c
      else
        let alone (c : Comparison) : Comparison := { c with differs := true }
        match c.first.rest, c.second.rest with
        | [], [] => c
        | a :: _, [] => run bound (((alone c).put 0 a).stepFirst)
        | [], b :: _ => run bound (((alone c).put 1 b).stepSecond)
        | a :: _, b :: _ =>
            if a = b then run bound ((c.put 2 b).stepFirst.stepSecond)
            else if a < b then run bound (((alone c).put 0 a).stepFirst)
            else run bound (((alone c).put 1 b).stepSecond)

end Comparison

/-- The text between columns. Different ones must not be given. -/
def columnDelimiter (o : Options) : Tool Bytes := do
  let texts := (o.given.filter (·.1 = "output-delimiter")).map (·.2)
  if 1 < texts.eraseDups.length then fail 1 "multiple output delimiters specified"
  match texts with
  | [] => return [9]
  | text :: _ => return if text.isEmpty then [0] else Raw.toBytes text

def comm : Tool Unit := do
  let o ← options 1 "123z"
    "check-order nocheck-order output-delimiter: total zero-terminated=z"
  let delimiter ← columnDelimiter o
  match o.operands with
  | [] => misuse 1 "missing operand"
  | [only] => misuse 1 ("missing operand after " ++ Quoting.plain only)
  | _ :: _ :: extra :: _ => misuse 1 ("extra operand " ++ Quoting.plain extra)
  | [first, second] =>
      let ending := ending o
      let descriptor (operand : String) : Tool Descriptor := do
        if operand = "-" then return Descriptor.input
        match ← openInput operand with
        | .ok d => return d
        | .error e => fail 1 (named (Quoting.ifNeeded operand) e)
      let firstInput ← descriptor first
      let secondInput ← descriptor second
      let lines (operand : String) (d : Descriptor) : Tool (List Bytes) := do
        match ← everything d with
        | .ok bytes => return linesOf ending bytes
        | .error e => fail 1 (named (Quoting.ifNeeded operand) e)
      let as ← lines first firstInput
      let bs ← lines second secondInput
      let start : Comparison := {
        check := match o.last? ["check-order", "nocheck-order"] with
          | some "check-order" => .strict
          | some _ => .none
          | none => .lenient
        first := { rest := as }, second := { rest := bs } }
      let c := start.run (as.length + bs.length + 1)
      let columns := c.columns.reverse
      let hidden (column : Nat) : Bool := o.isSet (toString (column + 1))
      let lead (column : Nat) : Bytes :=
        ((List.range column).filter (!hidden ·)).flatMap fun _ => delimiter
      put (joinLines ending ((columns.filter (!hidden ·.1)).map fun (n, line) => lead n ++ line))
      forEach c.faults.reverse fun n => warn ("file " ++ toString n ++ " is not in sorted order")
      if c.isOver then exit 1
      if o.isSet "total" then
        let count (n : Nat) : Bytes :=
          Raw.toBytes (toString (columns.countP (·.1 = n))) ++ delimiter
        put (count 0 ++ count 1 ++ count 2 ++ Raw.toBytes "total" ++ [ending])
      if !c.faults.isEmpty then fail 1 "input is not in sorted order"

end LineShell.Machine.Tool
