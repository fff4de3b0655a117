import LineShell.Machine.Quoting
import LineShell.Machine.Size

/-!
Columns to which a tab leads. They are given one by one, and for what lies behind the last of them
either as multiples of a number or as steps from that last one.
-/

namespace LineShell.Machine

structure TabStops where
  /-- Single columns, in order. -/
  single : List Nat := []
  multiples : Option Nat := none
  steps : Option Nat := none
  deriving DecidableEq, Repr

namespace TabStops

def defaultWidth : Nat := 8

/-- The next multiple of a number. -/
def nextMultiple (width column : Nat) : Nat := column + (width - column % width)

/-- The column to which a tab leads, if there is a stop behind `column`. -/
def next? (t : TabStops) (column : Nat) : Option Nat :=
  let known (n : Option Nat) : Option Nat := n.filter (· != 0)
  match t.single, known t.multiples, known t.steps with
  | [], some width, _ | [], none, some width => some (nextMultiple width column)
  | [], none, none => some (nextMultiple defaultWidth column)
  | [width], none, none => some (nextMultiple width column)
  | single, multiples, steps =>
      match single.find? (column < ·), multiples, steps with
      | some stop, _, _ => some stop
      | none, some width, _ => some (nextMultiple width column)
      | none, none, some step =>
          let last := single.getLast?.getD 0
          some (column + (step - (column - last) % step))
      | none, none, none => none

/-- Whether numbers rise, and none of them is zero. -/
def fault? : Nat → List Nat → Option String
  | _, [] => none
  | last, stop :: rest =>
      if stop = 0 then some "tab size cannot be 0"
      else if stop ≤ last then some "tab sizes must be ascending"
      else fault? stop rest

/-- What makes stops of no use. -/
def wrong? (t : TabStops) : Option String :=
  match fault? 0 t.single with
  | some text => some text
  | none =>
      if t.multiples.any (· != 0) && t.steps.any (· != 0) then
        some "'/' specifier is mutually exclusive with '+'"
      else none

/-! ### Reading -/

/-- What a number stands for. -/
inductive Kind where
  | single
  | multiples
  | steps
  deriving DecidableEq, Repr

/-- How far a list of stops has been read. -/
structure Reading where
  stops : TabStops
  /-- The number that is being read. -/
  value : Option Nat := none
  kind : Kind := .single
  /-- What was wrong, the last thing first. -/
  faults : List String := []
  /-- Nothing more is read. -/
  isOver : Bool := false
  deriving DecidableEq, Repr

namespace Reading

def blame (r : Reading) (text : String) : Reading := { r with faults := text :: r.faults }

/-- Takes the number that has been read. -/
def settle (r : Reading) : Reading :=
  match r.value with
  | none => r
  | some n =>
      match r.kind with
      | .single => { r with value := none, stops := { r.stops with single := r.stops.single ++ [n] } }
      | .multiples =>
          if r.stops.multiples.any (· != 0) then
            { r.blame "'/' specifier only allowed with the last value" with isOver := true }
          else { r with value := none, stops := { r.stops with multiples := some n } }
      | .steps =>
          if r.stops.steps.any (· != 0) then
            { r.blame "'+' specifier only allowed with the last value" with isOver := true }
          else { r with value := none, stops := { r.stops with steps := some n } }

/-- Takes the mark of a kind, which has to stand before a number. -/
def mark (r : Reading) (kind : Kind) (text : List Char) : Reading :=
  let r := if r.value.isSome then
      r.blame ("'" ++ String.ofList (text.take 1) ++ "' specifier not at start of number: " ++
        Quoting.plain (String.ofList text))
    else r
  { r with kind := kind }

/-- Takes the first digit of a number, and with it those that follow. -/
def number (r : Reading) (text : List Char) : Reading :=
  let digits := text.takeWhile Char.isDigit
  let n := (Class.number 10 digits.length 0 digits).1
  let r := { r with value := some n }
  if Size.greatest < n then
    r.blame ("tab stop is too large " ++ Quoting.plain (String.ofList digits))
  else r

/-- Takes a character, which is followed by others. -/
def step (r : Reading) (c : Char) (rest : List Char) : Reading :=
  if r.isOver then r
  else if c = ',' || Class.isBlank c then r.settle
  else if c = '/' then r.mark .multiples (c :: rest)
  else if c = '+' then r.mark .steps (c :: rest)
  else if c.isDigit then (if r.value.isSome then r else r.number (c :: rest))
  else
    { r.blame ("tab size contains invalid character(s): " ++ Quoting.plain (String.ofList (c :: rest)))
      with isOver := true }

def steps (r : Reading) : List Char → Reading
  | [] => if r.faults.isEmpty then r.settle else r
  | c :: rest => (r.step c rest).steps rest

end Reading

/-- Adds the stops that a text tells of, or gives what is wrong with it. -/
def read (t : TabStops) (text : String) : Except (List String) TabStops :=
  let r := ({ stops := t } : Reading).steps text.toList
  if r.faults.isEmpty then .ok r.stops else .error r.faults.reverse

end TabStops

end LineShell.Machine
