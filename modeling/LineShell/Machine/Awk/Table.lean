import Std.Data.HashMap

/-!
The arrays of `awk`. Their keys are texts, and whole numbers are the texts that they are written as.
The order in which keys are gone through is that of rows: each key lies in the row that its code
tells, and in a row the key that was asked for last comes first. Keys that were only ever given as
numbers lie in rows of their own, until the order of all keys is asked for or one is given as a text.
-/

namespace LineShell.Machine.Awk

/-- A key as it is given. -/
inductive Key where
  | number (n : Int)
  | text (s : String)
  deriving DecidableEq, Repr

def Key.toText : Key → String
  | .number n => toString n
  | .text s => s

/-- An array whose elements hold values of a kind. -/
structure Table (α : Type) where
  cells : Std.HashMap String α := ∅
  texts : Array (List String)
  numbers : Array (List Int)
  /-- All keys lie in rows of texts. -/
  isTold : Bool := false

namespace Table

variable {α : Type}

/-- The rows at the start. -/
def firstRows : Nat := 64

/-- Rows hold at most so many keys on the average. -/
def rowSize : Nat := 12

def empty : Table α :=
  { texts := Array.replicate firstRows [], numbers := Array.replicate firstRows [] }

def size (t : Table α) : Nat := t.cells.size

/-- The code of a text: it takes in one byte after another. -/
def code (s : String) : Nat :=
  s.toList.foldl (fun h c => ((h ^^^ (c.toNat % 256)) * 16777619) % 4294967296) 2166136261

def rowOf (rows : Nat) (s : String) : Nat := code s % rows

def rowOfNumber (rows : Nat) (n : Int) : Nat := (n % rows).toNat

/-- Puts a key in front of its row. -/
def push {β : Type} [BEq β] (rows : Array (List β)) (row : Nat) (key : β) : Array (List β) :=
  rows.modify row (key :: ·.filter (· != key))

/-- Puts all keys into rows of texts. -/
def tell (t : Table α) : Table α :=
  if t.isTold then t
  else
    let all := t.numbers.toList.flatten
    { t with
      isTold := true
      texts := all.foldl (fun rows n =>
        push rows (rowOf rows.size (toString n)) (toString n)) t.texts }

/-- Twice as many rows. Keys that stay in their row and keys that leave it keep their order. -/
def spreadRows {β : Type} (rows : Array (List β)) (rowOf : Nat → β → Nat) : Array (List β) :=
  let count := rows.size
  let stays (i : Nat) (key : β) : Bool := rowOf (2 * count) key = i
  rows.mapIdx (fun i row => row.filter (stays i)) ++
    rows.mapIdx (fun i row => row.filter (!stays i ·))

/-- Makes more rows when there are too many keys for those there are. -/
def grow (t : Table α) : Table α :=
  if t.texts.size * rowSize < t.size then
    { t with texts := spreadRows t.texts rowOf, numbers := spreadRows t.numbers rowOfNumber }
  else t

/-- Puts a key in front of its rows. -/
def touch (key : Key) (t : Table α) : Table α :=
  match key with
  | .text s =>
      let t := t.tell
      { t with texts := push t.texts (rowOf t.texts.size s) s }
  | .number n =>
      let row := rowOfNumber t.numbers.size n
      let isKnown := (t.numbers.getD row []).contains n
      let texts := if t.isTold && !isKnown then
          push t.texts (rowOf t.texts.size (toString n)) (toString n) else t.texts
      { t with texts := texts, numbers := push t.numbers row n }

/-- The value of an element, if there is one. -/
def find? (key : Key) (t : Table α) : Option α := t.cells[key.toText]?

/-- The array after an element was asked for. -/
def asked (key : Key) (t : Table α) : Table α :=
  if t.cells.contains key.toText then t.touch key
  else match key with
    | .text _ => t.tell
    | .number _ => t

def insert (key : Key) (a : α) (t : Table α) : Table α :=
  let t := t.touch key
  grow { t with cells := t.cells.insert key.toText a }

def erase (key : Key) (t : Table α) : Table α :=
  let t := t.asked key
  let s := key.toText
  if t.size = 1 && t.cells.contains s then empty
  else
    { t with
      cells := t.cells.erase s
      texts := t.texts.modify (rowOf t.texts.size s) (·.filter (· != s))
      numbers := match s.toInt? with
        | some n => t.numbers.modify (rowOfNumber t.numbers.size n)
            (·.filter fun m => m != n || toString m != s)
        | none => t.numbers }

/-- All keys of an array that has them in rows of texts, in their order. -/
def keys (t : Table α) : List String := t.texts.toList.flatten

end Table

end LineShell.Machine.Awk
