/-!
How far apart two texts are: the least number of characters to insert, drop or replace in one to get
the other.
-/

namespace LineShell

namespace Distance

/-- The distances to the beginnings of a word after one more character `c`, from those before it.
`left` is the distance to the beginning that is one character shorter. -/
def rowAfter (c : Char) (left : Nat) : List Char → List Nat → List Nat
  | w :: word, diagonal :: above :: row =>
      let here := min (min (left + 1) (above + 1)) (diagonal + if w = c then 0 else 1)
      here :: rowAfter c here word (above :: row)
  | _, _ => []

/-- The distances from a text to all beginnings of a word, the shortest one first. -/
def row (word : List Char) (text : List Char) : List Nat :=
  text.foldl (fun row c =>
    let first := row.headD 0 + 1
    first :: rowAfter c first word row) (List.range (word.length + 1))

def between (text word : String) : Nat := (row word.toList text.toList).getLast?.getD 0

end Distance

end LineShell
