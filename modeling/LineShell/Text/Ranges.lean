/-!
Sets of code points, given by their ranges in ascending order.
-/

namespace LineShell

namespace Ranges

/-- Whether one of `count` ascending ranges, from index `low` on, holds `n`. -/
def search (table : Array (Nat × Nat)) (n low : Nat) : Nat → Bool
  | 0 => false
  | count + 1 =>
      let half := (count + 1) / 2
      match table[low + half]? with
      | none => false
      | some (first, last) =>
          if n < first then search table n low half
          else if n ≤ last then true
          else search table n (low + half + 1) (count - half)
termination_by count => count
decreasing_by all_goals omega

def holds (table : Array (Nat × Nat)) (n : Nat) : Bool := search table n 0 table.size

end Ranges

end LineShell
