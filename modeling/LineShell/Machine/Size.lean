import LineShell.Errno
import LineShell.Machine.Class

/-!
Sizes as tools take them: a number, which a suffix may multiply.
-/

namespace LineShell.Machine.Size

/-- The letters for powers of 1024, or of 1000 if a `B` follows. -/
def powers : List (Char × Nat) := [
  ('k', 1), ('K', 1), ('m', 2), ('M', 2), ('g', 3), ('G', 3), ('t', 4), ('T', 4), ('P', 5),
  ('E', 6), ('Z', 7), ('Y', 8), ('R', 9), ('Q', 10)]

/-- What a suffix multiplies by. -/
def factor? (suffix : List Char) : Option Nat :=
  match suffix with
  | [] => some 1
  | ['b'] => some 512
  | [c] => (powers.lookup c).map (Nat.pow 1024)
  | [c, 'B'] => (powers.lookup c).map (Nat.pow 1000)
  | [c, 'i', 'B'] => (powers.lookup c).map (Nat.pow 1024)
  | _ => none

/-- The greatest number that tools count with. -/
def greatest : Nat := 18446744073709551615

/-- Reads a size, which may be greater than tools can count. Only if `suffixed` says so may it have a
suffix, which then may also stand alone for one. -/
def read? (suffixed : Bool) (text : String) : Option Nat :=
  let start := text.toList.dropWhile Class.isSpace
  let cs := match start with
    | '+' :: rest => rest
    | rest => rest
  let digits := cs.takeWhile Char.isDigit
  if digits.isEmpty then
    let suffix := text.toList
    let isSuffix := suffix.head?.any fun c => (powers.lookup c).isSome || c = 'b'
    if suffixed && isSuffix then factor? suffix else none
  else
    let n := (Class.number 10 digits.length 0 digits).1
    let suffix := cs.drop digits.length
    if suffixed then (factor? suffix).map (n * ·) else if suffix.isEmpty then some n else none

/-- Reads a size with a suffix. -/
def ofText? (text : String) : Option Nat := read? true text

/-- The greatest number that a process can have. -/
def greatestPid : Nat := 2147483647

/-- Sizes up to this are said to be out of range if they are, and greater ones to be too large. -/
def moderate : Nat := 1073741823

/-- What is wrong with a text as a size from `low` to `high`, or the size. -/
def between (suffixed : Bool) (low high : Nat) (text : String) : Except (Option Errno) Nat :=
  match read? suffixed text with
  | none => .error none
  | some n =>
      if low ≤ n && n ≤ high then .ok n
      else if moderate < n then .error (some .overflow)
      else .error (some .outOfRange)

end LineShell.Machine.Size
