/-!
Signed decimal numerals in 64 bits: an optional single sign and then one or more digits `0` to `9`,
denoting a number from `-2^63` up to but not including `2^63`.
-/

namespace LineShell

namespace Numeral

def digit? (c : Char) : Option Nat := if c.isDigit then some (c.toNat - '0'.toNat) else none

/-- The number that digits denote after `value`. -/
def natural? (value : Nat) : List Char → Option Nat
  | [] => some value
  | c :: rest => (digit? c).bind fun d => natural? (value * 10 + d) rest

/-- The number that a non-empty run of digits denotes. -/
def digits? : List Char → Option Nat
  | [] => none
  | cs => natural? 0 cs

/-- The number a numeral denotes, whatever its size. -/
def integer? : List Char → Option Int
  | '-' :: rest => (digits? rest).map fun n => -(n : Int)
  | '+' :: rest => (digits? rest).map fun n => (n : Int)
  | cs => (digits? cs).map fun n => (n : Int)

/-- The number `2^63`. -/
def limit : Int := 9223372036854775808

def fits (n : Int) : Bool := -limit ≤ n ∧ n < limit

/-- Reads a numeral whose number fits into 64 bits. -/
def signed64? (s : String) : Option Int := (integer? s.toList).filter fits

end Numeral

end LineShell
