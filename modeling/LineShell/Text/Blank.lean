/-!
White space: the characters with the property of that name in the Unicode character database.
-/

namespace LineShell

namespace Blank

/-- First and last character of each range. -/
def ranges : List (Nat × Nat) := [
  (0x09, 0x0D), (0x20, 0x20), (0x85, 0x85), (0xA0, 0xA0), (0x1680, 0x1680), (0x2000, 0x200A),
  (0x2028, 0x2029), (0x202F, 0x202F), (0x205F, 0x205F), (0x3000, 0x3000)]

def isBlank (c : Char) : Bool := ranges.any fun (low, high) => low ≤ c.toNat && c.toNat ≤ high

/-- Holds nothing but white space, or nothing at all. -/
def isBlankText (s : String) : Bool := s.toList.all isBlank

def startsBlank (s : String) : Bool := s.toList.head?.any isBlank

end Blank

end LineShell
