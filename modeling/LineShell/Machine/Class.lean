/-!
Classes of characters, each a byte, and the names that patterns have for them.
-/

namespace LineShell.Machine.Class

def isBlank (c : Char) : Bool := c = ' ' || c = '\t'

def isSpace (c : Char) : Bool := isBlank c || (10 ≤ c.toNat && c.toNat ≤ 13)

def isControl (c : Char) : Bool := c.toNat < 32 || c.toNat = 127

def isGraphic (c : Char) : Bool := 32 < c.toNat && c.toNat < 127

def isPrintable (c : Char) : Bool := 32 ≤ c.toNat && c.toNat < 127

def isPunctuation (c : Char) : Bool := isGraphic c && !c.isAlphanum

def isHexDigit (c : Char) : Bool :=
  c.isDigit || ('a' ≤ c && c ≤ 'f') || ('A' ≤ c && c ≤ 'F')

/-- The classes by name. -/
def table : List (String × (Char → Bool)) := [
  ("alnum", Char.isAlphanum), ("alpha", Char.isAlpha), ("blank", isBlank), ("cntrl", isControl),
  ("digit", Char.isDigit), ("graph", isGraphic), ("lower", Char.isLower), ("print", isPrintable),
  ("punct", isPunctuation), ("space", isSpace), ("upper", Char.isUpper), ("xdigit", isHexDigit)]

def named? (name : String) : Option (Char → Bool) := table.lookup name

/-- The value of a digit in a base up to 36. -/
def digit? (base : Nat) (c : Char) : Option Nat :=
  let value :=
    if c.isDigit then c.toNat - '0'.toNat
    else if c.isLower then c.toNat - 'a'.toNat + 10
    else if c.isUpper then c.toNat - 'A'.toNat + 10
    else base
  if value < base then some value else none

/-- The number that some digits make after `value`, and the text after them. At most `limit` digits
are taken. -/
def number (base : Nat) : Nat → Nat → List Char → Nat × List Char
  | 0, value, text => (value, text)
  | _, value, [] => (value, [])
  | limit + 1, value, c :: rest =>
      match digit? base c with
      | some digit => number base limit (value * base + digit) rest
      | none => (value, c :: rest)

end LineShell.Machine.Class
