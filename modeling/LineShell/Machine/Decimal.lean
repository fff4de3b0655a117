/-!
Numbers written with decimal digits. A number that is not negative is given as a quotient of two whole
numbers; its digits are exact, and a half goes to the even neighbour.
-/

namespace LineShell.Machine

/-- A number that is not negative, as a quotient. -/
structure Ratio where
  top : Nat
  /-- Not zero. -/
  bottom : Nat := 1
  deriving DecidableEq, Repr

namespace Ratio

def isZero (r : Ratio) : Bool := r.top = 0

/-- The whole number nearest to a quotient. -/
def roundDiv (top bottom : Nat) : Nat :=
  let q := top / bottom
  let twice := 2 * (top % bottom)
  if twice < bottom then q
  else if bottom < twice then q + 1
  else q + q % 2

def power (base exponent : Nat) : Nat := Nat.pow base exponent

/-- A number times a power, which may have a negative exponent. -/
def scale (r : Ratio) (base : Nat) (exponent : Int) : Ratio :=
  if 0 ≤ exponent then { r with top := r.top * power base exponent.toNat }
  else { r with bottom := r.bottom * power base (-exponent).toNat }

/-- The exponent of the leading digit in a base, which for zero is zero. -/
def exponent (r : Ratio) (base : Nat) : Int :=
  if r.top = 0 then 0
  else
    let guess : Int := (Nat.log2 r.top : Int) - Nat.log2 r.bottom
    let guess : Int :=
      if base = 2 then guess else Int.fdiv (guess * 30103) 100000
    let isAtLeast (e : Int) : Bool :=
      let s := r.scale base (-e)
      decide (s.bottom ≤ s.top)
    let candidates : List Int := [guess + 2, guess + 1, guess, guess - 1, guess - 2]
    (candidates.find? isAtLeast).getD (guess - 3)

/-- The nearest number whose binary digits are at most `bits`. -/
def toBinary (bits : Nat) (r : Ratio) : Ratio :=
  if r.top = 0 then ⟨0, 1⟩
  else
    let shift : Int := (bits : Int) - 1 - r.exponent 2
    let s := r.scale 2 shift
    Ratio.scale ⟨roundDiv s.top s.bottom, 1⟩ 2 (-shift)

def add (a b : Ratio) : Ratio :=
  if a.bottom = b.bottom then ⟨a.top + b.top, a.bottom⟩
  else ⟨a.top * b.bottom + b.top * a.bottom, a.bottom * b.bottom⟩

def le (a b : Ratio) : Bool := decide (a.top * b.bottom ≤ b.top * a.bottom)

end Ratio

namespace Decimal

/-- The digits of a whole number, at least so many. -/
def digits (n least : Nat) : String :=
  let text := toString n
  String.ofList (List.replicate (least - text.length) '0') ++ text

/-- Puts a point before the last digits. -/
def withPoint (text : String) (places : Nat) (showsPoint : Bool) : String :=
  let cs := text.toList
  let whole := cs.take (cs.length - places)
  let part := cs.drop (cs.length - places)
  String.ofList whole ++ (if places = 0 && !showsPoint then "" else ".") ++ String.ofList part

/-- A number with so many places behind the point. -/
def fixed (r : Ratio) (places : Nat) (showsPoint : Bool) : String :=
  let n := Ratio.roundDiv (r.top * Ratio.power 10 places) r.bottom
  withPoint (digits n (places + 1)) places showsPoint

/-- The leading digits of a number, `places + 1` of them, and the exponent of the first. -/
def leading (r : Ratio) (places : Nat) : Nat × Int :=
  let e := r.exponent 10
  let s := r.scale 10 ((places : Int) - e)
  let n := Ratio.roundDiv s.top s.bottom
  if Ratio.power 10 (places + 1) ≤ n then (n / 10, e + 1) else (n, e)

def exponentText (mark : String) (e : Int) : String :=
  mark ++ (if e < 0 then "-" else "+") ++ digits e.natAbs 2

/-- A number as digits times a power of ten. -/
def scientific (r : Ratio) (places : Nat) (showsPoint : Bool) (mark : String) : String :=
  let (n, e) := leading r places
  withPoint (digits n (places + 1)) places showsPoint ++ exponentText mark e

/-- Drops zeros at the end behind the point, and the point if nothing is left there. -/
def dropZeros (text : String) : String :=
  if !text.contains '.' then text
  else
    let rest := text.toList.reverse.dropWhile (· = '0')
    String.ofList (match rest with
      | '.' :: rest => rest.reverse
      | rest => rest.reverse)

/-- A number with so many digits that count, in whichever form is shorter. -/
def general (r : Ratio) (precision : Nat) (alternate : Bool) (mark : String) : String :=
  let precision := max precision 1
  let (n, e) := leading r (precision - 1)
  let tidy (text : String) : String := if alternate then text else dropZeros text
  if -4 ≤ e && e < precision then
    tidy (fixed r ((precision : Int) - 1 - e).toNat alternate)
  else
    tidy (withPoint (digits n precision) (precision - 1) alternate) ++ exponentText mark e

end Decimal

end LineShell.Machine
