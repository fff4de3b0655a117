import LineShell.Machine.Numeral

/-!
The numbers of `awk`, which have 53 binary digits, and the texts that stand for them.
-/

namespace LineShell.Machine.Awk.Number

/-- Binary digits of a number. -/
def bits : Nat := 53

def infinity : Float := 1.0 / 0.0

/-- No number at all. -/
def unclear : Float := 0.0 / 0.0

/-- The nearest number to a quantity. -/
def ofQuantity : Quantity → Float
  | .infinite negative => if negative then -infinity else infinity
  | .unclear _ => unclear
  | .finite negative r =>
      let near := r.toBinary bits
      let last : Int := near.exponent 2 - (bits - 1)
      let whole := near.scale 2 (-last)
      let size := Float.scaleB (Float.ofNat (whole.top / whole.bottom)) last
      if negative then -size else size

/-- What a number is exactly: its digits behind the leading one fill 52 places, and the exponent is
kept with an excess. -/
def toQuantity (x : Float) : Quantity :=
  let code := x.toBits.toNat
  let digits := code % Nat.pow 2 52
  let exponent := code / Nat.pow 2 52 % 2048
  let negative := decide (Nat.pow 2 63 ≤ code)
  if exponent = 2047 then
    if digits = 0 then .infinite negative else .unclear true
  else if exponent = 0 then .finite negative (Ratio.scale ⟨digits, 1⟩ 2 (-1074))
  else .finite negative (Ratio.scale ⟨digits + Nat.pow 2 52, 1⟩ 2 (exponent - 1075))

/-- The number without what stands behind its point, within bounds. -/
def truncate (low high : Int) (x : Float) : Int :=
  match toQuantity x with
  | .infinite negative => if negative then low else high
  | .unclear _ => low
  | .finite negative r =>
      let n : Int := r.top / r.bottom
      max low (min high (if negative then -n else n))

/-- The number, if it is whole. -/
def whole? (x : Float) : Option Int :=
  match toQuantity x with
  | .finite negative r =>
      let n : Int := r.top / r.bottom
      if r.top % r.bottom = 0 then some (if negative then -n else n) else none
  | _ => none

/-- The least whole number that is written with all its digits, and the greatest one. -/
def leastWhole : Int := -9223372036854775808

def greatestWhole : Int := 18446744073709551615

/-- The number that stands at the front of a text, and the text behind it. -/
def read? (text : List Char) : Option (Float × List Char) :=
  (Numeral.real? text).map fun (q, rest) => (ofQuantity q, rest)

/-- The number at the front of a text, or zero. -/
def ofText (text : String) : Float := ((read? text.toList).map (·.1)).getD 0

/-- The number that a text is, between blanks. -/
def like? (text : String) : Option Float :=
  let isBlank (c : Char) : Bool := Class.isBlank c || c = '\n'
  let body := ((text.toList.dropWhile isBlank).reverse.dropWhile isBlank).reverse
  let opens := body.head?.any fun c => c.isDigit || c = '+' || c = '-' || c = '.'
  let closes := body.getLast?.any fun c => c.isDigit || c = '.'
  if opens && closes then
    match read? body with
    | some (x, []) => if x.isInf then none else some x
    | _ => none
  else none

/-- What is left of a number after it was divided as often as goes. -/
def remainder (x y : Float) : Float :=
  match toQuantity x, toQuantity y with
  | .finite negative a, .finite _ b =>
      if b.isZero then unclear
      else
        ofQuantity (.finite negative
          ⟨(a.top * b.bottom) % (b.top * a.bottom), a.bottom * b.bottom⟩)
  | .finite .., .infinite _ => x
  | _, _ => unclear

end LineShell.Machine.Awk.Number
