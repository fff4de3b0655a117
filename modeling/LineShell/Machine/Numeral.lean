import LineShell.Machine.Format

/-!
Numbers at the front of a text, after white space and a sign.
-/

namespace LineShell.Machine.Numeral

/-- The sign at the front: whether it is a minus, and what follows. -/
def sign (text : List Char) : Bool × List Char :=
  match text with
  | '-' :: rest => (true, rest)
  | '+' :: rest => (false, rest)
  | rest => (false, rest)

/-- A whole number without a sign, in the base that its first characters tell. -/
def natural? (text : List Char) : Option (Nat × List Char) :=
  let hex := match text with
    | '0' :: x :: c :: rest =>
        if (x = 'x' || x = 'X') && Class.isHexDigit c then some (c :: rest) else none
    | _ => none
  match hex, text with
  | some digits, _ => some (Class.number 16 digits.length 0 digits)
  | none, '0' :: _ => some (Class.number 8 text.length 0 text)
  | none, c :: _ => if c.isDigit then some (Class.number 10 text.length 0 text) else none
  | none, [] => none

/-- A whole number, and the text after it. -/
def integer? (text : List Char) : Option (Int × List Char) :=
  let (negative, digits) := sign (text.dropWhile Class.isSpace)
  (natural? digits).map fun (n, rest) => (if negative then -(n : Int) else n, rest)

/-- A whole number in the base ten, and the text after it. -/
def decimal? (text : List Char) : Option (Int × List Char) :=
  let (negative, digits) := sign (text.dropWhile Class.isSpace)
  if digits.head?.any Char.isDigit then
    let (n, rest) := Class.number 10 digits.length 0 digits
    some (if negative then -(n : Int) else n, rest)
  else none

/-- The digits at the front with a point among them: their number without the point, how many stand
behind it, and the rest. -/
def mantissa? (base : Nat) (text : List Char) : Option (Nat × Nat × List Char) :=
  let isDigit (c : Char) : Bool := (Class.digit? base c).isSome
  let whole := text.takeWhile isDigit
  let rest := text.drop whole.length
  let (part, rest) := match rest with
    | '.' :: more =>
        let part := more.takeWhile isDigit
        if whole.isEmpty && part.isEmpty then ([], rest) else (part, more.drop part.length)
    | rest => ([], rest)
  if whole.isEmpty && part.isEmpty then none
  else some ((Class.number base (whole.length + part.length) 0 (whole ++ part)).1, part.length, rest)

/-- An exponent behind its mark, if it is whole. -/
def exponent (marks : List Char) (text : List Char) : Int × List Char :=
  match text with
  | mark :: rest =>
      if marks.contains mark then
        let (negative, digits) := sign rest
        if digits.head?.any Char.isDigit then
          let (n, after) := Class.number 10 digits.length 0 digits
          (if negative then -(n : Int) else n, after)
        else (0, text)
      else (0, text)
  | [] => (0, [])

/-- Exponents beyond this make no more difference. -/
def farExponent : Int := 20000

def startsWithFold (word : String) (text : List Char) : Bool :=
  word.toList.isPrefixOf (text.map Char.toLower)

/-- A number with a point or an exponent, and the text after it. -/
def real? (text : List Char) : Option (Quantity × List Char) :=
  let (negative, body) := sign (text.dropWhile Class.isSpace)
  if startsWithFold "infinity" body then some (.infinite negative, body.drop 8)
  else if startsWithFold "inf" body then some (.infinite negative, body.drop 3)
  else if startsWithFold "nan" body then some (.unclear negative, body.drop 3)
  else
    let limit (e : Int) : Int := max (-farExponent) (min farExponent e)
    let hex := match body with
      | '0' :: x :: rest =>
          if x = 'x' || x = 'X' then mantissa? 16 rest else none
      | _ => none
    match hex with
    | some (n, places, rest) =>
        let (e, rest) := exponent ['p', 'P'] rest
        some (.finite negative (Ratio.scale ⟨n, 1⟩ 2 (limit e - 4 * places)), rest)
    | none =>
        (mantissa? 10 body).map fun (n, places, rest) =>
          let (e, rest) := exponent ['e', 'E'] rest
          (.finite negative (Ratio.scale ⟨n, 1⟩ 10 (limit e - places)), rest)

/-- A quantity with at most so many binary digits. -/
def round (bits : Nat) : Quantity → Quantity
  | .finite negative r => .finite negative (r.toBinary bits)
  | q => q

end LineShell.Machine.Numeral
