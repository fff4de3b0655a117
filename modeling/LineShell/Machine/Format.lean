import LineShell.Machine.Class
import LineShell.Machine.Decimal

/-!
Directives that say how a value is printed: after a percent sign, flags, a width, a precision and a
letter.
-/

namespace LineShell.Machine

structure Directive where
  left : Bool := false
  plus : Bool := false
  blank : Bool := false
  alternate : Bool := false
  zero : Bool := false
  width : Nat := 0
  precision : Option Nat := none
  deriving DecidableEq, Repr

/-- A number that may be none. -/
inductive Quantity where
  | finite (negative : Bool) (r : Ratio)
  | infinite (negative : Bool)
  | unclear (negative : Bool)
  deriving DecidableEq, Repr

namespace Directive

/-- A count in a directive: digits, or the next argument. -/
inductive Count where
  | absent
  | given (n : Nat)
  | argument
  deriving DecidableEq, Repr

/-- What stands between a percent sign and the letter. -/
structure Outline where
  flags : Directive := {}
  width : Count := .absent
  precision : Count := .absent
  deriving DecidableEq, Repr

def readFlags : List Char → Directive → Directive × List Char
  | '-' :: rest, d => readFlags rest { d with left := true }
  | '+' :: rest, d => readFlags rest { d with plus := true }
  | ' ' :: rest, d => readFlags rest { d with blank := true }
  | '#' :: rest, d => readFlags rest { d with alternate := true }
  | '0' :: rest, d => readFlags rest { d with zero := true }
  | rest, d => (d, rest)

def readCount (text : List Char) : Count × List Char :=
  match text with
  | '*' :: rest => (.argument, rest)
  | text =>
      let run := text.takeWhile Char.isDigit
      if run.isEmpty then (.absent, text)
      else (.given (Class.number 10 run.length 0 run).1, text.drop run.length)

/-- Reads what stands between a percent sign and the letter. -/
def readOutline (text : List Char) : Outline × List Char :=
  let (flags, rest) := readFlags text {}
  let (width, rest) := readCount rest
  match rest with
  | '.' :: rest =>
      let (precision, rest) := readCount rest
      (⟨flags, width, if precision = .absent then .given 0 else precision⟩, rest)
  | rest => (⟨flags, width, .absent⟩, rest)

/-- The directive that an outline becomes with the counts that are arguments. -/
def ofOutline (o : Outline) (width precision : Option Int) : Directive :=
  let d := o.flags
  let d := match o.width, width with
    | .given n, _ => { d with width := n }
    | .argument, some n => { d with left := d.left || decide (n < 0), width := n.natAbs }
    | _, _ => d
  match o.precision, precision with
  | .given n, _ => { d with precision := some n }
  | .argument, some n => { d with precision := if n < 0 then none else some n.toNat }
  | _, _ => d

def spaces (n : Nat) : String := String.ofList (List.replicate n ' ')

/-- Fills a text up to the width. -/
def pad (d : Directive) (text : String) : String :=
  let fill := spaces (d.width - text.length)
  if d.left then text ++ fill else fill ++ text

/-- Fills a number up to the width, with zeros behind its sign if these may stand there. -/
def padNumber (d : Directive) (zeros : Bool) (sign body : String) : String :=
  if d.zero && !d.left && zeros then
    let missing := d.width - (sign.length + body.length)
    sign ++ String.ofList (List.replicate missing '0') ++ body
  else d.pad (sign ++ body)

def text (d : Directive) (s : String) : String :=
  d.pad (match d.precision with
    | some n => (s.take n).copy
    | none => s)

def signOf (d : Directive) (negative : Bool) : String :=
  if negative then "-" else if d.plus then "+" else if d.blank then " " else ""

def digitsIn (base : Nat) (upper : Bool) (n : Nat) : String :=
  let text := String.ofList (Nat.toDigits base n)
  if upper then text.toUpper else text

def least (d : Directive) (text : String) (n : Nat) : String :=
  if d.precision = some 0 && n = 0 then ""
  else String.ofList (List.replicate (d.precision.getD 1 - text.length) '0') ++ text

def signed (d : Directive) (n : Int) : String :=
  d.padNumber d.precision.isNone (d.signOf (decide (n < 0)))
    (d.least (toString n.natAbs) n.natAbs)

def unsigned (d : Directive) (letter : Char) (n : Nat) : String :=
  match letter with
  | 'o' =>
      let body := d.least (digitsIn 8 false n) n
      let body := if d.alternate && !body.startsWith "0" then "0" ++ body else body
      d.padNumber d.precision.isNone "" body
  | 'x' | 'X' =>
      let upper := letter = 'X'
      let mark := if d.alternate && n != 0 then (if upper then "0X" else "0x") else ""
      d.padNumber d.precision.isNone mark (d.least (digitsIn 16 upper n) n)
  | _ => d.padNumber d.precision.isNone "" (d.least (toString n) n)

/-- A number with sixteen as its base: one digit, as many more as it takes or the precision says, and
a power of two. `bits` says how many binary digits the first one holds. -/
def hexFloat (d : Directive) (bits : Nat) (r : Ratio) : String :=
  let e := if r.isZero then 0 else r.exponent 2
  let shift : Int := (bits : Int) - 1
  let s := r.scale 2 (shift - e)
  let all := match d.precision with
    | some p =>
        let t := Ratio.scale s 16 p
        (Ratio.roundDiv t.top t.bottom, p)
    | none => (Ratio.roundDiv (s.top * Ratio.power 16 15) s.bottom, 15)
  let text := digitsIn 16 false all.1
  let text := String.ofList (List.replicate (all.2 + 1 - text.length) '0') ++ text
  let whole := text.toList.take (text.length - all.2)
  let part := text.toList.drop (text.length - all.2)
  let part :=
    if d.precision.isNone then (part.reverse.dropWhile (· = '0')).reverse else part
  let e := if r.isZero then 0 else e - shift
  "0x" ++ String.ofList whole ++ (if part.isEmpty && !d.alternate then "" else ".") ++
    String.ofList part ++ "p" ++ (if e < 0 then "-" else "+") ++ toString e.natAbs

def defaultPlaces : Nat := 6

def float (d : Directive) (letter : Char) (bits : Nat) (q : Quantity) : String :=
  let upper (text : String) : String := if letter.isUpper then text.toUpper else text
  match q with
  | .infinite negative => upper (d.padNumber false (d.signOf negative) "inf")
  | .unclear negative => upper (d.padNumber false (d.signOf negative) "nan")
  | .finite negative r =>
      let places := d.precision.getD defaultPlaces
      let body := match letter.toLower with
        | 'f' => Decimal.fixed r places d.alternate
        | 'e' => Decimal.scientific r places d.alternate "e"
        | 'a' => d.hexFloat bits r
        | _ => Decimal.general r places d.alternate "e"
      if letter.toLower = 'a' then
        upper (d.padNumber true (d.signOf negative ++ "0x") ((body.drop 2).copy))
      else upper (d.padNumber true (d.signOf negative) body)

end Directive

end LineShell.Machine
