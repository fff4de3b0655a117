import LineShell.Machine.Awk.Number
import LineShell.Machine.Awk.Table
import LineShell.Machine.Awk.Tree
import LineShell.Machine.Format

/-!
The values of `awk`: numbers, texts, and texts that were read, which are numbers if they look like
numbers. Here is also how values are printed by a format.
-/

namespace LineShell.Machine.Awk

inductive Value where
  /-- The value of what was never assigned to: zero, and an empty text. -/
  | blank
  | number (x : Float)
  | text (s : String)
  /-- A text that was read. -/
  | input (s : String)

namespace Value

def ofBool (b : Bool) : Value := number (if b then 1 else 0)

def ofNat (n : Nat) : Value := number (Float.ofNat n)

def toNumber : Value → Float
  | blank => 0
  | number x => x
  | text s | input s => Number.ofText s

/-- The number that a value is, unless it is only a text. -/
def number? : Value → Option Float
  | blank => some 0
  | number x => some x
  | text _ => none
  | input s => Number.like? s

def isTrue : Value → Bool
  | blank => false
  | number x => x != 0
  | text s => !s.isEmpty
  | input s => match Number.like? s with
    | some x => x != 0
    | none => !s.isEmpty

end Value

/-! ### Formats -/

namespace Format

/-- Why a format cannot be used. -/
inductive Trouble where
  | missing
  /-- The conversion with this number is none. -/
  | improper (number : Nat)
  deriving DecidableEq, Repr

/-- The numbers with this many bits are gone around. -/
def wordSize : Int := 18446744073709551616

/-- The whole number that is printed for a number with a sign, where what is too small has lost the
bit for the sign. -/
def signed (x : Float) : Int :=
  if x.isNaN then Number.leastWhole
  else
    let n := Number.truncate (-wordSize) Number.greatestWhole x
    if n < Number.leastWhole then Number.leastWhole + 1 else n

def unsigned (x : Float) : Nat :=
  if x.isNaN then (-Number.leastWhole).toNat
  else (Number.truncate (-Number.greatestWhole) Number.greatestWhole x % wordSize).toNat

def integerLetters : List Char := ['d', 'i', 'o', 'x', 'X', 'u']

def floatLetters : List Char := ['e', 'E', 'f', 'g', 'G']

/-- The text of a character: the first one of a text, or the one that has a number. -/
def character (v : Value) : String :=
  match v.number? with
  | some x =>
      match v with
      | .blank => "\x00"
      | _ => String.singleton (Char.ofNat ((Number.truncate (-2147483648) 2147483647 x) % 256).toNat)
  | none =>
      match v with
      | .text s | .input s => String.singleton (s.toList.headD '\x00')
      | _ => "\x00"

/-- Prints a value by a directive. -/
def directive? (toText : Value → String) (d : Directive) (letter : Char) (v : Value) :
    Option String :=
  match letter with
  | 'c' => some (d.pad (character v))
  | 's' => some (d.text (toText v))
  | 'd' | 'i' => some (d.signed (signed v.toNumber))
  | letter =>
      if integerLetters.contains letter then some (d.unsigned letter (unsigned v.toNumber))
      else if floatLetters.contains letter then
        some (d.float letter 1 (Number.toQuantity v.toNumber))
      else none

/-- The count that an argument gives. -/
def takeCount (c : Directive.Count) (args : List Value) : Option (Option Int × List Value) :=
  match c, args with
  | .argument, v :: rest => some (some (Number.truncate (-2147483647) 2147483647 v.toNumber), rest)
  | .argument, [] => none
  | _, args => some (none, args)

/-- Prints values by a format. What was printed before a trouble comes with it, last part first. -/
def print (toText : Value → String) :
    Nat → Nat → List Char → List Value → List String → List String × Option Trouble
  | 0, _, _, _, done => (done, none)
  | bound + 1, number, format, args, done =>
      match format with
      | [] => (done, none)
      | '%' :: '%' :: rest => print toText bound number rest args ("%" :: done)
      | '%' :: rest =>
          let (outline, rest) := Directive.readOutline rest
          match takeCount outline.width args with
          | none => (done, some .missing)
          | some (width, args) =>
              match takeCount outline.precision args with
              | none => (done, some .missing)
              | some (precision, args) =>
                  match args with
                  | [] => (done, some .missing)
                  | v :: args =>
                      let sizes := rest.takeWhile fun c => c = 'l' || c = 'h'
                      match rest.drop sizes.length with
                      | [] => (done, some (.improper number))
                      | letter :: rest =>
                          let d := Directive.ofOutline outline width precision
                          let fits := sizes.isEmpty || integerLetters.contains letter
                          match if fits then directive? toText d letter v else none with
                          | some s => print toText bound (number + 1) rest args (s :: done)
                          | none => (done, some (.improper number))
      | format =>
          let plain := format.takeWhile (· != '%')
          print toText bound number (format.drop plain.length) args (String.ofList plain :: done)

/-- A number by a format of one conversion. -/
def number (format : String) (x : Float) : String :=
  let (done, _) := print (fun _ => "") (format.length + 1) 1 format.toList [.number x] []
  String.join done.reverse

end Format

namespace Value

/-- The text of a value. Whole numbers are written with all their digits, and others by a format. -/
def toText (format : String) : Value → String
  | blank => ""
  | text s | input s => s
  | number x =>
      match Number.whole? x with
      | some n =>
          if Number.leastWhole ≤ n && n ≤ Number.greatestWhole + 1 then
            toString (min n Number.greatestWhole)
          else Format.number format x
      | none => Format.number format x

/-- The value as a key of an array. -/
def toKey (format : String) (v : Value) : Key :=
  match v with
  | number x =>
      match Number.whole? x with
      | some n =>
          if Number.leastWhole ≤ n && n ≤ -Number.leastWhole then .number n
          else .text (v.toText format)
      | none => .text (v.toText format)
  | v => .text (v.toText format)

end Value

/-- Compares two values: as numbers if both are numbers, and otherwise as texts. What is no number
at all is equal to every number. -/
def Comparison.holds (format : String) (op : Comparison) (first second : Value) : Bool :=
  let order : Ordering :=
    match first.number?, second.number? with
    | some x, some y => if x < y then .lt else if y < x then .gt else .eq
    | _, _ => compare (first.toText format) (second.toText format)
  match op with
  | .less => order = .lt
  | .lessOrEqual => order != .gt
  | .equal => order = .eq
  | .different => order != .eq
  | .greaterOrEqual => order != .lt
  | .greater => order = .gt

def Operation.apply (op : Operation) (x y : Float) : Float :=
  match op with
  | .add => x + y
  | .subtract => x - y
  | .multiply => x * y
  | .divide => x / y
  | .remainder => Number.remainder x y
  | .power => Float.pow x y

end LineShell.Machine.Awk
