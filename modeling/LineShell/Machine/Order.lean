import LineShell.Machine.Numeral

/-!
Orders of texts: as bytes, or by the numbers, months or versions that stand in them.
-/

namespace LineShell.Machine.Order

/-- The order of texts by their bytes. -/
def bytes : List Char → List Char → Ordering
  | [], [] => .eq
  | [], _ :: _ => .lt
  | _ :: _, [] => .gt
  | a :: as, b :: bs => if a = b then bytes as bs else compare a b

/-! ### Numbers -/

/-- A decimal number at the front of a text, as a whole number and the places behind its point. -/
def decimal (text : List Char) : Int × Nat :=
  let text := text.dropWhile Class.isBlank
  let (negative, text) := match text with
    | '-' :: rest => (true, rest)
    | rest => (false, rest)
  let whole := text.takeWhile Char.isDigit
  let part := match text.drop whole.length with
    | '.' :: rest => rest.takeWhile Char.isDigit
    | _ => []
  let all := whole ++ part
  let n : Int := (Class.number 10 all.length 0 all).1
  (if negative then -n else n, part.length)

def numeric (a b : List Char) : Ordering :=
  let (m, i) := decimal a
  let (n, j) := decimal b
  compare (m * (Nat.pow 10 j : Nat)) (n * (Nat.pow 10 i : Nat))

/-- The rank of a number with a unit behind it, which counts before its digits. -/
def unitRank (text : List Char) : Int :=
  let text := text.dropWhile Class.isBlank
  let (negative, text) := match text with
    | '-' :: rest => (true, rest)
    | rest => (false, rest)
  let digits := text.takeWhile Char.isDigit
  let rest := text.drop digits.length
  let (part, rest) := match rest with
    | '.' :: rest => (rest.takeWhile Char.isDigit, rest.dropWhile Char.isDigit)
    | rest => ([], rest)
  let isZero := (digits ++ part).all (· = '0')
  let rank : Int := match rest with
    | [] => 0
    | c :: _ =>
        if c = 'k' then 1
        else (['K', 'M', 'G', 'T', 'P', 'E', 'Z', 'Y', 'R', 'Q'].idxOf? c).elim 0 fun i => (i : Int) + 1
  if isZero then 0 else if negative then -rank else rank

def withUnits (a b : List Char) : Ordering :=
  (compare (unitRank a) (unitRank b)).then (numeric a b)

/-- Texts without a number come first, then what is no number, and then numbers. -/
def general (a b : List Char) : Ordering :=
  let rank : Option (Quantity × List Char) → Nat × Int × Nat
    | none => (0, 0, 1)
    | some (.unclear _, _) => (1, 0, 1)
    | some (.infinite negative, _) => if negative then (2, 0, 1) else (4, 0, 1)
    | some (.finite negative r, _) => (3, if negative then -(r.top : Int) else r.top, r.bottom)
  let (i, m, p) := rank (Numeral.real? a)
  let (j, n, q) := rank (Numeral.real? b)
  (compare i j).then (compare (m * (q : Int)) (n * (p : Int)))

def months : List String :=
  ["JAN", "FEB", "MAR", "APR", "MAY", "JUN", "JUL", "AUG", "SEP", "OCT", "NOV", "DEC"]

def month (a b : List Char) : Ordering :=
  let rank (text : List Char) : Nat :=
    let name := String.ofList (((text.dropWhile Class.isBlank).take 3).map Char.toUpper)
    ((months.idxOf? name).map (· + 1)).getD 0
  compare (rank a) (rank b)

/-! ### Versions -/

/-- The rank of the character at the front of a part that is no number. -/
def versionRank : List Char → Int
  | [] => -1
  | c :: _ =>
      if c.isDigit then 0
      else if c.isAlpha then c.toNat
      else if c = '~' then -2
      else c.toNat + 256

/-- Compares up to the next numbers. -/
def versionTexts : Nat → List Char → List Char → Ordering × List Char × List Char
  | 0, a, b => (.eq, a, b)
  | bound + 1, a, b =>
      let isText (t : List Char) : Bool := t.head?.any (!·.isDigit)
      if isText a || isText b then
        match compare (versionRank a) (versionRank b) with
        | .eq => versionTexts bound (a.drop 1) (b.drop 1)
        | o => (o, a, b)
      else (.eq, a, b)

def versionParts : Nat → List Char → List Char → Ordering
  | 0, _, _ => .eq
  | bound + 1, a, b =>
      if a.isEmpty && b.isEmpty then .eq
      else match versionTexts (a.length + b.length) a b with
        | (.eq, a, b) =>
            let a := a.dropWhile (· = '0')
            let b := b.dropWhile (· = '0')
            let m := a.takeWhile Char.isDigit
            let n := b.takeWhile Char.isDigit
            ((compare m.length n.length).then (bytes m n)).then
              (versionParts bound (a.drop m.length) (b.drop n.length))
        | (o, _, _) => o

/-- Drops one ending such as `.txt`, given and returned in reverse. -/
def dropEnding (reversed : List Char) : Option (List Char) :=
  let ending := reversed.takeWhile fun c => c.isAlphanum || c = '~'
  match reversed.drop ending.length with
  | '.' :: rest =>
      if ending.getLast?.any (fun c => c.isAlpha || c = '~') && !rest.isEmpty then some rest else none
  | _ => none

/-- What is left of a name without its endings. -/
def stem : Nat → List Char → List Char
  | 0, reversed => reversed
  | bound + 1, reversed => match dropEnding reversed with
      | some rest => stem bound rest
      | none => reversed

def version (a b : List Char) : Ordering :=
  let rank (t : List Char) : Nat :=
    if t.isEmpty then 0 else if t = ['.'] then 1 else if t = ['.', '.'] then 2
    else if t.head? = some '.' then 3 else 4
  let stemOf (t : List Char) : List Char := (stem t.length t.reverse).reverse
  let bound := a.length + b.length + 1
  ((compare (rank a) (rank b)).then (versionParts bound (stemOf a) (stemOf b))).then
    (versionParts bound a b)

end LineShell.Machine.Order
