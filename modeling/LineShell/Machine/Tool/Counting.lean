import LineShell.Machine.Numeral
import LineShell.Machine.Stat
import LineShell.Machine.Tool.Copying
import LineShell.Machine.Tool.Printing

/-!
Tools that count: up to a number, or what is in files.
-/

namespace LineShell.Machine.Tool

/-! ### Sequences of numbers -/

/-- A number, as a quotient. -/
structure Fraction where
  top : Int
  /-- Not zero. -/
  bottom : Nat
  deriving DecidableEq, Repr

namespace Fraction

def add (a b : Fraction) : Fraction :=
  if a.bottom = b.bottom then ⟨a.top + b.top, a.bottom⟩
  else ⟨a.top * b.bottom + b.top * a.bottom, a.bottom * b.bottom⟩

def times (a : Fraction) (n : Nat) : Fraction := { a with top := a.top * n }

def isLess (a b : Fraction) : Bool := decide (a.top * b.bottom < b.top * a.bottom)

def toQuantity (a : Fraction) : Quantity := .finite (decide (a.top < 0)) ⟨a.top.natAbs, a.bottom⟩

end Fraction

/-- An operand of `seq`: its value, if it is finite, and how its text is laid out. -/
structure Bound where
  value : Option Fraction
  isNegative : Bool
  width : Int
  /-- The places behind the point, if they are known. -/
  places : Option Int
  deriving DecidableEq, Repr

/-- How the text of a number is laid out: its width and the places behind the point, where an exponent
is taken into account. -/
def layout (text : List Char) : Int × Option Int :=
  let point := text.idxOf? '.'
  let isHex := text.any fun c => c = 'x' || c = 'X'
  let isPower := text.contains 'p'
  if isHex then (0, if point.isNone && !isPower then some 0 else none)
  else
    let e := (text.idxOf? 'e').or (text.idxOf? 'E')
    let stop := e.getD text.length
    let fraction : Nat := (point.map fun p => stop - (p + 1)).getD 0
    let places : Int := fraction
    let width : Int := text.length
    let digitBefore := point.any fun p => 0 < p && (text[p - 1]?).any Char.isDigit
    let width := match point with
      | none => width
      | some _ => if fraction = 0 then width - 1 else if digitBefore then width else width + 1
    match e with
    | none => (width, some places)
    | some e =>
        let (negative, digits) := Numeral.sign (text.drop (e + 1))
        let n : Int := (Class.number 10 digits.length 0 digits).1
        let places' := if negative then places + n else places - min places n
        let width := width - ((text.length - e : Nat) : Int)
        if negative then
          let width := match point with
            | some p => if e = p + 1 then width + 1 else width
            | none => width + 1
          (width + n, some places')
        else
          let width := if point.isSome && places' = 0 && fraction != 0 then width - 1 else width
          (width + (n - min (fraction : Int) n), some places')

/-- Reads an operand of `seq`. -/
def bound (text : String) : Tool Bound := do
  let invalid : Tool Bound := misuse 1 ("invalid floating point argument: " ++ Quoting.plain text)
  let shown := text.toList.dropWhile fun c => Class.isSpace c || c = '+'
  let (width, places) := layout shown
  match Numeral.real? text.toList with
  | some (q, []) =>
      match q with
      | .finite negative r =>
          let top : Int := if negative then -(r.top : Int) else r.top
          return ⟨some ⟨top, r.bottom⟩, negative, width, places⟩
      | .infinite negative => return ⟨none, negative, 0, none⟩
      | .unclear _ => misuse 1 ("invalid 'not-a-number' argument: " ++ Quoting.plain text)
  | _ => invalid

/-- How the numbers of a sequence are printed. -/
structure Pattern where
  lead : String := ""
  letter : Char := 'f'
  directive : Directive := {}
  trail : String := ""

def Pattern.apply (p : Pattern) (q : Quantity) : String :=
  p.lead ++ p.directive.float p.letter Formatter.leadingBits q ++ p.trail

/-- The pattern that fits the operands. -/
def patternFor (equalWidth : Bool) (first step last : Bound) : Pattern :=
  let general : Pattern := { letter := 'g' }
  match first.places, step.places, last.places with
  | some p, some q, some r =>
      let places := max p q
      if equalWidth then
        let firstWidth := first.width + (places - p)
        let lastWidth := last.width + (places - r)
        let lastWidth := if r != 0 && places = 0 then lastWidth - 1 else lastWidth
        let lastWidth := if r = 0 && places != 0 then lastWidth + 1 else lastWidth
        let firstWidth := if p = 0 && places != 0 then firstWidth + 1 else firstWidth
        { directive := {
            zero := true, width := (max firstWidth lastWidth).toNat, precision := some places.toNat } }
      else { directive := { precision := some places.toNat } }
  | _, _, _ => general

/-- Text up to a percent sign that is not doubled, and the text from that on. -/
def plainFormat : List Char → List Char → String × List Char
  | '%' :: '%' :: rest, acc => plainFormat rest ('%' :: acc)
  | '%' :: rest, acc => (String.ofList acc.reverse, '%' :: rest)
  | c :: rest, acc => plainFormat rest (c :: acc)
  | [], acc => (String.ofList acc.reverse, [])

/-- The pattern that a format gives. -/
def patternOf (format : String) : Tool Pattern := do
  let (lead, rest) := plainFormat format.toList []
  match rest with
  | [] => fail 1 ("format " ++ Quoting.plain format ++ " has no % directive")
  | _ :: rest =>
      let (outline, rest) := Directive.readOutline (rest.filter (· != '\''))
      let rest := if rest.head? = some 'L' then rest.drop 1 else rest
      match rest with
      | [] => fail 1 ("format " ++ Quoting.plain format ++ " ends in %")
      | letter :: after =>
          if !"efgaEFGA".toList.contains letter then
            fail 1 ("format " ++ Quoting.plain format ++ " has unknown %" ++
              String.singleton letter ++ " directive")
          let (trail, more) := plainFormat after []
          if !more.isEmpty then
            fail 1 ("format " ++ Quoting.plain format ++ " has too many % directives")
          return {
            lead := lead, letter := letter, directive := Directive.ofOutline outline none none
            trail := trail }

/-- Prints the numbers from the `i`th on, each but the first behind the separator. -/
def printFrom (p : Pattern) (separator : String) (first step : Fraction) (last : Option Fraction)
    (down : Bool) : Nat → Nat → Tool Nat
  | 0, i => return i
  | bound + 1, i => do
      let x := first.add (step.times i)
      let isOver := last.any fun last => if down then x.isLess last else last.isLess x
      if isOver then return i
      putText ((if i = 0 then "" else separator) ++ p.apply x.toQuantity)
      printFrom p separator first step last down bound (i + 1)

/-- The arguments of `seq`, where a negative number is no option. -/
def seqArguments : List String → List String
  | [] => []
  | arg :: rest =>
      match arg.toList with
      | '-' :: c :: more =>
          if c = '.' || c.isDigit then "--" :: arg :: rest
          else if more.isEmpty && (c = 'f' || c = 's') then
            arg :: rest.take 1 ++ seqArguments (rest.drop 1)
          else if arg = "--" then arg :: rest
          else arg :: seqArguments rest
      | _ => arg :: rest
termination_by args => args.length
decreasing_by all_goals simp_wf; try omega

def seq : Tool Unit := do
  let o ← optionsOf 1 "+f:s:w" "equal-width=w format:=f separator:=s"
    (seqArguments (← read).arguments)
  match o.operands with
  | [] => misuse 1 "missing operand"
  | _ :: _ :: _ :: extra :: _ => misuse 1 ("extra operand " ++ Quoting.plain extra)
  | operands =>
      let given ← match o.value? "f" with
        | some format => do
            let pattern ← patternOf format
            pure (some pattern)
        | none => pure none
      if given.isSome && o.isSet "w" then
        misuse 1 "format string may not be specified when printing equal width strings"
      let one : Bound := ⟨some ⟨1, 1⟩, false, 1, some 0⟩
      let texts := match operands with
        | [last] => ("1", "1", last)
        | [first, last] => (first, "1", last)
        | [first, step, last] => (first, step, last)
        | _ => ("1", "1", "1")
      let first ← bound texts.1
      let step ← if operands.length = 3 then bound texts.2.1 else pure one
      if step.value.any (·.top = 0) then
        misuse 1 ("invalid Zero increment value: " ++ Quoting.plain texts.2.1)
      let last ← bound texts.2.2
      let pattern := given.getD (patternFor (o.isSet "w") first step last)
      let separator := (o.value? "s").getD "\n"
      match first.value, step.value with
      | some f, some s => do
          let down := decide (s.top < 0)
          let isEmpty := last.value.isNone && last.isNegative != down
          if isEmpty then return ()
          let count ← printFrom pattern separator f s last.value down patience 0
          if count != 0 then putText "\n"
      | _, _ => return ()

/-! ### What is in files -/

/-- What `wc` counts. -/
structure Tally where
  lines : Nat := 0
  words : Nat := 0
  bytes : Nat := 0
  /-- The width of the widest line. -/
  widest : Nat := 0

namespace Tally

def isSpace (b : UInt8) : Bool := b = 32 || (9 ≤ b && b ≤ 13)

def isVisible (b : UInt8) : Bool := 33 ≤ b && b ≤ 126

/-- How far the counting has come: what was counted, the place in the line, and whether a word has
begun. -/
structure Progress where
  tally : Tally := {}
  place : Nat := 0
  inWord : Bool := false

/-- Words lie between white space and hold something visible. -/
def step (p : Progress) (b : UInt8) : Progress :=
  let t := { p.tally with bytes := p.tally.bytes + 1, widest := max p.tally.widest p.place }
  if isSpace b then
    let place := if b = 9 then (p.place / 8 + 1) * 8 else if b = 32 then p.place + 1
      else if b = 11 then p.place else 0
    let t := { t with widest := max t.widest (if b = 9 || b = 32 then place else t.widest) }
    { tally := if b = 10 then { t with lines := t.lines + 1 } else t, place := place }
  else if isVisible b then
    { tally := if p.inWord then t else { t with words := t.words + 1 }
      place := p.place + 1, inWord := true }
  else { p with tally := t }

def finish (p : Progress) : Tally := { p.tally with widest := max p.tally.widest p.place }

def add (a b : Tally) : Tally :=
  ⟨a.lines + b.lines, a.words + b.words, a.bytes + b.bytes, max a.widest b.widest⟩

end Tally

/-- Counts what comes, as far as it can be read. -/
def tallyOf (d : Descriptor) : Nat → Tally.Progress → Tool (Tally × Option Errno)
  | 0, p => return (Tally.finish p, none)
  | bound + 1, p => do
      match ← block d with
      | .error e => return (Tally.finish p, some e)
      | .ok bytes =>
          if bytes.isEmpty then return (Tally.finish p, none)
          tallyOf d bound (bytes.foldl Tally.step p)

def defaultCountWidth : Nat := 7

/-- The width of the numbers of `wc`: that of the total size, if all of it is known. -/
def countWidth (columns : Nat) (stats : List (Except Errno Stat)) : Nat :=
  if columns = 1 && stats.length ≤ 1 then 1
  else
    let known := stats.filterMap Except.toOption
    let total := (known.filter fun s => s.kind = .regular).foldl (fun n s => n + s.size) 0
    let width := (toString total).length
    if known.all (·.kind = .regular) then width else max defaultCountWidth width

/-- Names that are given one after another with a zero behind each. -/
def namesIn (bytes : Bytes) : List String :=
  (linesOf 0 bytes).map Raw.ofBytes

def wc : Tool Unit := do
  let o ← options 1 "clLmw"
    "bytes=c chars=m lines=l words=w debug files0-from:=F max-line-length=L total:=T"
  let shows (key : String) : Bool := o.isSet key
  let all := ! ["l", "w", "c", "m", "L"].any shows
  let columns (t : Tally) : List Nat :=
    (if all || shows "l" then [t.lines] else []) ++ (if all || shows "w" then [t.words] else []) ++
      (if shows "m" then [t.bytes] else []) ++ (if all || shows "c" then [t.bytes] else []) ++
      (if shows "L" then [t.widest] else [])
  let listed ← match o.value? "F" with
    | none => pure none
    | some source => do
        match o.operands with
        | [] => pure ()
        | extra :: _ =>
            say ((← read).name ++ ": extra operand " ++ Quoting.plain extra ++
              "\nfile operands cannot be combined with --files0-from\n")
            hint 1
        withInput source
          (fun e => fail 1 ("cannot open " ++ Quoting.always source ++ " for reading: " ++ e.sentence))
          fun d => do
            match ← everything d with
            | .ok bytes => return some (namesIn bytes)
            | .error e => fail 1 (Quoting.ifNeeded source ++ ": read error: " ++ e.sentence)
  let totals := (o.value? "T").getD "auto"
  if ! ["auto", "always", "only", "never"].contains totals then
    say ((← read).name ++ ": invalid argument " ++ Quoting.plain totals ++
      " for '--total'\nValid arguments are:\n  - 'auto'\n  - 'always'\n  - 'only'\n  - 'never'\n")
    hint 1
  let names := listed.getD o.operands
  let isBare := names.isEmpty && listed.isNone
  let operands := if isBare then ["-"] else names
  let stats ← operands.mapM fun operand =>
    instant (if operand = "-" then Stat.ofDescriptor Descriptor.input else Stat.ofPath true operand)
  let width := if totals = "only" then 1 else countWidth (columns {}).length stats
  let row (t : Tally) (label : String) : String :=
    " ".intercalate ((columns t).map fun n => padLeft width (toString n)) ++ label ++ "\n"
  let rec go : List String → Tally → Tool Tally
    | [], t => return t
    | operand :: rest, t => do
        let label := if operand = "-" && isBare then "" else " " ++ Quoting.ifNeeded operand
        let next ← withInput operand
          (fun e => do
            complain (named (Quoting.ifNeeded operand) e)
            return {})
          fun d => do
            let (tally, failure) ← tallyOf d patience {}
            if let some e := failure then complain (named (Quoting.ifNeeded operand) e)
            if totals != "only" then putText (row tally label)
            return tally
        go rest (t.add next)
  let total ← go operands {}
  let showsTotal : Bool := match totals with
    | "auto" => decide (1 < operands.length)
    | "never" => false
    | _ => true
  if showsTotal then putText (row total (if totals = "only" then "" else " total"))

end LineShell.Machine.Tool
