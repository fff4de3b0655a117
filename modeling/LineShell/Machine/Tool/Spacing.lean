import LineShell.Machine.TabStops
import LineShell.Machine.Tool.Copying

/-!
Tools that put blanks in the place of tabs and the other way round, and that break lines which are
too long.
-/

namespace LineShell.Machine.Tool

/-- Hands the bytes of all operands to `f` as a whole line or a part of one. The state begins anew
with each line, but a file may begin in the middle of one. -/
def overLines {σ : Type} (start : σ) (f : σ → Bytes → Bytes × σ) :
    List String → σ → Tool σ
  | [], s => return s
  | operand :: rest, s => do
      let s ← withInput operand
        (fun e => do
          complain (named (Quoting.ifNeeded operand) e)
          return s)
        fun d => do
          let (s, failure) ← foldLines d 10 (fun whole s line => do
            let (out, next) := f s (if whole then line ++ [10] else line)
            put out
            return .more (if whole then start else next)) patience [] s
          if let some e := failure then complain (named (Quoting.ifNeeded operand) e)
          return s
      overLines start f rest s

/-- Reads the stops that options tell of. -/
def readStops (texts : List String) : Tool TabStops := do
  let stops ← texts.foldlM (fun (t : TabStops) text => do
    match t.read text with
    | .ok t => return t
    | .error faults => do
        forEach faults warn
        exit 1) {}
  if let some wrong := stops.wrong? then fail 1 wrong
  return stops

def isBlankByte (b : UInt8) : Bool := b = 32 || b = 9

/-! ### Blanks for tabs -/

/-- Where in a line `expand` has come. -/
structure Column where
  column : Nat := 0
  /-- Tabs still give way to blanks. -/
  converts : Bool := true

def expandByte (t : TabStops) (initialOnly : Bool) (s : Column) (b : UInt8) : Bytes × Column :=
  if !s.converts then ([b], s)
  else
    let s' := { s with converts := !initialOnly || isBlankByte b }
    if b = 9 then
      let next := (t.next? s.column).getD (s.column + 1)
      (List.replicate (next - s.column) 32, { s' with column := next })
    else if b = 8 then ([b], { s' with column := s.column - 1 })
    else ([b], { s' with column := s.column + 1 })

/-- Handles the bytes of a part one after another. -/
def byBytes {σ : Type} (f : σ → UInt8 → Bytes × σ) (s : σ) (bytes : Bytes) : Bytes × σ :=
  let (parts, s) := bytes.foldl (fun ((parts, s) : List Bytes × σ) b =>
    let (out, s) := f s b
    (out :: parts, s)) ([], s)
  (parts.reverse.flatten, s)

/-- The texts of stops, given by an option or spelled as options themselves. -/
def stopTexts (o : Options) : List String :=
  o.given.filterMap fun (key, value) =>
    if key = "t" then some value
    else if isDigitKey key then some (key ++ value)
    else none

def expand : Tool Unit := do
  let o ← options 1 "it:0::1::2::3::4::5::6::7::8::9::" "tabs:=t initial=i"
  let stops ← readStops (stopTexts o)
  let _ ← overLines {} (byBytes (expandByte stops (o.isSet "i"))) (orInput o.operands) {}

/-! ### Tabs for blanks -/

/-- Where in a line `unexpand` has come. -/
structure Gathered where
  column : Nat := 0
  converts : Bool := true
  /-- The blanks that may yet give way to a tab. -/
  pending : Bytes := []
  /-- The first of them stands right before a stop. -/
  reached : Bool := false
  afterBlank : Bool := true

namespace Gathered

/-- The pending blanks as they are to be printed. -/
def printed (g : Gathered) : Bytes :=
  match g.pending with
  | _ :: rest@(_ :: _) => if g.reached then 9 :: rest else g.pending
  | pending => pending

/-- Prints what is pending and a byte. -/
def release (g : Gathered) (b : UInt8) : Bytes × Gathered :=
  (g.printed ++ [b], { g with pending := [], reached := false })

/-- A tab takes the place of what is pending, but for a blank right before a stop. -/
def replaced (g : Gathered) : Gathered :=
  { g with pending := if g.reached then [9] else [] }

def step (t : TabStops) (all : Bool) (g : Gathered) (b : UInt8) : Bytes × Gathered :=
  if !g.converts then ([b], g)
  else if isBlankByte b then
    match t.next? g.column with
    | none => ({ g with converts := false, afterBlank := true }).release b
    | some next =>
        if b = 9 then ({ g.replaced with column := next, afterBlank := true }).release b
        else
          let column := g.column + 1
          if g.afterBlank && column = next then
            ({ g.replaced with column := column, afterBlank := true }).release 9
          else
            ([], { g with
              column := column, reached := g.reached || decide (column = next)
              pending := g.pending ++ [b], afterBlank := true })
  else
    let column := if b = 8 then g.column - 1 else g.column + 1
    ({ g with column := column, afterBlank := false, converts := all }).release b

end Gathered

/-- The digits and commas of options, as the list of stops that they spell. -/
def spelledStops (o : Options) : List String :=
  let cs := (o.given.map (·.1)).filter fun key => key = "," || isDigitKey key
  let text := String.join cs
  (o.given.filter (·.1 = "t")).map (·.2) ++ if text.isEmpty then [] else [text]

def unexpand : Tool Unit := do
  let o ← options 1 "at:0123456789," "tabs:=t all=a first-only"
  let stops ← readStops (spelledStops o)
  let all := (o.isSet "a" || o.isSet "t") && !o.isSet "first-only"
  let g ← overLines {} (byBytes (Gathered.step stops all)) (orInput o.operands) {}
  put g.printed

/-! ### Lines that are too long -/

/-- The column after a byte. -/
def columnAfter (byBytes : Bool) (column : Nat) (b : UInt8) : Nat :=
  if byBytes then column + 1
  else if b = 8 then column - 1
  else if b = 13 then 0
  else if b = 9 then TabStops.nextMultiple TabStops.defaultWidth column
  else column + 1

def widthOf (byBytes : Bool) (bytes : Bytes) : Nat := bytes.foldl (columnAfter byBytes) 0

/-- Breaks a line into parts of at most some width. `held` has the part that has begun, the last byte
first, and `column` its width. -/
def foldLine (byBytes atSpaces : Bool) (width : Nat) :
    Nat → Bytes → Bytes → Nat → List Bytes → List Bytes
  | 0, _, held, _, done => (held.reverse :: done).reverse
  | _, [], held, _, done => (held.reverse :: done).reverse
  | bound + 1, b :: rest, held, column, done =>
      let next := columnAfter byBytes column b
      if next ≤ width || held.isEmpty then
        foldLine byBytes atSpaces width bound rest (b :: held) next done
      else
        let tail := held.takeWhile (!isBlankByte ·)
        if atSpaces && tail.length < held.length then
          foldLine byBytes atSpaces width bound (b :: rest) tail (widthOf byBytes tail.reverse)
            ((held.drop tail.length).reverse :: done)
        else foldLine byBytes atSpaces width bound (b :: rest) [] 0 (held.reverse :: done)

def defaultFold : Nat := 80

def foldWidth (text : String) : Tool Nat :=
  sizeBetween false 1 (Size.greatest - TabStops.defaultWidth - 1) "number of columns" text

def fold : Tool Unit := do
  let widthText (key value : String) : Option String :=
    if key = "w" then some value else if isDigitKey key then some (key ++ value) else none
  let o ← checkedOptions 1 "bsw:0::1::2::3::4::5::6::7::8::9::" "bytes=b spaces=s width:=w"
    (← read).arguments fun key value => do
      if let some text := widthText key value then
        let _ ← foldWidth text
  let width ← match (o.given.filterMap fun (key, value) => widthText key value).getLast? with
    | some text => foldWidth text
    | none => pure defaultFold
  let f (_ : Unit) (line : Bytes) : Bytes × Unit :=
    let whole := line.getLast? = some 10
    let body := if whole then line.dropLast else line
    let parts := foldLine (o.isSet "b") (o.isSet "s") width (2 * body.length + 1) body [] 0 []
    (List.intercalate [10] parts ++ (if whole then [10] else []), ())
  let _ ← overLines () f (orInput o.operands) ()

end LineShell.Machine.Tool
