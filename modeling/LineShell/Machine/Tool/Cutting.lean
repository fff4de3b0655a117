import LineShell.Machine.Numeral
import LineShell.Machine.Tool.Copying

/-!
Tools that cut lines into parts, put them together, or change how they stand.
-/

namespace LineShell.Machine.Tool

/-! ### Parts of lines -/

/-- Positions from one on, without a last one where there is no end. -/
structure Span where
  first : Nat
  last : Option Nat
  deriving DecidableEq, Repr

namespace Span

def holds (s : Span) (position : Nat) : Bool := s.first ≤ position && s.last.all (position ≤ ·)

/-- What lists of positions are about. -/
structure Words where
  zero : String
  /-- What a number counts. -/
  number : String
  range : String
  item : String
  missing : String

def ofFields : Words :=
  ⟨"fields are numbered from 1", "field number", "invalid field range", "invalid field value",
    "missing list of fields"⟩

def ofBytes : Words :=
  ⟨"byte/character positions are numbered from 1", "byte/character offset",
    "invalid byte or character range", "invalid byte/character position",
    "missing list of byte/character positions"⟩

def isSeparator (c : Char) : Bool := c = ',' || Class.isBlank c

/-- Reads one item of a list of positions. The other parts of the list follow in `rest`. -/
def item (w : Words) (text rest : List Char) : Except String Span :=
  let digits (t : List Char) : List Char := t.takeWhile Char.isDigit
  let number (t : List Char) : Nat := (Class.number 10 t.length 0 t).1
  let tooLarge (t : List Char) : Except String Span :=
    .error (w.number ++ " " ++ Quoting.plain (String.ofList t) ++ " is too large")
  let low := digits text
  if Size.greatest ≤ number low then tooLarge low
  else match text.drop low.length with
  | [] => if number low = 0 then .error w.zero else .ok ⟨number low, some (number low)⟩
  | '-' :: more =>
      if !low.isEmpty && number low = 0 then .error w.zero
      else
        let first := if low.isEmpty then 1 else number low
        let high := digits more
        if Size.greatest ≤ number high then tooLarge high
        else match more.drop high.length with
        | [] =>
            if high.isEmpty then
              if low.isEmpty then .error "invalid range with no endpoint: -" else .ok ⟨first, none⟩
            else if number high < first then .error "invalid decreasing range"
            else .ok ⟨first, some (number high)⟩
        | '-' :: _ => .error w.range
        | other => .error (w.item ++ " " ++ Quoting.plain (String.ofList (other ++ rest)))
  | other => .error (w.item ++ " " ++ Quoting.plain (String.ofList (other ++ rest)))

/-- Reads a list of positions. -/
def list (w : Words) : Nat → List Char → Except String (List Span)
  | 0, _ => .ok []
  | bound + 1, text => do
      let text' := text.takeWhile (!isSeparator ·)
      let rest := text.drop text'.length
      let span ← item w text' rest
      match rest with
      | [] => return [span]
      | _ :: rest => return span :: (← list w bound rest)

/-- The spans that hold what none of some others holds. -/
def complement (spans : List Span) (position : Nat) : Bool := !spans.any (·.holds position)

end Span

/-- What `cut` takes from a line. -/
structure Cutter where
  wanted : Nat → Bool
  spans : List Span
  isComplement : Bool
  delimiter : UInt8
  between : Option Bytes
  ending : UInt8

namespace Cutter

/-- The bytes at the wanted positions; what was asked to stand between stands where a span begins. -/
def bytes (c : Cutter) (line : Bytes) : Bytes :=
  match c.between with
  | none => (line.zipIdx 1).filterMap fun (b, i) => if c.wanted i then some b else none
  | some text =>
      let isStart (i : Nat) : Bool :=
        if c.isComplement then c.wanted i && !c.wanted (i - 1)
        else c.spans.any (·.first = i) && !c.spans.any fun s => s.first < i && s.holds i
      let (out, _) := (line.zipIdx 1).foldl (fun ((out, any) : List Bytes × Bool) (b, i) =>
        if c.wanted i then ((if any && isStart i then text ++ [b] else [b]) :: out, true)
        else (out, any)) ([], false)
      out.reverse.flatten

/-- The wanted fields, or the whole line if it has but one. -/
def fields (c : Cutter) (line : Bytes) : Bytes :=
  let all := pieces (· = c.delimiter) line
  if all.length = 1 then line
  else
    let kept := (all.zipIdx 1).filterMap fun (f, i) => if c.wanted i then some f else none
    (c.between.getD [c.delimiter]).intercalate kept

end Cutter

def cut : Tool Unit := do
  let o ← options 1 "b:c:d:f:nsz"
    ("bytes:=b characters:=c fields:=f delimiter:=d only-delimited=s output-delimiter: " ++
      "complement zero-terminated=z")
  let lists := o.given.filter fun (key, _) => ["b", "c", "f"].contains key
  if lists.length > 1 then misuse 1 "only one list may be specified"
  if let some text := o.value? "d" then
    if 1 < text.length then misuse 1 "the delimiter must be a single character"
  let (key, text) ← match lists with
    | [one] => pure one
    | _ => misuse 1 "you must specify a list of bytes, characters, or fields"
  let byFields := key = "f"
  if !byFields then
    if o.isSet "d" then
      misuse 1 "an input delimiter may be specified only when operating on fields"
    if o.isSet "s" then
      misuse 1 "suppressing non-delimited lines makes sense\n\tonly when operating on fields"
  let words := if byFields then Span.ofFields else Span.ofBytes
  match Span.list words (text.length + 1) text.toList with
  | .error e => misuse 1 e
  | .ok spans => do
      let isComplement := o.isSet "complement"
      let ending := ending o
      let cutter : Cutter := {
        wanted := fun i =>
          if isComplement then Span.complement spans i else spans.any (·.holds i)
        spans := spans, isComplement := isComplement
        delimiter := match o.value? "d" with
          | none => 9
          | some text => (Raw.toBytes text).headD 0
        between := (o.value? "output-delimiter").map fun text =>
          if text.isEmpty then [0] else Raw.toBytes text
        ending := ending }
      let edit (line : Bytes) : Option Bytes :=
        if byFields then
          if o.isSet "s" && !line.contains cutter.delimiter then none else some (cutter.fields line)
        else some (cutter.bytes line)
      forEach (orInput o.operands) fun operand =>
        withInput operand (fun e => complain (named (Quoting.ifNeeded operand) e)) fun d => do
          let (_, failure) ← foldLines d ending (fun _ () line => do
            if let some part := edit line then put (part ++ [ending])
            return .more ()) patience [] ()
          if let some e := failure then complain (named (Quoting.ifNeeded operand) e)

/-! ### Lines side by side -/

/-- The delimiters of `paste`: characters, some of which are escaped. -/
def pasteDelimiters : List Char → List Bytes
  | '\\' :: c :: rest =>
      let one : Bytes := match c with
        | '0' => []
        | 'n' => [10]
        | 't' => [9]
        | 'b' => [8]
        | 'f' => [12]
        | 'r' => [13]
        | 'v' => [11]
        | c => [c.toNat.toUInt8]
      one :: pasteDelimiters rest
  | c :: rest => [c.toNat.toUInt8] :: pasteDelimiters rest
  | [] => []

/-- Joins parts with delimiters, which are used again from the first one on. -/
def joinWith (delimiters : List Bytes) (parts : List Bytes) : Bytes :=
  (parts.zipIdx.map fun (part, i) =>
    if i = 0 then part
    else (delimiters[(i - 1) % max 1 delimiters.length]?).getD [] ++ part).flatten

/-- Lines that are read one at a time. -/
structure LineSource where
  descriptor : Descriptor
  /-- What was read and is yet to be handed out. -/
  lines : List Bytes := []
  carried : Bytes := []
  isOver : Bool := false

namespace LineSource

/-- The next line, if there is one. What is wrong with the input is said by `complain`. -/
def next (ending : UInt8) (complain : Errno → Tool Unit) :
    Nat → LineSource → Tool (Option Bytes × LineSource)
  | 0, s => return (none, s)
  | bound + 1, s => do
      match s.lines with
      | line :: rest => return (some line, { s with lines := rest })
      | [] =>
          if s.isOver then return (none, s)
          let ended : LineSource := { s with
            isOver := true, carried := [], lines := if s.carried.isEmpty then [] else [s.carried] }
          match ← block s.descriptor with
          | .error e => do
              complain e
              ended.next ending complain bound
          | .ok bytes =>
              if bytes.isEmpty then ended.next ending complain bound
              else
                let (lines, rest) := cutLines ending (s.carried ++ bytes)
                ({ s with lines := lines, carried := rest } : LineSource).next ending complain bound

end LineSource

/-- A column of `paste`: the operand, and the source of its lines, which several may share. -/
structure PasteColumn where
  operand : String
  source : Nat

/-- Takes a line for each column. -/
def pasteRow (ending : UInt8) :
    List PasteColumn → List LineSource → Tool (List (Option Bytes) × List LineSource)
  | [], sources => return ([], sources)
  | c :: rest, sources => do
      let (line, sources) ← match sources[c.source]? with
        | none => pure (none, sources)
        | some s => do
            let complain (e : Errno) : Tool Unit :=
              Tool.complain (named (Quoting.ifNeeded c.operand) e)
            let (line, s) ← s.next ending complain patience
            pure (line, sources.set c.source s)
      let (lines, sources) ← pasteRow ending rest sources
      return (line :: lines, sources)

/-- Prints rows as long as any column goes on. -/
def pasteRows (ending : UInt8) (delimiters : List Bytes) (columns : List PasteColumn) :
    Nat → List LineSource → Tool Unit
  | 0, _ => return ()
  | bound + 1, sources => do
      let (lines, sources) ← pasteRow ending columns sources
      if lines.any Option.isSome then
        put (joinWith delimiters (lines.map (·.getD [])) ++ [ending])
        pasteRows ending delimiters columns bound sources

/-- The columns of operands with their sources, of which the first is the standard input. -/
def pasteColumns : List String → List PasteColumn → List LineSource →
    Tool (List PasteColumn × List LineSource)
  | [], columns, sources => return (columns.reverse, sources)
  | operand :: rest, columns, sources => do
      if operand = "-" then pasteColumns rest (⟨operand, 0⟩ :: columns) sources
      else
        match ← openInput operand with
        | .error e => fail 1 (named (Quoting.ifNeeded operand) e)
        | .ok d =>
            let source : LineSource := { descriptor := d }
            pasteColumns rest (⟨operand, sources.length⟩ :: columns) (sources ++ [source])

def paste : Tool Unit := do
  let o ← options 1 "d:sz" "serial=s delimiters:=d zero-terminated=z"
  let delimiterText := (o.value? "d").getD "\t"
  let slashes := (delimiterText.toList.reverse.takeWhile (· = '\\')).length
  if slashes % 2 = 1 then
    fail 1 ("delimiter list ends with an unescaped backslash: " ++ delimiterText)
  let delimiters := pasteDelimiters delimiterText.toList
  let ending := ending o
  let operands := orInput o.operands
  if o.isSet "s" then
    forEach operands fun operand =>
      withInput operand (fun e => complain (named (Quoting.ifNeeded operand) e)) fun d => do
        let lines ← match ← everything d with
          | .ok bytes => pure (linesOf ending bytes)
          | .error e => do
              complain (named (Quoting.ifNeeded operand) e)
              pure []
        put (joinWith delimiters lines ++ [ending])
  else
    let (columns, sources) ← pasteColumns operands [] [{ descriptor := Descriptor.input }]
    pasteRows ending delimiters columns patience sources

end LineShell.Machine.Tool
