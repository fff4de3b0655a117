import LineShell.Machine.Format
import LineShell.Machine.Tool.Copying

/-!
A tool that shows the bytes of files as numbers or characters.
-/

namespace LineShell.Machine.Tool

/-- How bytes are shown. -/
inductive DumpKind where
  /-- The names of characters. -/
  | names
  | chars
  | octal
  | signed
  | unsigned
  | hex
  deriving DecidableEq, Repr

structure DumpStyle where
  kind : DumpKind
  /-- So many bytes are shown together. -/
  size : Nat
  /-- The characters are shown at the end of each row. -/
  trails : Bool := false
  deriving DecidableEq, Repr

namespace DumpStyle

/-- The width of what is shown for one group of bytes. -/
def width (s : DumpStyle) : Nat :=
  match s.kind with
  | .names | .chars => 3
  | .octal => (8 * s.size + 2) / 3
  | .signed => if s.size = 1 then 4 else if s.size = 2 then 6 else if s.size = 4 then 11 else 20
  | .unsigned => if s.size = 1 then 3 else if s.size = 2 then 5 else if s.size = 4 then 10 else 20
  | .hex => 2 * s.size

def charNames : List String := [
  "nul", "soh", "stx", "etx", "eot", "enq", "ack", "bel", "bs", "ht", "nl", "vt", "ff", "cr", "so",
  "si", "dle", "dc1", "dc2", "dc3", "dc4", "nak", "syn", "etb", "can", "em", "sub", "esc", "fs", "gs",
  "rs", "us", "sp"]

def charLetters : List (Nat × String) := [
  (0, "\\0"), (7, "\\a"), (8, "\\b"), (12, "\\f"), (10, "\\n"), (13, "\\r"), (9, "\\t"), (11, "\\v")]

def zeros (width : Nat) (text : String) : String := "".pushn '0' (width - text.length) ++ text

def show_ (s : DumpStyle) (group : Bytes) : String :=
  let n := group.foldr (fun b n => n * 256 + b.toNat) 0
  match s.kind with
  | .names =>
      let m := n % 128
      if m = 127 then "del"
      else (charNames[m]?).getD (String.singleton (Char.ofNat m))
  | .chars =>
      (charLetters.lookup n).getD
        (if 32 ≤ n && n < 127 then String.singleton (Char.ofNat n)
          else zeros 3 (Directive.digitsIn 8 false n))
  | .octal => zeros s.width (Directive.digitsIn 8 false n)
  | .signed =>
      let limit := Nat.pow 256 s.size
      toString (if limit ≤ 2 * n then (n : Int) - limit else (n : Int))
  | .unsigned => toString n
  | .hex => zeros s.width (Directive.digitsIn 16 false n)

def groups (size : Nat) : Nat → Bytes → List Bytes
  | 0, _ | _, [] => []
  | bound + 1, bytes => bytes.take size :: groups size bound (bytes.drop size)

/-- A row of groups, each behind blanks, of which the row has as many as `room` besides the groups. -/
def row (s : DumpStyle) (rowSize pad : Nat) (bytes : Bytes) : String :=
  let fields := rowSize / s.size
  let all := groups s.size bytes.length bytes
  String.join (all.zipIdx.map fun (g, i) =>
    let before := pad * (fields - i) / fields
    let after := pad * (fields - i - 1) / fields
    padLeft (before - after + s.width) (s.show_ g))

/-- The characters of a row, behind as many blanks as its missing groups would take. -/
def trail (s : DumpStyle) (rowSize pad : Nat) (bytes : Bytes) : String :=
  let fields := rowSize / s.size
  let shown := (bytes.length + s.size - 1) / s.size
  let missing := pad * (fields - shown) / fields + (fields - shown) * s.width
  "".pushn ' ' missing ++ "  >" ++
    String.ofList (bytes.map fun b => if 32 ≤ b && b < 127 then Char.ofNat b.toNat else '.') ++ "<"

/-- The size that a number or letter in the text of a style stands for. -/
def sizeLetters : List (Char × Nat) := [('C', 1), ('S', 2), ('I', 4), ('L', 8)]

/-- Reads the styles that a text tells of. -/
def ofText (whole : String) : Nat → List Char → List DumpStyle → Except String (List DumpStyle)
  | 0, _, acc | _, [], acc => .ok acc.reverse
  | bound + 1, c :: rest, acc =>
      let finish (kind : DumpKind) (size : Nat) (rest : List Char) :=
        match rest with
        | 'z' :: rest => ofText whole bound rest (⟨kind, size, true⟩ :: acc)
        | rest => ofText whole bound rest (⟨kind, size, false⟩ :: acc)
      let sized (kind : DumpKind) : Except String (List DumpStyle) :=
        match rest with
        | [] => finish kind 4 []
        | d :: more =>
            match sizeLetters.lookup d with
            | some size => finish kind size more
            | none =>
                if d.isDigit then
                  let (n, after) := Class.number 10 rest.length 0 rest
                  if [1, 2, 4, 8].contains n then finish kind n after
                  else .error ("invalid type string " ++ Quoting.plain whole ++
                    ";\nthis system doesn't provide a " ++ toString n ++ "-byte integral type")
                else finish kind 4 rest
      match c with
      | 'a' => finish .names 1 rest
      | 'c' => finish .chars 1 rest
      | 'd' => sized .signed
      | 'o' => sized .octal
      | 'u' => sized .unsigned
      | 'x' => sized .hex
      | c => .error ("invalid character '" ++ String.singleton c ++ "' in type string " ++
          Quoting.plain whole)

end DumpStyle

/-- How offsets are shown at the front of rows. -/
structure Offsets where
  base : Nat
  width : Nat

def Offsets.text (o : Option Offsets) (n : Nat) : String :=
  match o with
  | some o => DumpStyle.zeros o.width (Directive.digitsIn o.base false n)
  | none => ""

/-- The lines for one row of bytes. -/
def dumpRow (offsets : Option Offsets) (styles : List DumpStyle) (rowSize offset : Nat)
    (bytes : Bytes) : List String :=
  let rowWidth := (styles.map fun s => (s.width + 1) * (rowSize / s.size)).foldl max 0
  styles.zipIdx.map fun (s, i) =>
    let pad := rowWidth - s.width * (rowSize / s.size)
    let lead := if i = 0 then Offsets.text offsets offset
      else "".pushn ' ' ((offsets.map Offsets.width).getD 0)
    lead ++ s.row rowSize pad bytes ++ (if s.trails then s.trail rowSize pad bytes else "") ++ "\n"

/-- The lines of a dump from an offset on. Rows like the one before them become one star. -/
def dumpRows (offsets : Option Offsets) (styles : List DumpStyle) (rowSize : Nat) (all : Bool) :
    Nat → Nat → Option Bytes → Bool → Bytes → List String
  | 0, offset, _, _, _ => [Offsets.text offsets offset]
  | bound + 1, offset, previous, starred, bytes =>
      if bytes.isEmpty then
        match offsets with
        | some _ => [Offsets.text offsets offset ++ "\n"]
        | none => []
      else
        let row := bytes.take rowSize
        let next := bytes.drop rowSize
        if !all && previous = some row && row.length = rowSize then
          let later := dumpRows offsets styles rowSize all bound (offset + row.length) previous true next
          if starred then later else "*\n" :: later
        else
          dumpRow offsets styles rowSize offset row ++
            dumpRows offsets styles rowSize all bound (offset + row.length) (some row) false next

/-- The old letters for styles. -/
def dumpLetters : List (String × DumpStyle) := [
  ("a", ⟨.names, 1, false⟩), ("b", ⟨.octal, 1, false⟩), ("c", ⟨.chars, 1, false⟩),
  ("d", ⟨.unsigned, 2, false⟩), ("o", ⟨.octal, 2, false⟩), ("s", ⟨.signed, 2, false⟩),
  ("x", ⟨.hex, 2, false⟩), ("B", ⟨.octal, 2, false⟩), ("D", ⟨.unsigned, 4, false⟩),
  ("h", ⟨.hex, 2, false⟩), ("H", ⟨.hex, 4, false⟩), ("i", ⟨.signed, 4, false⟩),
  ("I", ⟨.signed, 8, false⟩), ("l", ⟨.signed, 8, false⟩), ("L", ⟨.signed, 8, false⟩),
  ("O", ⟨.octal, 4, false⟩), ("X", ⟨.hex, 4, false⟩)]

def dumpSize (letter text : String) : Tool Nat := do
  let cs := text.toList
  let hex := match cs with
    | '0' :: x :: c :: rest => if (x = 'x' || x = 'X') && Class.isHexDigit c then
        (match Class.number 16 (rest.length + 1) 0 (c :: rest) with
          | (n, []) => some n
          | _ => none) else none
    | _ => none
  let octal := match cs with
    | '0' :: rest => (match Class.number 8 rest.length 0 rest with
        | (n, []) => some n
        | _ => none)
    | _ => none
  match (hex.or octal).or (Size.ofText? text) with
  | some n => return n
  | none => fail 1 ("invalid -" ++ letter ++ " argument " ++ Quoting.plain text)

def defaultRow : Nat := 16

def od : Tool Unit := do
  let o ← options 1 "A:aBbcDdeFfHhIij:LlN:OoS:st:vw::Xx"
    ("skip-bytes:=j address-radix:=A read-bytes:=N format:=t output-duplicates=v strings::=S " ++
      "traditional width::=w endian:")
  let offsets : Option Offsets ← match o.value? "A" with
    | none => pure (some ⟨8, 7⟩)
    | some text =>
        match text.toList.head? with
        | some 'o' => pure (some ⟨8, 7⟩)
        | some 'd' => pure (some ⟨10, 7⟩)
        | some 'x' => pure (some ⟨16, 6⟩)
        | some 'n' => pure none
        | c => fail 1 ("invalid output address radix '" ++ String.ofList c.toList ++
            "'; it must be one character from [doxn]")
  let styles ← o.given.mapM fun (key, value) => do
    if key = "t" then
      match DumpStyle.ofText value (value.length + 1) value.toList [] with
      | .ok styles => pure styles
      | .error e => fail 1 e
    else pure (dumpLetters.lookup key).toList
  let styles := if styles.flatten.isEmpty then [⟨.octal, 2, false⟩] else styles.flatten
  let skip ← (o.value? "j").elim (pure 0) (dumpSize "j")
  let limit ← match o.value? "N" with
    | some text => do
        let n ← dumpSize "N" text
        pure (some n)
    | none => pure none
  let rowSize ← match o.value? "w" with
    | none => pure defaultRow
    | some "" => pure 32
    | some text => dumpSize "w" text
  let unit := (styles.map DumpStyle.size).foldl max 1
  let rowSize := if rowSize = 0 || rowSize % unit != 0 then
    (defaultRow / unit) * unit else rowSize
  let rec gather : List String → Bytes → Tool Bytes
    | [], acc => return acc
    | operand :: rest, acc => do
        let wanted := limit.map fun n => skip + n - acc.length
        let bytes ← withInput operand
          (fun e => do
            complain (named (Quoting.ifNeeded operand) e)
            return ([] : Bytes))
          fun d => do
            let answer ← match wanted with
              | some n => act (.read d n)
              | none => everything d
            match answer with
            | .ok bytes => return bytes
            | .error e => do
                complain (named (Quoting.ifNeeded operand) e)
                return []
        gather rest (acc ++ bytes)
  let bytes ← gather (orInput o.operands) []
  let opened ← o.operands.anyM fun operand => do
    if operand = "-" then return true
    let w ← world
    return (w.system.tree.find true w.self.cwd operand).isOk
  if !o.operands.isEmpty && !opened then exit 1
  if bytes.length < skip then fail 1 "cannot skip past end of combined input"
  let bytes := bytes.drop skip
  putText (String.join
    (dumpRows offsets styles rowSize (o.isSet "v") (bytes.length + 1) skip none false bytes))

end LineShell.Machine.Tool
