import LineShell.Machine.Numeral
import LineShell.Machine.Signal
import LineShell.Machine.Size
import LineShell.Machine.Tool.Choosing

/-!
Tools that pass on bytes as they are: all of them, or those at one end.
-/

namespace LineShell.Machine.Tool

/-- The file behind a descriptor, if it stands for a regular one. -/
def regular? (d : Descriptor) : Instant (Option (NodeId × OpenFile)) := do
  match ← World.file? d with
  | none => return none
  | some file =>
      match file.stream with
      | .node n =>
          match (← get).system.tree.content n with
          | .file _ => return some (n, file)
          | _ => return none
      | _ => return none

/-! ### Whole files -/

/-- How `cat` shows what it copies. -/
structure Showing where
  numbers : Bool
  /-- Only lines that are not empty are numbered. -/
  sparing : Bool
  /-- Of several empty lines only one is shown. -/
  squeezes : Bool
  ends : Bool
  tabs : Bool
  unprintable : Bool
  deriving DecidableEq, Repr

def Showing.isPlain (s : Showing) : Bool :=
  !(s.numbers || s.sparing || s.squeezes || s.ends || s.tabs || s.unprintable)

/-- How far `cat` has come. -/
structure CatState where
  number : Nat := 0
  atStart : Bool := true
  /-- So many empty lines came last. -/
  empties : Nat := 0

def caret (b : UInt8) : Bytes := [94, b ^^^ 64]

/-- A byte that cannot be printed, spelled out. -/
def spelled (b : UInt8) : Bytes :=
  let low (b : UInt8) : Bytes := if b < 32 || b = 127 then caret b else [b]
  if b < 128 then low b else [77, 45] ++ low (b - 128)

def showByte (s : Showing) (b : UInt8) : Bytes :=
  if b = 9 then (if s.tabs then caret b else [b])
  else if s.unprintable then spelled b
  else [b]

def numberWidth : Nat := 6

def padLeft (width : Nat) (text : String) : String :=
  "".pushn ' ' (width - text.length) ++ text

def padRight (width : Nat) (text : String) : String :=
  text ++ "".pushn ' ' (width - text.length)

/-- Shows bytes, and tells how far it has come then. -/
def showBytes (s : Showing) (bytes : Bytes) (c : CatState) : Bytes × CatState :=
  let (out, c) := bytes.foldl (fun (out, c) b =>
    let isEmptyLine := c.atStart && b = 10
    let c := { c with empties := if isEmptyLine then c.empties + 1 else 0 }
    if isEmptyLine && s.squeezes && 1 < c.empties then (out, c)
    else
      let numbered := c.atStart && (if s.sparing then !isEmptyLine else s.numbers)
      let c := if numbered then { c with number := c.number + 1 } else c
      let mark := if numbered then
          Raw.toBytes (padLeft numberWidth (toString c.number) ++ "\t") else []
      let shown :=
        if b = 10 then (if s.ends then [36, 10] else [10]) else showByte s b
      ((mark ++ shown) :: out, { c with atStart := b = 10 })) (([] : List Bytes), c)
  (out.reverse.flatten, c)

/-- Whether copying a file to the standard output would only make it grow. -/
def wouldExhaust (d : Descriptor) : Tool Bool := instant do
  match ← regular? d, ← regular? Descriptor.output with
  | some (n, input), some (m, output) =>
      if n != m then return false
      let size := World.size (← get) n
      return input.position < (if output.appends then size else output.position)
  | _, _ => return false

def catFile (s : Showing) (operand : String) (d : Descriptor) (c : CatState) : Tool CatState := do
  if ← wouldExhaust d then
    complain (Quoting.ifNeeded operand ++ ": input file is output file")
    return c
  let rec go : Nat → CatState → Tool CatState
    | 0, c => return c
    | bound + 1, c => do
        match ← block d with
        | .error e => do
            complain (named (Quoting.ifNeeded operand) e)
            return c
        | .ok bytes =>
            if bytes.isEmpty then return c
            if s.isPlain then
              put bytes
              go bound c
            else
              let (shown, c) := showBytes s bytes c
              put shown
              go bound c
  go patience c

def catAll (s : Showing) : List String → CatState → Tool Unit
  | [], _ => return ()
  | operand :: rest, c => do
      let c ← withInput operand
        (fun e => do
          complain (named (Quoting.ifNeeded operand) e)
          return c)
        fun d => catFile s operand d c
      catAll s rest c

/-- The operands, of which a dash is the only one if there are none. -/
def orInput (operands : List String) : List String :=
  if operands.isEmpty then ["-"] else operands

def cat : Tool Unit := do
  let o ← options 1 "AbeEnstTuv"
    ("number-nonblank=b number=n squeeze-blank=s show-nonprinting=v show-ends=E show-tabs=T " ++
      "show-all=A")
  let has (keys : List String) : Bool := keys.any o.isSet
  catAll {
    numbers := has ["n"], sparing := has ["b"], squeezes := has ["s"], ends := has ["A", "e", "E"]
    tabs := has ["A", "t", "T"], unprintable := has ["A", "e", "t", "v"] } (orInput o.operands) {}

/-! ### Parts of files -/

/-- How much of a text is wanted. -/
inductive Extent where
  /-- So many lines at the front, or at the end. -/
  | lines (count : Nat)
  | bytes (count : Nat)
  /-- All but so many. -/
  | butLines (count : Nat)
  | butBytes (count : Nat)
  deriving DecidableEq, Repr

/-- The first `count` lines of some bytes, how many there are of them, and the rest. -/
def takeLines (ending : UInt8) (count : Nat) (bytes : Bytes) : Bytes × Nat × Bytes :=
  let (lines, rest) := cutLines ending bytes
  if lines.length < count then (bytes, lines.length, [])
  else (joinLines ending (lines.take count), count, joinLines ending (lines.drop count) ++ rest)

def headBlock : Nat := 8192

/-- Copies the first lines, and gives back what comes after them. -/
def headLines (ending : UInt8) (d : Descriptor) : Nat → Nat → Tool (Option Errno)
  | 0, _ | _, 0 => return none
  | bound + 1, count => do
      match ← act (.read d headBlock) with
      | .error e => return some e
      | .ok bytes =>
          if bytes.isEmpty then return none
          let (wanted, number, rest) := takeLines ending count bytes
          put wanted
          if number = count then
            giveBack d rest.length
            return none
          else headLines ending d bound (count - number)

/-- Copies the first bytes. -/
def headBytes (d : Descriptor) : Nat → Nat → Tool (Option Errno)
  | 0, _ | _, 0 => return none
  | bound + 1, count => do
      match ← act (.read d (min count headBlock)) with
      | .error e => return some e
      | .ok bytes =>
          if bytes.isEmpty then return none
          put bytes
          headBytes d bound (count - bytes.length)

/-- The number of bytes before the last lines. -/
def lengthBeforeLast (ending : UInt8) (count : Nat) (bytes : Bytes) : Nat :=
  let lines := linesOf ending bytes
  (takeLines ending (lines.length - count) bytes).1.length

/-- Copies all but an end of what comes, and gives back that. -/
def headAllBut (d : Descriptor) (kept : Bytes → Nat) : Tool (Option Errno) := do
  match ← everything d with
  | .error e => return some e
  | .ok bytes => do
      let count := kept bytes
      put (bytes.take count)
      giveBack d (bytes.length - count)
      return none

def headPart (ending : UInt8) (extent : Extent) (d : Descriptor) : Tool (Option Errno) :=
  match extent with
  | .lines count => headLines ending d patience count
  | .bytes count => headBytes d patience count
  | .butLines count => headAllBut d fun bytes =>
      if count = 0 then bytes.length else lengthBeforeLast ending count bytes
  | .butBytes count => headAllBut d fun bytes => bytes.length - count

def tailOf (ending : UInt8) (extent : Extent) (bytes : Bytes) : Bytes :=
  match extent with
  | .lines count => bytes.drop (lengthBeforeLast ending count bytes)
  | .bytes count => bytes.drop (bytes.length - count)
  | .butLines count => (takeLines ending count bytes).2.2
  | .butBytes count => bytes.drop count

def tailPart (ending : UInt8) (extent : Extent) (d : Descriptor) : Tool (Option Errno) := do
  match ← everything d with
  | .error e => return some e
  | .ok bytes => do
      put (tailOf ending extent bytes)
      return none

def defaultLines : Nat := 10

def inputLabel (operand : String) : String := if operand = "-" then "standard input" else operand

/-- The line that stands above the part of a file. -/
def banner (first : Bool) (operand : String) : String :=
  (if first then "" else "\n") ++ "==> " ++ inputLabel operand ++ " <==\n"

/-- Shows a part of each operand. If an error `isFatal`, the others are not shown after it. -/
def showParts (isFatal : Bool) (part : Descriptor → Tool (Option Errno)) (banners : Bool) :
    Bool → List String → Tool Unit
  | _, [] => return ()
  | first, operand :: rest => do
      let first ← withInput operand
        (fun e => do
          complain ("cannot open " ++ Quoting.always operand ++ " for reading: " ++ e.sentence)
          return first)
        fun d => do
          if banners then putText (banner first operand)
          if let some e := ← part d then
            complain ("error reading " ++ Quoting.always (inputLabel operand) ++ ": " ++ e.sentence)
            if isFatal then exit 1
          return false
      showParts isFatal part banners first rest

/-- A size that an option gives, as far as it may go. -/
def sizeBetween (suffixed : Bool) (low high : Nat) (what text : String) : Tool Nat := do
  match Size.between suffixed low high text with
  | .ok n => return n
  | .error reason => fail 1 ("invalid " ++ what ++ ": " ++ Quoting.plain text ++
      reason.elim "" fun e => ": " ++ e.sentence)

/-- The extent that an option asks for, where a sign as `inverse` stands for all but some. -/
def extentOf (inverse key text : String) : Tool Extent := do
  let isInverse := text.startsWith inverse
  let body := if text.startsWith "-" then (text.drop 1).copy else text
  let what := if key = "n" then "number of lines" else "number of bytes"
  let count ← sizeBetween true 0 Size.greatest what body
  return match key, isInverse with
    | "n", false => .lines count
    | "n", true => .butLines count
    | _, false => .bytes count
    | _, true => .butBytes count

def extent (inverse : String) (o : Options) : Tool Extent :=
  let key := (o.last? ["n", "c"]).getD "n"
  extentOf inverse key ((o.value? key).getD (toString defaultLines))

/-- Insists that an option which gives an extent makes sense. -/
def checkExtent (inverse key text : String) : Tool Unit := do
  if key = "n" || key = "c" then
    let _ ← extentOf inverse key text

/-- Shows a part of the operands of a call. -/
def showOperands (isFatal : Bool) (o : Options) (part : Descriptor → Tool (Option Errno)) : Tool Unit := do
  let operands := orInput o.operands
  let banners := match o.last? ["q", "v"] with
    | some key => key = "v"
    | none => 1 < operands.length
  showParts isFatal part banners true operands

def ending (o : Options) : UInt8 := if o.isSet "z" then 0 else 10

/-- What the letters behind an old spelling say, one after another: the key of the number and its
suffix. -/
def oldHeadSize : List Char → String × List Char → String × List Char
  | [], size => size
  | 'c' :: rest, _ => oldHeadSize rest ("-c", [])
  | 'l' :: rest, (_, suffix) => oldHeadSize rest ("-n", suffix)
  | c :: rest, size =>
      oldHeadSize rest (if c = 'b' || c = 'k' || c = 'm' then ("-c", [c]) else size)

def trailing (letter : Char) : Tool Unit :=
  misuse 1 ("invalid trailing option -- " ++ String.singleton letter)

/-- The old spelling of a number of lines, `-5`, in the new one. -/
def modernHead (arguments : List String) : Tool (List String) := do
  match arguments with
  | first :: rest =>
      match first.toList with
      | '-' :: c :: more =>
          if !c.isDigit then return arguments
          let digits := (c :: more).takeWhile Char.isDigit
          let letters := (c :: more).drop digits.length
          if let some wrong := letters.find? fun l => !"cbkmlqvz".contains l then trailing wrong
          let (key, suffix) := oldHeadSize letters ("-n", [])
          let flags := letters.filter fun l => l = 'q' || l = 'v' || l = 'z'
          return [key, String.ofList (digits ++ suffix)] ++
            flags.map (fun l => String.ofList ['-', l]) ++ rest
      | _ => return arguments
  | [] => return []

def isDigitKey (key : String) : Bool := !key.isEmpty && key.all Char.isDigit

def head : Tool Unit := do
  let arguments ← modernHead (← read).arguments
  let words := "bytes:=c lines:=n -presume-input-pipe quiet=q silent=q verbose=v zero-terminated=z"
  let o ← checkedOptions 1 "c:n:qvz0123456789" words arguments fun key value => do
    if isDigitKey key then trailing (key.toList.headD '0') else checkExtent "-" key value
  let extent ← extent "-" o
  showOperands false o (headPart (ending o) extent)

/-- The old spelling of the extent for `tail`, in the new one. It may stand alone before one operand. -/
def modernTail (arguments : List String) : List String :=
  let isAlone := match arguments with
    | [_] => true
    | [_, file] => !file.startsWith "-" || file = "-"
    | [_, second, _] => second = "--"
    | _ => false
  match arguments with
  | first :: rest =>
      match first.toList with
      | sign :: more =>
          let digits := more.takeWhile Char.isDigit
          let letters := more.drop digits.length
          let follows := letters.getLast? = some 'f'
          let letters := if follows then letters.dropLast else letters
          let isOld := isAlone && (sign = '+' || (sign = '-' && !more.isEmpty && more != ['c'])) &&
            [[], ['l'], ['c'], ['b']].contains letters
          if isOld then
            let key := if letters = ['c'] || letters = ['b'] then "-c" else "-n"
            let digits := if digits.isEmpty then "10".toList else digits
            let suffix := if letters = ['b'] then ['b'] else []
            [key, String.ofList (sign :: digits ++ suffix)] ++ (if follows then ["-f"] else []) ++ rest
          else arguments
      | [] => arguments
  | [] => []

/-- Insists that an option of `tail` makes sense. -/
def checkTail (key value : String) : Tool Unit := do
  if isDigitKey key then fail 1 ("option used in invalid context -- " ++ key)
  checkExtent "+" key value
  match key with
  | "follow" => if !value.isEmpty then Choices.insist [["descriptor"], ["name"]] "--follow" value
  | "s" =>
      match Numeral.real? value.toList with
      | some (.finite negative r, []) =>
          if negative && decide (r.top ≠ 0) then fail 1 ("invalid number of seconds: " ++ Quoting.plain value)
      | some (.infinite false, []) => return ()
      | _ => fail 1 ("invalid number of seconds: " ++ Quoting.plain value)
  | "pid" =>
      let _ ← sizeBetween false 0 Size.greatestPid "PID" value
  | "max-unchanged-stats" =>
      let _ ← sizeBetween false 0 Size.greatest
        "maximum number of unchanged stats between opens" value
  | _ => return ()

def tailWords : String :=
  ("bytes:=c follow:: lines:=n max-unchanged-stats: -disable-inotify pid: " ++
      "-presume-input-pipe quiet=q retry silent=q sleep-interval:=s verbose=v zero-terminated=z")

def tail : Tool Unit := do
  let arguments := modernTail (← read).arguments
  let o ← checkedOptions 1 "c:n:qvzfFs:0123456789" tailWords arguments checkTail
  let follows := ["f", "F", "follow"].any o.isSet
  if !follows && o.isSet "retry" then
    warn "warning: --retry ignored; --retry is useful only when following"
  if !follows && o.isSet "pid" then
    warn "warning: PID ignored; --pid=PID is useful only when following"
  let extent ← extent "+" o
  let extent := match extent with
    | .butLines count => Extent.butLines (count - 1)
    | .butBytes count => Extent.butBytes (count - 1)
    | extent => extent
  if extent = .lines 0 || extent = .bytes 0 then return ()
  -- That bytes of a file cannot be read is the end of all, unlike lines.
  let isFatal := extent matches .bytes _ | .butBytes _
  showOperands isFatal o (tailPart (ending o) extent)

/-! ### Copies -/

/-- A place that `tee` copies to. -/
structure Outlet where
  label : String
  descriptor : Descriptor

/-- What `tee` makes of a place that takes nothing. -/
structure Patience where
  /-- It ends at once. -/
  exits : Bool
  /-- That a pipe is closed does not matter. -/
  sparesPipes : Bool

namespace Patience

def complain (p : Patience) (label : String) (e : Errno) : Tool Unit := do
  if !(p.sparesPipes && e = .brokenPipe) then
    Tool.complain (named label e)
    if p.exits then exit 1

end Patience

/-- Opens the files that `tee` copies to. -/
def openCopies (p : Patience) (opening : Opening) : List String → List Outlet → Tool (List Outlet)
  | [], found => return found.reverse
  | operand :: rest, found => do
      match ← instant (World.openPath opening operand) with
      | .ok d => openCopies p opening rest (⟨Quoting.ifNeeded operand, d⟩ :: found)
      | .error e => do
          p.complain (Quoting.ifNeeded operand) e
          openCopies p opening rest found

/-- Writes to all places, and gives those that still take something. -/
def writeAll (p : Patience) (bytes : Bytes) : List Outlet → Tool (List Outlet)
  | [] => return []
  | o :: rest => do
      match ← writeTo o.descriptor bytes with
      | none => return o :: (← writeAll p bytes rest)
      | some e => do
          p.complain o.label e
          writeAll p bytes rest

def teeBlocks (p : Patience) : Nat → List Outlet → Tool Unit
  | 0, _ | _, [] => return ()
  | bound + 1, outlets => do
      match ← block Descriptor.input with
      | .error e => complain ("read error: " ++ e.sentence)
      | .ok bytes =>
          if bytes.isEmpty then return ()
          teeBlocks p bound (← writeAll p bytes outlets)

def ignore (signal : Nat) : Tool Unit := instant (modify fun w =>
  { w with self := { w.self with ignored := signal :: w.self.ignored } })

def tee : Tool Unit := do
  let modes : Choices := [["warn"], ["warn-nopipe"], ["exit"], ["exit-nopipe"]]
  let o ← checkedOptions 1 "aip" "append=a ignore-interrupts=i output-error::=p"
    (← read).arguments fun key value =>
      if key = "p" && !value.isEmpty then modes.insist "--output-error" value else return ()
  let mode := (o.value? "p").map fun text => (modes.meaning? text).getD "warn-nopipe"
  if mode.isSome then ignore Signal.pipe
  let p : Patience := {
    exits := mode = some "exit" || mode = some "exit-nopipe"
    sparesPipes := mode != some "exit" && mode != some "warn" }
  let opening : Opening := if o.isSet "a" then .forAppending else .forWriting
  let copies ← openCopies p opening o.operands []
  teeBlocks p patience (⟨"'standard output'", Descriptor.output⟩ :: copies)

/-! ### Copies without end -/

/-- Writes the same block again and again. -/
def repeatBlock (bytes : Bytes) : Nat → Tool Unit
  | 0 => return ()
  | bound + 1 => do
      match ← writeTo Descriptor.output bytes with
      | none => repeatBlock bytes bound
      | some e => fail 1 ("standard output: " ++ e.sentence)

def yesBlockSize : Nat := 8192

def yes : Tool Unit := do
  let o ← options 1 "+" ""
  let line := Raw.toBytes ((if o.operands.isEmpty then "y" else " ".intercalate o.operands) ++ "\n")
  repeatBlock (List.replicate (yesBlockSize / line.length + 1) line).flatten patience

end LineShell.Machine.Tool
