import LineShell.Machine.Numeral
import LineShell.Machine.Regex.Parse
import LineShell.Machine.Stat
import LineShell.Machine.Tool.Copying

/-!
A tool that looks for lines in files that match one of some patterns.
-/

namespace LineShell.Machine.Tool

/-- What is shown of what was found. -/
inductive GrepOutput where
  | lines
  /-- The parts that match. -/
  | parts
  | counts
  /-- The names of files with matches, or if negated of the others. -/
  | names (negated : Bool)
  | nothing
  deriving DecidableEq, Repr

structure Grep where
  pattern : Regex
  folds : Bool
  /-- The lines that do not match are wanted. -/
  inverts : Bool
  accept : Regex.Cursor → Regex.Cursor → Bool
  output : GrepOutput
  /-- The search ends with the first file that has what is wanted. -/
  hurries : Bool
  most : Option Nat
  numbers : Bool
  offsets : Bool
  labels : Bool
  /-- A zero stands behind the names of files. -/
  zeros : Bool
  /-- A tab stands before a line, so that its columns are those that it has without what is before it. -/
  tabs : Bool
  /-- Numbers are at least so wide. -/
  width : Nat := 0
  colored : Bool
  label : String
  /-- Everything is taken for text. -/
  text : Bool
  /-- Files that are no text have no matches. -/
  passesBinary : Bool
  silent : Bool
  ending : UInt8
  /-- So many lines are shown before and after each one that was found, if that was asked for. -/
  before : Option Nat
  after : Option Nat
  /-- What stands between lines that are apart, if lines around those that were found are shown. -/
  separator : Option String
  recursive : Bool
  skipsDirectories : Bool
  skipsDevices : Option Bool
  /-- The names of files in the current directory are told without it. -/
  barely : Bool
  /-- Links are followed in directories. -/
  follows : Bool
  included : List String
  excluded : List String
  excludedDirectories : List String

/-- What has come of the search up to now. -/
structure GrepTotal where
  found : Bool := false
  shown : Bool := false
  deriving DecidableEq, Repr

/-- How far the search in a file has come. -/
structure GrepState where
  /-- So many lines were read, with so many bytes. -/
  line : Nat := 0
  offset : Nat := 0
  /-- So many bytes stand before what follows the last line that was found. -/
  resumed : Nat := 0
  found : Nat := 0
  binary : Bool := false
  /-- The lines since the last one that was shown, as many as may be needed, the last one first. -/
  held : List (Nat × Nat × Bytes) := []
  /-- So many more lines are shown because of a match before them. -/
  owed : Nat := 0
  shown : Bool := false
  /-- The last line that was shown was the one before this one. -/
  adjacent : Bool := false

namespace Grep

def inputName : String := "(standard input)"

/-- Something in a color, if colors are shown. -/
def tint (g : Grep) (color : String) (bytes : Bytes) : Bytes :=
  if g.colored then
    Raw.toBytes ("\x1b[" ++ color ++ "m\x1b[K") ++ bytes ++ Raw.toBytes "\x1b[m\x1b[K"
  else bytes

def nameColor : String := "35"

def numberColor : String := "32"

def markColor : String := "36"

def matchColor : String := "01;31"

def mark (g : Grep) (mark : Char) : Bytes := g.tint markColor (Raw.toBytes (String.singleton mark))

def nameText (g : Grep) (name : String) : Bytes := g.tint nameColor (Raw.toBytes name)

/-- The name of a file before something about it. -/
def label? (g : Grep) (name : String) (mark : Char) : Bytes :=
  if g.labels then g.nameText name ++ (if g.zeros then [0] else g.mark mark) else []

def numberText (g : Grep) (n : Nat) : Bytes :=
  let digits := toString n
  g.tint numberColor (Raw.toBytes ("".pushn ' ' (g.width - digits.length) ++ digits))

/-- What stands before a line, or before a part of one, which may be empty. -/
def head (g : Grep) (name : String) (mark : Char) (line offset : Nat) (isEmpty : Bool) : Bytes :=
  g.label? name mark ++
    (if g.numbers then g.numberText line ++ g.mark mark else []) ++
    (if g.offsets then g.numberText offset ++ g.mark mark else []) ++
    (if g.tabs && (g.labels || g.numbers || g.offsets) && !isEmpty then [9] else [])

/-- The parts of a line that match, from a position on. -/
def parts (g : Grep) (r : Regex) (s : Regex.Subject) : Nat → Regex.Cursor → List Regex.Match
  | 0, _ => []
  | bound + 1, c =>
      match Regex.find? s r g.accept c.rest c with
      | none => []
      | some m =>
          let next := c.skip (max (m.stop - c.position) 1)
          let more := if c.rest.length < m.stop - c.position + 1 then [] else parts g r s bound next
          if m.start < m.stop then m :: more else more

def subject (g : Grep) (line : Bytes) : Regex.Subject :=
  { text := (Raw.ofBytes line).toList, folds := g.folds }

/-- A line is wanted. -/
def wants (g : Grep) (line : Bytes) : Bool :=
  let s := g.subject line
  let c := Regex.start s
  (Regex.find? s g.pattern g.accept c.rest c).isSome != g.inverts

def matchesIn (g : Grep) (line : Bytes) : List Regex.Match :=
  let s := g.subject line
  g.parts g.pattern s (line.length + 1) (Regex.start s)

def matchText (g : Grep) (line : Bytes) (m : Regex.Match) : Bytes :=
  g.tint matchColor ((line.drop m.start).take (m.stop - m.start))

/-- A line from a position on, with its matches in color. -/
def painted (g : Grep) (line : Bytes) : Nat → List Regex.Match → Bytes
  | position, [] => line.drop position
  | position, m :: rest =>
      (line.drop position).take (m.start - position) ++ g.matchText line m ++
        g.painted line m.stop rest

/-- Shows a line, or its parts that match. It is one that was found, or only near to one. -/
def showLine (g : Grep) (name : String) (isFound : Bool) (line offset : Nat) (text : Bytes) :
    Tool Unit := do
  let hasMatches := isFound != g.inverts
  if g.output = .parts then
    if hasMatches then
      forEach (g.matchesIn text) fun m =>
        put (g.head name (if g.inverts then '-' else ':') line (offset + m.start) false ++
          g.matchText text m ++ [g.ending])
  else
    put (g.head name (if isFound then ':' else '-') line offset text.isEmpty ++
      (if g.colored && hasMatches then g.painted text 0 (g.matchesIn text) else text) ++
      [g.ending])

/-- Shows a line that was found, and those before it that belong to it. -/
def showFound (g : Grep) (name : String) (line : Bytes) (st : GrepState) : Tool Unit := do
  if (g.before.isSome || g.after.isSome) && st.shown && !st.adjacent then
    if let some separator := g.separator then
      put (g.tint markColor (Raw.toBytes separator) ++ [10])
  forEach st.held.reverse fun (number, offset, text) => g.showLine name false number offset text
  g.showLine name true st.line st.offset line

/-- Lines are shown, or parts of them. -/
def showsLines (g : Grep) : Bool := g.output matches .lines | .parts

/-- As many lines were found as are wanted. -/
def isSated (g : Grep) (st : GrepState) : Bool := g.most = some st.found

/-- Looks at a line. -/
def look (g : Grep) (name : String) (st : GrepState) (line : Bytes) : Tool (Next GrepState) := do
  let past := st.offset + line.length + 1
  let sated := g.isSated st
  let st := { st with line := st.line + 1 }
  if !sated && g.wants line then
    let found := { st with found := st.found + 1, resumed := past }
    if g.output matches .names _ | .nothing then return .stop found
    if st.binary && !g.text && g.showsLines then return .stop found
    if g.showsLines then g.showFound name line st
    let owed := if g.showsLines then g.after.getD 0 else 0
    let st := { found with
      held := [], owed := owed, shown := true, adjacent := true, offset := past }
    return if g.isSated st && owed = 0 then .stop st else .more st
  else if 0 < st.owed then
    g.showLine name false st.line st.offset line
    let st := { st with owed := st.owed - 1, offset := past }
    return if sated && st.owed = 0 then .stop st else .more st
  else
    let kept := ((st.line, st.offset, line) :: st.held).take (g.before.getD 0)
    let lost := kept.length < st.held.length + 1
    return .more { st with held := kept, adjacent := st.adjacent && !lost, offset := past }

/-- Looks at the lines that come. The second result tells how many bytes are left if some may be. -/
def scan (g : Grep) (name : String) (d : Descriptor) :
    Nat → Bytes → GrepState → Tool (GrepState × Option Nat × Option Errno)
  | 0, _, st => return (st, none, none)
  | bound + 1, carried, st => do
      match ← block d with
      | .error e => return (st, none, some e)
      | .ok bytes =>
          if bytes.isEmpty then
            if carried.isEmpty then return (st, none, none)
            match ← g.look name st carried with
            | .more st =>
                return ({ st with offset := st.offset - 1, resumed := st.resumed - 1 }, none, none)
            | .stop st => return ({ st with offset := st.offset - 1 }, some 0, none)
          let isBinary := st.binary || (!g.text && g.ending = 10 && bytes.contains 0)
          if isBinary && g.passesBinary then return (st, none, none)
          let st := { st with binary := isBinary }
          let zap (bytes : Bytes) : Bytes :=
            if isBinary then bytes.map fun b => if b = 0 then 10 else b else bytes
          let (lines, rest) := cutLines g.ending (carried ++ zap bytes)
          match ← eachLine (g.look name) rest.length lines st with
          | (st, none) => g.scan name d bound rest st
          | (st, some left) => return (st, some left, none)

/-- What comes would only be what is shown. -/
def wouldFeed (g : Grep) (d : Descriptor) : Tool Bool := do
  if !g.showsLines || g.most = some 1 then return false
  instant do
    match ← regular? d, ← regular? Descriptor.output with
    | some (n, input), some (m, output) =>
        return n = m && !(d = Descriptor.input && input.position = output.position)
    | _, _ => return false

/-- What is wrong with a file, unless nobody wants to know. -/
def complain (g : Grep) (text : String) : Tool Unit := do
  if !g.silent then warn text
  blame 2

/-- The width of the greatest number there is. -/
def widest : Nat := 19

/-- How wide numbers are in a file that is read: as the number of its bytes, or of the greatest number
of a line that it may have. -/
def widthFor (g : Grep) (d : Descriptor) : Instant Nat := do
  if !g.tabs then return 0
  match ← regular? d with
  | some (n, _) => return (toString (World.size (← get) n + (if g.numbers then 1 else 0))).length
  | none => return widest

/-- Searches what a descriptor stands for. -/
def searchIn (g : Grep) (name : String) (d : Descriptor) (total : GrepTotal) : Tool GrepTotal := do
  if ← g.wouldFeed d then
    g.complain (name ++ ": input file is also the output")
    return total
  let g := { g with width := ← instant (g.widthFor d) }
  let (st, left, e) ← g.scan name d patience [] { shown := total.shown }
  if let some e := e then g.complain (named name e)
  if g.isSated st && !(g.output matches .names _ | .nothing) then
    giveBack d (st.offset + left.getD 0 - st.resumed)
  else if left.isSome && d = Descriptor.input then
    if let some (n, _) ← instant (regular? d) then
      let size := World.size (← world) n
      instant (World.moveTo d size)
  let any := 0 < st.found
  match g.output with
  | .counts => put (g.label? name ':' ++ Raw.toBytes (toString st.found ++ "\n"))
  | .names negated =>
      if any != negated then put (g.nameText name ++ [if g.zeros then 0 else 10])
  | .lines | .parts =>
      if st.binary && any && !g.text then warn (name ++ ": binary file matches")
  | .nothing => pure ()
  return ⟨total.found || any, st.shown⟩

def isExcluded (g : Grep) (name : String) : Bool :=
  let last := (Path.names name).getLast?.getD ""
  let fits (pattern : String) : Bool :=
    Glob.matchesAll (Glob.ofText pattern) last.toList ||
      Glob.matchesAll (Glob.ofText pattern) name.toList
  g.excluded.any fits || (!g.included.isEmpty && !g.included.any fits)

/-- A file of this kind is passed over. -/
def isSkipped (g : Grep) (top : Bool) (kind : Kind) : Bool :=
  kind != .regular && kind != .directory &&
    (g.skipsDevices.getD !top || (kind = .link && !top))

/-- Searches a file, or everything in a directory. -/
def searchAt (g : Grep) : Nat → Bool → String → GrepTotal → Tool GrepTotal
  | 0, _, _, total => return total
  | depth + 1, top, path, total => do
      let name := if g.barely && path.startsWith "./" then String.ofList (path.toList.drop 2) else path
      match ← instant (Stat.ofPath (top || g.follows) path) with
      | .error e =>
          g.complain (named name e)
          return total
      | .ok s =>
          if s.kind = .directory && g.skipsDirectories then return total
          else if s.kind = .directory && g.recursive then
            let last := (Path.names path).getLast?.getD ""
            if g.excludedDirectories.any fun p =>
                Glob.matchesAll (Glob.ofText p) last.toList then return total
            let names := ((← world).system.tree.children s.node).map (·.1)
            let base := if path.endsWith "/" then path else path ++ "/"
            names.foldlM (fun total name => g.searchAt depth false (base ++ name) total) total
          else if g.isSkipped top s.kind || (s.kind != .directory && g.isExcluded path) then
            return total
          else
            match ← openInput path with
            | .error e =>
                g.complain (named name e)
                return total
            | .ok d => do
                let total ← g.searchIn name d total
                close d
                return total

def searchAll (g : Grep) : List String → GrepTotal → Tool Bool
  | [], total => return total.found
  | operand :: rest, total => do
      let total ←
        if operand = "-" then g.searchIn g.label Descriptor.input total
        else g.searchAt 1000 true operand total
      if total.found && g.hurries then exit 0
      g.searchAll rest total

end Grep

def grepLetters : String := "0123456789A:B:C:D:EFGHILPTUVX:abcd:e:f:hilm:noqRrsuvwxyZz"

def grepWords : String :=
  ("basic-regexp=G extended-regexp=E fixed-regexp=F fixed-strings=F perl-regexp=P " ++
      "after-context:=A before-context:=B binary-files: byte-offset=b context:=C color:: " ++
      "colour::=color count=c devices:=D directories:=d exclude: exclude-from: exclude-dir: " ++
      "file:=f files-with-matches=l files-without-match=L group-separator: help include: " ++
      "ignore-case=i no-ignore-case initial-tab=T label: line-buffered line-number=n " ++
      "line-regexp=x max-count:=m no-filename=h no-group-separator no-messages=s null=Z " ++
      "null-data=z only-matching=o quiet=q recursive=r dereference-recursive=R regexp:=e " ++
      "invert-match=v silent=q text=a binary=U unix-byte-offsets=u version with-filename=H " ++
      "word-regexp=w")

/-- Tells how the tool is called, and ends. -/
def grepUsage (code : Int) : Tool Unit := do
  let name := (← read).name
  say ("Usage: " ++ name ++ " [OPTION]... PATTERNS [FILE]...\nTry '" ++ name ++
    " --help' for more information.\n")
  exit code

/-- What can be done with directories. -/
def directoryChoices : Choices := [["read"], ["recurse"], ["skip"]]

/-- The lines of a text, of which the last one may lack its newline. -/
def patternLines (text : String) : List String := (pieces (· = '\n') text.toList).map String.ofList

/-- What options ask for that is settled as they are read. -/
structure GrepRequest where
  /-- The letter of how patterns are read. -/
  matcher : Option String := none
  patterns : Option (List String) := none
  excluded : List String := []

namespace GrepRequest

/-- The names of the ways to read patterns, with their letters. -/
def matchers : List (String × String) := [
  ("grep", "G"), ("egrep", "E"), ("fgrep", "F"), ("awk", "E"), ("gawk", "E"), ("posixawk", "E"),
  ("perl", "P")]

def choose (r : GrepRequest) (matcher : String) : Tool GrepRequest := do
  if r.matcher.any (· != matcher) then fail 2 "conflicting matchers specified"
  return { r with matcher := some matcher }

def addPatterns (r : GrepRequest) (more : List String) : GrepRequest :=
  { r with patterns := some (r.patterns.getD [] ++ more) }

/-- The lines of a file that an option names. -/
def linesAt (path : String) : Tool (List String) := do
  withInput path (fun e => fail 2 (named path e)) fun d => do
    match ← everything d with
    | .error e => fail 2 (named path e)
    | .ok bytes => return (linesOf 10 bytes).map Raw.ofBytes

/-- Takes up an option, which may be wrong. -/
def take (r : GrepRequest) (key value : String) : Tool GrepRequest := do
  match key with
  | "E" | "F" | "G" | "P" => r.choose key
  | "X" =>
      match matchers.lookup value with
      | some matcher => r.choose matcher
      | none => fail 2 ("invalid matcher " ++ value)
  | "e" => return r.addPatterns (patternLines value)
  | "f" => return r.addPatterns (← linesAt value)
  | "exclude-from" =>
      return { r with excluded := r.excluded ++ (← linesAt value).filter fun l =>
        !l.isEmpty && !l.startsWith "#" }
  | "A" | "B" | "C" =>
      if (count? value).isNone then fail 2 (value ++ ": invalid context length argument")
      return r
  | "m" =>
      if !(Numeral.decimal? value.toList matches some (_, [])) then fail 2 "invalid max count"
      return r
  | "D" =>
      if !(["read", "skip"].contains value) then fail 2 "unknown devices method"
      return r
  | "binary-files" =>
      if !(["binary", "text", "without-match"].contains value) then
        fail 2 "unknown binary-files type"
      return r
  | "d" =>
      match directoryChoices.meaning value with
      | .ok _ => return r
      | .error wrong => do
          warn (wrong ++ " argument " ++ Quoting.plain value ++ " for '--directories'")
          say directoryChoices.shown
          grepUsage 1
          return r
  | "u" =>
      warn "warning: --unix-byte-offsets (-u) is obsolete"
      return r
  | _ => return r

end GrepRequest

/-- The expression that stands for any of some patterns. -/
def grepRegex (fixed extended : Bool) (patterns : List String) : Tool Regex := do
  let dialect : Regex.Dialect :=
    { extended := extended, strays := extended, loose := extended, careful := true }
  let list ← patterns.eraseDups.mapM fun text => do
    if fixed then return Regex.ofText text.toList
    match Regex.parse dialect text.toList with
    | .error e => fail 2 e
    | .ok (r, reading) => do
        for name in reading.idle do warn ("warning: " ++ name ++ " at start of expression")
        return r
  return match list with
    | [] => .nothing
    | r :: rest => rest.foldl Regex.either r

/-- How many lines are shown around those that were found, if an option says so. -/
def contextSize (o : Options) (key : String) : Option Nat :=
  match ([key, "C"].findSome? o.value?).bind count? with
  | some n => some n
  | none =>
      (String.join ((o.given.map (·.1)).filter fun key =>
        key.length = 1 && key.all Char.isDigit)).toNat?

/-- What a descriptor stands for takes everything and keeps nothing. -/
def isVoid (d : Descriptor) : Instant Bool := do
  match ← World.file? d with
  | none => return false
  | some file =>
      match file.stream with
      | .node n => do
          let content := (← get).system.tree.content n
          return (content matches .device .null)
      | _ => return false

/-- Searches with patterns that are read as `preset` says if no option says otherwise. -/
def grepBy (preset : Option String) : Tool Unit := do
  let (o, trouble) := Options.parse (Options.known grepLetters grepWords) (← read).arguments
  let request ← o.given.foldlM (fun (r : GrepRequest) (key, value) => r.take key value)
    { matcher := preset }
  if let some e := trouble then
    warn e
    grepUsage 2
  let has (key : String) : Bool := o.isSet key
  let most := match (o.value? "m").bind fun text => Numeral.decimal? text.toList with
    | some (n, _) => if n < 0 then none else some n.toNat
    | none => none
  let (patterns, operands) ← match request.patterns, o.operands with
    | some patterns, operands => pure (patterns, operands)
    | none, text :: rest => pure (patternLines text, rest)
    | none, [] => do
        grepUsage 2
        pure ([], [])
  let isBarren := patterns.isEmpty
  let isWhole := has "x" && !isBarren
  let isWord := has "w" && !has "x" && !isBarren
  let inverts := has "v" != isBarren
  let kind := request.matcher.getD "G"
  let pattern ← grepRegex (kind = "F") (kind = "E" || kind = "P") patterns
  let directories := (o.value? "d").bind directoryChoices.meaning?
  let recursive := has "r" || has "R" || directories = some "recurse"
  let barely := operands.isEmpty && recursive
  let operands := if operands.isEmpty then [if recursive then "." else "-"] else operands
  let isOneDirectory ← match operands with
    | [only] => instant (testPath 'd' only)
    | _ => pure true
  let labels := match o.last? ["H", "h"] with
    | some key => key = "H"
    | none => if recursive then isOneDirectory else 1 < operands.length
  let output : GrepOutput :=
    if has "q" || (← instant (isVoid Descriptor.output)) then .nothing
    else match o.last? ["l", "L"] with
      | some key => .names (key = "L")
      | none => if has "c" then .counts else if has "o" then .parts else .lines
  let isHopeless := inverts && !isWhole && !isWord && patterns.all (·.isEmpty)
  if (most = some 0 || isHopeless) && !(output matches .names true) then exit 1
  let binary := o.value? "binary-files"
  let g : Grep := {
    pattern := pattern, output := output, most := most, labels := labels, recursive := recursive
    folds := (o.last? ["i", "y", "no-ignore-case"]).any (· != "no-ignore-case")
    inverts := inverts, hurries := has "q", barely := barely
    numbers := has "n", offsets := has "b", zeros := has "Z", silent := has "s", tabs := has "T"
    colored := ((o.value? "color").bind whenChoices.meaning?) = some "always"
    accept := fun c d =>
      if isWhole then c.before.isNone && d.rest.isEmpty
      else !isWord || (!c.before.any Regex.isWord && !d.rest.head?.any Regex.isWord)
    label := (o.value? "label").getD Grep.inputName
    text := has "a" || binary = some "text"
    passesBinary := has "I" || binary = some "without-match"
    ending := ending o
    before := contextSize o "B"
    after := contextSize o "A"
    separator := match o.last? ["group-separator", "no-group-separator"] with
      | some "no-group-separator" => none
      | some _ => o.value? "group-separator"
      | none => some "--"
    skipsDevices := (o.value? "D").map (· = "skip")
    follows := has "R", skipsDirectories := directories = some "skip"
    included := (o.given.filter (·.1 = "include")).map (·.2)
    excluded := (o.given.filter (·.1 = "exclude")).map (·.2) ++ request.excluded
    excludedDirectories := (o.given.filter (·.1 = "exclude-dir")).map (·.2) }
  let any ← g.searchAll operands {}
  let code := (← get).code
  exit (if code != 0 then code else if any then 0 else 1)

def grep : Tool Unit := grepBy none

/-- The same tool under an older name. It speaks of itself as `grep`. -/
def grepOlder (preset : String) : Tool Unit :=
  withReader (fun call => { call with name := "grep" }) (grepBy (some preset))

end LineShell.Machine.Tool
