import LineShell.Machine.Glob
import LineShell.Machine.Numeral
import LineShell.Machine.Order
import LineShell.Machine.Tool.Copying
import LineShell.Machine.Tool.Making

/-!
A tool that lists files and what is in directories.
-/

namespace LineShell.Machine.Tool

/-- How the names of a list are laid out. -/
inductive Layout where
  | single
  | long
  /-- Side by side, with commas between them. -/
  | commas
  /-- In columns, which are filled one after another. -/
  | down
  /-- In columns, of which lines are filled. -/
  | across
  deriving DecidableEq, Repr

/-- What is shown behind a name to tell what kind of file it is. -/
inductive Marks where
  | none
  | directories
  /-- Kinds of files, but not that one can be run. -/
  | kinds
  | all
  deriving DecidableEq, Repr

structure Listing where
  layout : Layout
  marks : Marks
  /-- Names that begin with a point are shown, and if so, those of the directory and the one above. -/
  hidden : Bool
  dots : Bool
  skipped : List String
  asFiles : Bool
  recursive : Bool
  follows : Bool
  order : String
  reversed : Bool
  directoriesFirst : Bool
  quotes : Bool
  escapes : Bool
  questions : Bool
  numbers : Bool
  blocks : Bool
  owner : Bool
  group : Bool
  numericOwner : Bool
  human : Bool
  width : Nat
  titles : Bool
  ending : String

/-- A file to be listed. -/
structure Listed where
  /-- The name that is shown, and the path that leads to it. -/
  name : String
  path : String
  stat : Stat
  /-- It is a directory or a link to one. -/
  leads : Bool

namespace Listing

def extension (name : String) : String :=
  let cs := name.toList.reverse
  let after := cs.takeWhile (· != '.')
  if after.length = cs.length then "" else String.ofList ('.' :: after.reverse)

/-- Which of two files comes first. -/
def compare (l : Listing) (a b : Listed) : Ordering :=
  let byName := Order.bytes a.name.toList b.name.toList
  match l.order with
  | "time" => (Ord.compare b.stat.stamp a.stat.stamp).then byName
  | "size" => (Ord.compare b.stat.size a.stat.size).then byName
  | "extension" =>
      (Order.bytes (extension a.name).toList (extension b.name).toList).then byName
  | "version" => (Order.version a.name.toList b.name.toList).then byName
  | _ => byName

def sorted (l : Listing) (files : List Listed) : List Listed :=
  let isBefore (a b : Listed) : Bool :=
    if l.reversed then l.compare b a != .gt else l.compare a b != .gt
  let files := if l.order = "none" then files else files.mergeSort isBefore
  if l.directoriesFirst then
    files.filter (·.leads) ++ files.filter (!·.leads)
  else files

/-- What stands behind a name. -/
def mark (l : Listing) (s : Stat) : String :=
  match l.marks, s.kind with
  | .none, _ => ""
  | _, .directory => "/"
  | .directories, _ => ""
  | _, .link => "@"
  | _, .pipe => "|"
  | .all, .regular => if s.mode &&& 0o111 != 0 then "*" else ""
  | _, _ => ""

def cEscape (quotes : Bool) (name : String) : String :=
  String.ofList (name.toList.flatMap fun c =>
    if c = '\\' then ['\\', '\\']
    else if c = '"' && quotes then ['\\', '"']
    else if c = ' ' && !quotes then ['\\', ' ']
    else if Class.isPrintable c then [c]
    else Quoting.escape c)

/-- A name as it is shown. -/
def shown (l : Listing) (name : String) : String :=
  if l.quotes then "\"" ++ cEscape true name ++ "\""
  else if l.escapes then cEscape false name
  else if l.questions then
    String.ofList (name.toList.map fun c => if Class.isPrintable c then c else '?')
  else name

def blockCount (s : Stat) : Nat :=
  match s.kind with
  | .regular => (s.size + 4095) / 4096 * 4
  | .directory => 4
  | _ => 0

/-- A size in few characters. -/
def humanSize (n : Nat) : String :=
  let rec go : Nat → Nat → List String → String
    | 0, n, _ | _, n, [] => toString n
    | bound + 1, scale, unit :: units =>
        if n < scale * 1024 || units.isEmpty then
          if n < scale * 10 then
            let tenths := (n * 10 + scale - 1) / scale
            if tenths < 100 then toString (tenths / 10) ++ "." ++ toString (tenths % 10) ++ unit
            else toString ((n + scale - 1) / scale) ++ unit
          else toString ((n + scale - 1) / scale) ++ unit
        else go bound (scale * 1024) units
  if n < 1024 then toString n else go 8 1024 ["K", "M", "G", "T", "P", "E"]

def sizeText (l : Listing) (n : Nat) : String := if l.human then humanSize n else toString n

def blocksText (l : Listing) (n : Nat) : String :=
  if l.human then humanSize (n * 1024) else toString n

def kindLetter (s : Stat) : String :=
  match s.kind with
  | .regular => "-"
  | .directory => "d"
  | .link => "l"
  | .character => "c"
  | .pipe => "p"

/-- The name with what is shown before and behind it. -/
def label (l : Listing) (f : Listed) : String :=
  (if l.numbers then toString (f.stat.node + 2) ++ " " else "") ++
    (if l.blocks then l.blocksText (blockCount f.stat) ++ " " else "") ++
    l.shown f.name ++ l.mark f.stat

def longestOf (texts : List String) : Nat := texts.foldl (fun n t => max n t.length) 0

def longLines (l : Listing) (files : List Listed) : Tool (List String) := do
  let count := longestOf (files.map fun f => toString f.stat.names)
  let size := longestOf (files.map fun f => l.sizeText f.stat.size)
  let user := if l.numericOwner then "0" else "root"
  files.mapM fun f => do
    let target ← if f.stat.kind = .link then do
        let text ← match (← world).system.tree.content f.stat.node with
          | .link target => pure target
          | _ => pure ""
        pure (" -> " ++ l.shown text)
      else pure ""
    let markText := if f.stat.kind = .link then "" else l.mark f.stat
    return (if l.numbers then toString (f.stat.node + 2) ++ " " else "") ++
      (if l.blocks then l.blocksText (blockCount f.stat) ++ " " else "") ++
      kindLetter f.stat ++ modeLetters f.stat.mode ++ " " ++
      padLeft count (toString f.stat.names) ++ " " ++
      (if l.owner then user ++ " " else "") ++ (if l.group then user ++ " " else "") ++
      padLeft size (l.sizeText f.stat.size) ++ " Jan  1 00:00 " ++
      l.shown f.name ++ markText ++ target

/-- The names side by side, with commas, in lines of a width. -/
def commaText (width : Nat) : List String → Nat → String
  | [], _ => ""
  | name :: rest, column =>
      let separator := if column = 0 then ""
        else if column + name.length + 2 < width then ", " else ",\n"
      let start := if separator = ", " then column + 2 else 0
      separator ++ name ++ commaText width rest (start + name.length)

/-- The width of each of so many columns. -/
def columnWidths (layout : Layout) (names : List String) (columns : Nat) : List Nat :=
  let rows := (names.length + columns - 1) / columns
  let placed := names.zipIdx
  (List.range columns).map fun column =>
    let here := placed.filter fun (_, i) =>
      (if layout = .down then i / rows else i % columns) = column
    let gap := if column + 1 = columns then 0 else 2
    here.foldl (fun w (name, _) => max w (name.length + gap)) 3

/-- Goes on from one column of the terminal to another. -/
def indent : Nat → Nat → Nat → List Char
  | 0, _, _ => []
  | bound + 1, here, goal =>
      if goal ≤ here then []
      else if (here + 1) / 8 < goal / 8 then '\t' :: indent bound (here / 8 * 8 + 8) goal
      else ' ' :: indent bound (here + 1) goal

def columnLine : List (String × Nat) → Nat → String
  | [], _ => ""
  | [(name, _)], _ => name
  | (name, width) :: rest, start =>
      let goal := start + width
      name ++ String.ofList (indent (goal + 1) (start + name.length) goal) ++ columnLine rest goal

/-- The names in as many columns as there is room for. -/
def columnText (layout : Layout) (width : Nat) (names : List String) : String :=
  if names.isEmpty then ""
  else
    let most := max 1 (min names.length (width / 3 + if width % 3 = 0 then 0 else 1))
    let fits (columns : Nat) : Bool :=
      decide ((columnWidths layout names columns).foldl (· + ·) 0 < width)
    let columns := (((List.range most).map fun n => most - n).find? fits).getD 1
    let rows := (names.length + columns - 1) / columns
    let widths := columnWidths layout names columns
    let placed := names.zipIdx
    String.join ((List.range rows).map fun row =>
      let here := placed.filter fun (_, i) =>
        (if layout = .down then i % rows else i / columns) = row
      columnLine ((here.map (·.1)).zip widths) 0 ++ "\n")

/-- Shows files. -/
def show_ (l : Listing) (files : List Listed) : Tool Unit := do
  let labels := files.map l.label
  match l.layout with
  | .single => putText (String.join (labels.map (· ++ l.ending)))
  | .long => putText (String.join ((← l.longLines files).map (· ++ l.ending)))
  | .commas => if !labels.isEmpty then putText (commaText l.width labels 0 ++ "\n")
  | layout => putText (columnText layout l.width labels)

/-- What is told of a file, or if it cannot be followed, of the link to it. -/
def statOf (follows : Bool) (path : String) : Tool (Except Errno Stat) := do
  match ← instant (Stat.ofPath follows path) with
  | .ok s => return .ok s
  | .error e => if follows then instant (Stat.ofPath false path) else return .error e

def listed (name path : String) (s : Stat) : Tool Listed := do
  let leads ← if s.kind = .link then instant (testPath 'd' path) else pure (decide (s.kind = .directory))
  return ⟨name, path, s, leads⟩

def isShown (l : Listing) (name : String) : Bool :=
  (l.hidden || !name.startsWith ".") &&
    !l.skipped.any fun p => Glob.matchesAll (Glob.ofText p) name.toList

/-- Shows what is in a directory, and tells which directories are in it. -/
def showDirectory (l : Listing) (path : String) (n : NodeId) : Tool (List Listed) := do
  let names ← namesWithin n
  let names := (if l.dots then [".", ".."] else []) ++ names.filter l.isShown
  let files ← names.filterMapM fun name => do
    match ← statOf l.follows (below path name) with
    | .ok s => return some (← listed name (below path name) s)
    | .error _ => return none
  let files := l.sorted files
  if l.layout = .long || l.blocks then
    let total := files.foldl (fun n f => n + blockCount f.stat) 0
    putText ("total " ++ l.blocksText total ++ "\n")
  l.show_ files
  return files.filter fun f => f.stat.kind = .directory && f.name != "." && f.name != ".."

/-- Shows directories, and if that is wanted what is in those within them. -/
def showAll (l : Listing) : Nat → Bool → List Listed → Tool Bool
  | 0, first, _ | _, first, [] => return first
  | depth + 1, first, f :: rest => do
      if l.titles then
        putText ((if first then "" else "\n") ++ l.shown f.path ++ ":\n")
      let within ← l.showDirectory f.path f.stat.node
      let first ← if l.recursive then l.showAll depth false within else pure false
      l.showAll depth first rest

end Listing

def lsLetters : String := "1aAbBcCdfFgGhHiI:klLmnNopqQrRsStT:uUvw:xXZ"

def lsWords : String :=
  ("all=a escape=b directory=d dired=D full-time group-directories-first human-readable=h " ++
      "inode=i kibibytes=k numeric-uid-gid=n no-group=G hide-control-chars=q reverse=r size=s " ++
      "width:=w almost-all=A ignore-backups=B classify:: file-type si " ++
      "dereference-command-line=H dereference-command-line-symlink-to-dir hide: ignore:=I " ++
      "indicator-style: dereference=L literal=N quote-name=Q quoting-style: recursive=R format: " ++
      "show-control-chars sort: tabsize:=T time: time-style: zero color:: hyperlink:: " ++
      "block-size: context=Z author")

def ls : Tool Unit := do
  let o ← options 2 lsLetters lsWords
  let has (key : String) : Bool := o.isSet key
  let long := ["l", "n", "g", "o", "full-time"].any has
  let layout : Layout := match o.last? ["l", "n", "g", "o", "full-time", "1", "m", "C", "x"] with
    | some "m" => .commas
    | some "C" => .down
    | some "x" => .across
    | some "1" => if long then .long else .single
    | some _ => .long
    | none => match (o.value? "format").getD "" with
      | "long" | "verbose" => .long
      | "commas" => .commas
      | "across" | "horizontal" => .across
      | "vertical" => .down
      | _ => .single
  let marks : Marks := match o.last? ["F", "p", "file-type", "classify"] with
    | some "p" => .directories
    | some "file-type" => .kinds
    | some _ => .all
    | none => .none
  let order := match o.last? ["t", "S", "X", "v", "U", "f", "sort"] with
    | some "t" => "time"
    | some "S" => "size"
    | some "X" => "extension"
    | some "v" => "version"
    | some "sort" => (o.value? "sort").getD "name"
    | some _ => "none"
    | none => "name"
  let width ← match o.value? "w" with
    | none => pure 80
    | some text => match Numeral.decimal? text.toList with
      | some (.ofNat n, []) => pure (if n = 0 then 1000000 else n)
      | _ => fail 2 ("invalid line width: " ++ Quoting.plain text)
  let operands := if o.operands.isEmpty then ["."] else o.operands
  let l : Listing := {
    layout := layout, marks := marks, order := order, width := width
    hidden := has "a" || has "A" || has "f"
    dots := o.last? ["a", "A", "f"] = some "a" || (has "f" && !has "A")
    skipped := ((o.given.filter fun (key, _) => key = "I" || key = "hide").map (·.2)) ++
      (if has "B" then ["*~"] else [])
    asFiles := has "d", recursive := has "R" && !has "d", follows := has "L"
    reversed := has "r", directoriesFirst := has "group-directories-first"
    quotes := has "Q" || o.value? "quoting-style" = some "c"
    escapes := has "b" || o.value? "quoting-style" = some "escape"
    questions := has "q", numbers := has "i", blocks := has "s"
    owner := !has "g", group := !(has "o" || has "G"), numericOwner := has "n", human := has "h"
    titles := 1 < operands.length || has "R"
    ending := if has "zero" then "\x00" else "\n" }
  let followsOperands := has "L" || has "H" || !(l.layout = .long || l.asFiles || marks = .all)
  let found ← operands.filterMapM fun path => do
    let onlyDirectories := followsOperands && !has "L" && !has "H"
    match ← (if has "L" then instant (Stat.ofPath true path)
        else Listing.statOf followsOperands path) with
    | .error e => do
        warn ("cannot access " ++ quoted path e)
        blame 2
        return none
    | .ok s => do
        let s ← if onlyDirectories && s.kind != .directory then do
            match ← instant (Stat.ofPath false path) with
            | .ok own => pure own
            | .error _ => pure s
          else pure s
        return some (← Listing.listed path path s)
  let isDirectory (f : Listed) : Bool := f.stat.kind = .directory && !l.asFiles
  let files := l.sorted (found.filter (!isDirectory ·))
  let directories := l.sorted (found.filter isDirectory)
  if !files.isEmpty then l.show_ files
  let _ ← l.showAll (deepestTree * deepestTree) files.isEmpty directories

end LineShell.Machine.Tool
