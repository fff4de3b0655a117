import LineShell.Machine.Order
import LineShell.Machine.Stat
import LineShell.Machine.Tool.Copying

/-!
Tools for lines in order: they sort them, or tell which are the same.
-/

namespace LineShell.Machine.Tool

/-! ### Keys -/

/-- How the keys of lines are compared. -/
structure Manner where
  /-- Which number, if any, is meant by a key: the letter of the option. -/
  kind : Option Char := none
  folds : Bool := false
  /-- Only blanks, letters and digits count. -/
  dictionary : Bool := false
  /-- Only characters that can be printed count. -/
  printable : Bool := false
  reverse : Bool := false
  startBlanks : Bool := false
  endBlanks : Bool := false
  deriving DecidableEq, Repr

/-- The part of a line that is compared. -/
structure Key where
  startField : Nat
  startChar : Nat
  /-- The last field and character, if there is a last one. -/
  stop : Option (Nat × Nat)
  manner : Manner
  deriving DecidableEq, Repr

namespace Manner

/-- The letters of the kinds of numbers. -/
def kinds : List Char := ['g', 'h', 'M', 'n', 'R', 'V']

/-- Takes a letter into account, which stands at the start or at the end of a key. -/
def add? (m : Manner) (atStart atEnd : Bool) (c : Char) : Option Manner :=
  match c with
  | 'b' => some { m with
      startBlanks := m.startBlanks || atStart, endBlanks := m.endBlanks || atEnd }
  | 'd' => some { m with dictionary := true }
  | 'f' => some { m with folds := true }
  | 'i' => some { m with printable := true }
  | 'r' => some { m with reverse := true }
  | c => if kinds.contains c then some { m with kind := some c } else none

/-- Nothing was said about how to compare. -/
def isDefault (m : Manner) : Bool := { m with reverse := false } = {}

/-- What counts of a key. -/
def shown (m : Manner) (key : List Char) : List Char :=
  let key := if m.dictionary then key.filter fun c => Class.isBlank c || c.isAlphanum else key
  let key := if m.printable then key.filter Class.isPrintable else key
  if m.folds then key.map Char.toUpper else key

def compare (m : Manner) (a b : List Char) : Ordering :=
  let a := m.shown a
  let b := m.shown b
  let order := match m.kind with
    | some 'n' => Order.numeric a b
    | some 'g' => Order.general a b
    | some 'h' => Order.withUnits a b
    | some 'M' => Order.month a b
    | some 'V' => Order.version a b
    | _ => Order.bytes a b
  if m.reverse then order.swap else order

end Manner

namespace Key

/-- The rest of a line after one field. Without a separator, blanks before a field belong to it. -/
def dropField (separator : Option Char) (keepsSeparator : Bool) (line : List Char) : List Char :=
  match separator with
  | some s =>
      let rest := line.dropWhile (· != s)
      if keepsSeparator then rest else rest.drop 1
  | none => (line.dropWhile Class.isBlank).dropWhile (!Class.isBlank ·)

def dropFields (separator : Option Char) : Nat → List Char → List Char
  | 0, line => line
  | _, [] => []
  | n + 1, line => dropFields separator n (dropField separator false line)

/-- What follows the end of a key that ends with a whole field. -/
def afterFields (separator : Option Char) : Nat → List Char → List Char
  | 0, line => line
  | _, [] => []
  | 1, line => dropField separator true line
  | n + 1, line => afterFields separator n (dropField separator false line)

/-- The part of a line that is the key. -/
def part (separator : Option Char) (k : Key) (line : List Char) : List Char :=
  let skip (b : Bool) (l : List Char) : List Char := if b then l.dropWhile Class.isBlank else l
  let start := (skip k.manner.startBlanks (dropFields separator k.startField line)).drop k.startChar
  let rest := match k.stop with
    | none => []
    | some (field, 0) => afterFields separator (field + 1) line
    | some (field, chars) =>
        (skip k.manner.endBlanks (dropFields separator field line)).drop chars
  start.take (start.length - rest.length)

def sortFailure : Int := 2

variable {α : Type}

def invalid (text why : String) : Tool α :=
  fail sortFailure (why ++ ": invalid field specification " ++ Quoting.plain text)

/-- Reads a count in the text of a key. -/
def count (what : String) (text : List Char) : Tool (Nat × List Char) := do
  if text.head?.any Char.isDigit then return Class.number 10 text.length 0 text
  else fail sortFailure (what ++ ": invalid count at start of " ++
    Quoting.plain (String.ofList text))

def letters (atStart atEnd : Bool) : List Char → Manner → Manner × List Char
  | [], m => (m, [])
  | c :: rest, m =>
      match m.add? atStart atEnd c with
      | some m => letters atStart atEnd rest m
      | none => (m, c :: rest)

/-- Reads a key. -/
def ofText (text : String) : Tool Key := do
  let (field, rest) ← count "invalid number at field start" text.toList
  if field = 0 then invalid text "field number is zero"
  let (char, rest) ← match rest with
    | '.' :: rest => do
        let (n, rest) ← count "invalid number after '.'" rest
        if n = 0 then invalid text "character offset is zero"
        pure (n - 1, rest)
    | rest => pure (0, rest)
  let (manner, rest) := letters true false rest {}
  match rest with
  | [] => return ⟨field - 1, char, none, manner⟩
  | ',' :: rest => do
      let (last, rest) ← count "invalid number after ','" rest
      if last = 0 then invalid text "field number is zero"
      let (lastChar, rest) ← match rest with
        | '.' :: rest => count "invalid number after '.'" rest
        | rest => pure (0, rest)
      let (manner, rest) := letters false true rest manner
      if !rest.isEmpty then invalid text "stray character in field spec"
      return ⟨field - 1, char, some (last - 1, lastChar), manner⟩
  | _ => invalid text "stray character in field spec"

end Key

/-! ### Sorting -/

/-- How lines are put in order. -/
structure Sorting where
  separator : Option Char
  keys : List Key
  /-- How whole lines are compared where all keys are the same. -/
  lastResort : Bool
  reverse : Bool

namespace Sorting

def compareKeys (s : Sorting) (a b : List Char) : List Key → Ordering
  | [] => .eq
  | k :: rest =>
      match k.manner.compare (k.part s.separator a) (k.part s.separator b) with
      | .eq => compareKeys s a b rest
      | o => o

def compare (s : Sorting) (a b : List Char) : Ordering :=
  match s.compareKeys a b s.keys with
  | .eq =>
      if s.keys.isEmpty || s.lastResort then
        let order := Order.bytes a b
        if s.reverse then order.swap else order
      else .eq
  | o => o

/-- Drops each line that is the same as the one kept last. -/
def dropSame (s : Sorting) : Option (List Char) → List (List Char) → List (List Char)
  | _, [] => []
  | some last, line :: rest =>
      if s.compare last line = .eq then s.dropSame (some last) rest
      else line :: s.dropSame (some line) rest
  | none, line :: rest => line :: s.dropSame (some line) rest

/-- The number of the first line that is out of order, and the line. -/
def disorder? (s : Sorting) (strict : Bool) : Nat → List (List Char) → Option (Nat × List Char)
  | n, a :: b :: rest =>
      let order := s.compare a b
      if order = .gt || (strict && order = .eq) then some (n + 1, b)
      else disorder? s strict (n + 1) (b :: rest)
  | _, _ => none

/-- Merges lists of lines, of which each is taken to be in order. -/
def merge (s : Sorting) (lists : List (List (List Char))) : List (List Char) :=
  lists.foldl (fun done next => List.merge done next fun a b => s.compare a b != .gt) []

end Sorting

def readFailure (operand : String) (e : Errno) : String :=
  "read failed: " ++ Quoting.ifNeeded operand ++ ": " ++ e.sentence

/-- The lines of an operand as texts. -/
def sortLines (ending : UInt8) (unopened : String) (operand : String) : Tool (List (List Char)) :=
  withInput operand
    (fun e => fail Key.sortFailure (unopened ++ Quoting.ifNeeded operand ++ ": " ++ e.sentence))
    fun d => do
      match ← everything d with
      | .ok bytes => return (linesOf ending bytes).map fun line => (Raw.ofBytes line).toList
      | .error e => fail Key.sortFailure (readFailure operand e)

def incompatible {α : Type} (letters : List Char) : Tool α :=
  fail Key.sortFailure ("options '-" ++ String.ofList letters ++ "' are incompatible")

/-- Complains of letters that do not go together. -/
def checkManner (kinds : List Char) (m : Manner) : Tool Unit := do
  let isText := m.dictionary || m.printable
  let kinds := kinds.eraseDups
  let numeric := kinds.filter (· != 'R')
  let isVersion := kinds.contains 'V' || kinds.contains 'R'
  if 1 < numeric.length || (isText && kinds.any (fun c => c != 'V' && c != 'R')) ||
      (isVersion && 1 < kinds.length) then
    let letters := (if m.dictionary then ['d'] else []) ++ kinds ++ if m.printable then ['i'] else []
    incompatible (letters.mergeSort fun a b =>
      decide (a.toLower < b.toLower || (a.toLower = b.toLower && a ≤ b)))

/-! ### Options of `sort` -/

/-- Insists that an option says which number it wants. Only a number that is not too large may be
followed by one of some letters. -/
def sizeArgument (flag suffixes text : String) (high : Nat) : Tool Nat := do
  let start := text.toList.dropWhile Class.isSpace
  let body := match start with
    | '+' :: rest => rest
    | rest => rest
  let digits := body.takeWhile Char.isDigit
  let invalid : Tool Nat :=
    fail Key.sortFailure ("invalid " ++ flag ++ " argument " ++ Quoting.plain text)
  let suffix := body.drop digits.length
  let isSuffix (c : Char) : Bool := suffixes.contains c
  if digits.isEmpty then
    if text.toList.head?.any isSuffix then return 1 else invalid
  else
    let n := (Class.number 10 digits.length 0 digits).1
    match suffix with
    | [] => if n ≤ high then return n else tooLarge
    | [c] => if isSuffix c then return n else misplaced
    | _ => misplaced
where
  tooLarge : Tool Nat :=
    fail Key.sortFailure (flag ++ " argument " ++ Quoting.plain text ++ " too large")
  misplaced : Tool Nat :=
    fail Key.sortFailure ("invalid suffix in " ++ flag ++ " argument " ++ Quoting.plain text)

/-- So many files may be open at once. -/
def mostMerged : Nat := 19997

/-- Insists that so many files can be merged at once. -/
def checkMerged (text : String) : Tool Unit := do
  let n ← sizeArgument "--batch-size" "" text (10 * Size.greatest)
  if n < 2 then
    warn ("invalid --batch-size argument " ++ Quoting.plain text)
    fail Key.sortFailure "minimum --batch-size argument is '2'"
  if mostMerged < n then
    warn ("--batch-size argument " ++ Quoting.plain text ++ " too large")
    fail Key.sortFailure
      ("maximum --batch-size argument with current rlimit is " ++ toString mostMerged)

/-- What stands for `+1.2`, the old spelling of the start of a key, in the new one, and the letters
behind it. -/
def oldStart? (text : List Char) : Option (String × List Char) :=
  match text with
  | '+' :: body =>
      let digits := body.takeWhile Char.isDigit
      let rest := body.drop digits.length
      if digits.isEmpty then none
      else
        let field := (Class.number 10 digits.length 0 digits).1 + 1
        let (char, rest) := match rest with
          | '.' :: more =>
              let chars := more.takeWhile Char.isDigit
              ("." ++ toString ((Class.number 10 chars.length 0 chars).1 + 1), more.drop chars.length)
          | rest => ("", rest)
        some (toString field ++ char, rest)
  | _ => none

/-- What stands for `-1.2`, the old spelling of the end of a key, in the new one. -/
def oldStop? (text : List Char) : Option String :=
  match text with
  | '-' :: body =>
      let digits := body.takeWhile Char.isDigit
      if digits.isEmpty then none
      else
        let field := (Class.number 10 digits.length 0 digits).1
        match body.drop digits.length with
        | '.' :: more =>
            let chars := more.takeWhile Char.isDigit
            let n := (Class.number 10 chars.length 0 chars).1
            let rest := String.ofList (more.drop chars.length)
            some (if n = 0 then toString (max 1 field) ++ rest
              else toString (field + 1) ++ "." ++ toString n ++ rest)
        | rest => some (toString (max 1 field) ++ String.ofList rest)
  | _ => none

/-- The old spellings of keys in the new one. -/
def modernSort : Nat → List String → List String
  | 0, arguments => arguments
  | _, [] => []
  | bound + 1, arg :: rest =>
      if arg = "--" then arg :: rest
      else match oldStart? arg.toList with
        | none => arg :: modernSort bound rest
        | some (start, letters) =>
            if !letters.all fun c => "bdfgiMhnRrV".contains c then arg :: modernSort bound rest
            else
              let start := start ++ String.ofList letters
              match rest.head?.bind fun next => oldStop? next.toList with
              | some stop => "-k" :: (start ++ "," ++ stop) :: modernSort bound (rest.drop 1)
              | none => "-k" :: start :: modernSort bound rest

/-- The operands that a file lists. -/
def listedOperands (source : String) : Tool (List String) := do
  let bytes ← withInput source
    (fun e => fail Key.sortFailure ("open failed: " ++ Quoting.ifNeeded source ++ ": " ++ e.sentence))
    fun d => do
      match ← everything d with
      | .ok bytes => return bytes
      | .error e => fail Key.sortFailure (readFailure source e)
  let names := (linesOf 0 bytes).map Raw.ofBytes
  for (name, i) in names.zipIdx do
    if name = "-" && source = "-" then
      fail Key.sortFailure "when reading file names from stdin, no file name of '-' allowed"
    if name.isEmpty then
      fail Key.sortFailure (Quoting.ifNeeded source ++ ":" ++ toString (i + 1) ++
        ": invalid zero-length file name")
  if names.isEmpty then fail Key.sortFailure ("no input from " ++ Quoting.always source)
  return names

def sortWords : String :=
  "ignore-leading-blanks=b check::=check compress-program: debug dictionary-order=d " ++
    "ignore-case=f files0-from: general-numeric-sort=g ignore-nonprinting=i key:=k merge=m " ++
    "month-sort=M numeric-sort=n human-numeric-sort=h version-sort=V random-sort=R " ++
    "random-source: sort: output:=o reverse=r stable=s batch-size: buffer-size: " ++
    "field-separator:=t temporary-directory:=T unique=u zero-terminated=z parallel:"

/-- What a word may say about the order. -/
def orderChoices : Choices :=
  [["general-numeric"], ["human-numeric"], ["month"], ["numeric"], ["random"], ["version"]]

def orderLetters : List (String × Char) := [
  ("general-numeric", 'g'), ("human-numeric", 'h'), ("month", 'M'), ("numeric", 'n'),
  ("random", 'R'), ("version", 'V')]

def checkChoices : Choices := [["quiet", "silent"], ["diagnose-first"]]

def sort : Tool Unit := do
  let arguments := (← read).arguments
  let (o, trouble) := Options.parse
    (Options.known "bcCdfghik:mMno:rRsS:t:T:uVz" sortWords) (modernSort arguments.length arguments)
  let mut manner : Manner := {}
  let mut kinds : List Char := []
  let mut keys : List Key := []
  let mut separator : Option Char := none
  let mut target : Option String := none
  let mut checks : List Char := []
  for (key, value) in o.given do
    match key, key.toList with
    | "k", _ =>
        let k ← Key.ofText value
        keys := keys ++ [k]
    | "t", _ =>
        let cs := if value = "\\0" then ['\x00'] else value.toList
        match cs with
        | [] => fail Key.sortFailure "empty tab"
        | [c] =>
            if separator.any (· != c) then fail Key.sortFailure "incompatible tabs"
            separator := some c
        | _ => fail Key.sortFailure ("multi-character tab " ++ Quoting.plain value)
    | "o", _ =>
        if target.any (· != value) then fail Key.sortFailure "multiple output files specified"
        target := some value
    | "S", _ =>
        let _ ← sizeArgument "-S" "EgGkKmMPQRtTYZb%" value Size.greatest
    | "buffer-size", _ =>
        let _ ← sizeArgument "--buffer-size" "EgGkKmMPQRtTYZb%" value Size.greatest
    | "parallel", _ =>
        let n ← sizeArgument "--parallel" "" value (10 * Size.greatest)
        if n = 0 then fail Key.sortFailure "number in parallel must be nonzero"
    | "batch-size", _ => checkMerged value
    | "sort", _ =>
        orderChoices.insist "--sort" value
        if let some c := (orderChoices.meaning? value).bind fun word => orderLetters.lookup word then
          manner := (manner.add? true true c).getD manner
          kinds := kinds ++ [c]
    | "check", _ =>
        if value.isEmpty then checks := checks ++ ['c']
        else
          checkChoices.insist "--check" value
          checks := checks ++ [if checkChoices.meaning? value = some "quiet" then 'C' else 'c']
    | _, [c] =>
        manner := (manner.add? true true c).getD manner
        if Manner.kinds.contains c then kinds := kinds ++ [c]
        if c = 'c' || c = 'C' then
          if checks.any (· != c) then incompatible ['c', 'C']
          checks := checks ++ [c]
    | _, _ => pure ()
  if let some e := trouble then misuse Key.sortFailure e
  let listed ← match o.value? "files0-from" with
    | none => pure none
    | some source => do
        if let some extra := o.operands.head? then
          warn ("extra operand " ++ Quoting.plain extra)
          say "file operands cannot be combined with --files0-from\n"
          hint Key.sortFailure
        let names ← listedOperands source
        pure (some names)
  keys := keys.map fun k =>
    if k.manner.isDefault && !k.manner.reverse then { k with manner := manner } else k
  if keys.isEmpty && !manner.isDefault then keys := [⟨0, 0, none, manner⟩]
  checkManner kinds manner
  let isCheck := !checks.isEmpty
  let unique := o.isSet "u"
  let sorting : Sorting := {
    separator := separator, keys := keys, lastResort := !(unique || o.isSet "s")
    reverse := manner.reverse }
  let ending := ending o
  let operands := listed.getD (orInput o.operands)
  if isCheck then
    if let some extra := operands[1]? then
      fail Key.sortFailure ("extra operand " ++ Quoting.plain extra ++ " not allowed with -" ++
        String.ofList (checks.take 1))
    let operand := operands.headD "-"
    let lines ← sortLines ending "open failed: " operand
    match sorting.disorder? unique 1 lines with
    | none => return ()
    | some (n, line) => do
        if checks.contains 'c' then
          say ((← read).name ++ ": " ++ operand ++ ":" ++ toString n ++ ": disorder: " ++
            String.ofList line ++ "\n")
        exit 1
  for operand in operands do
    if operand != "-" then
      if let .error e := ← instant (Stat.ofPath true operand) then
        fail Key.sortFailure ("cannot read: " ++ Quoting.ifNeeded operand ++ ": " ++ e.sentence)
  let output ← match target with
    | none => pure none
    | some path => do
        match ← instant (World.openPath { writes := true, creates := true } path) with
        | .ok d => pure (some d)
        | .error e =>
            fail Key.sortFailure ("open failed: " ++ Quoting.ifNeeded path ++ ": " ++ e.sentence)
  let lists ← operands.mapM (sortLines ending "cannot read: ")
  let isBefore (a b : List Char) : Bool := sorting.compare a b != .gt
  let sorted := if o.isSet "m" then sorting.merge lists else lists.flatten.mergeSort isBefore
  let sorted := if unique then sorting.dropSame none sorted else sorted
  let bytes := joinLines ending (sorted.map fun line => Raw.toBytes (String.ofList line))
  match output with
  | none => put bytes
  | some d => do
      let path := target.getD ""
      let _ ← instant (World.openPath { writes := true, truncates := true } path)
      if let some e := ← writeTo d bytes then
        fail Key.sortFailure ("write failed: " ++ Quoting.ifNeeded path ++ ": " ++ e.sentence)

/-- How `sort` tells that its output cannot be written. -/
def sortTrouble (e : Errno) : String :=
  "fflush failed: 'standard output': " ++ e.sentence ++ "\nsort: write error"

/-! ### Repeated lines -/

/-- Lines that are the same, one after another: the first of them, and the others. -/
def runs (same : Bytes → Bytes → Bool) : List Bytes → List (Bytes × List Bytes)
  | [] => []
  | line :: rest =>
      match runs same rest with
      | (other, more) :: later =>
          if same line other then (line, other :: more) :: later
          else (line, []) :: (other, more) :: later
      | [] => [(line, [])]

/-- The rest of a line after some fields, each with the blanks before it. -/
def dropBlankFields (isBlank : UInt8 → Bool) : Nat → Bytes → Bytes
  | 0, line => line
  | _, [] => []
  | n + 1, line => dropBlankFields isBlank n ((line.dropWhile isBlank).dropWhile (!isBlank ·))

/-- The part of a line that `uniq` compares. -/
def comparedPart (fields chars : Nat) (width : Option Nat) (folds : Bool) (line : Bytes) : Bytes :=
  let isBlank (b : UInt8) : Bool := b = 32 || b = 9
  let line := (dropBlankFields isBlank fields line).drop chars
  let line := match width with
    | some n => line.take n
    | none => line
  if folds then line.map fun b => if 65 ≤ b && b ≤ 90 then b + 32 else b else line

def uniqNumber (what text : String) : Tool Nat := do
  match Size.read? false text with
  | some n => return n
  | none => fail 1 (text ++ ": invalid number of " ++ what)

/-- The old spellings of what to skip, `-2` for fields and `+2` for characters, in the new ones. -/
def modernUniq : List String → List String
  | [] => []
  | arg :: rest =>
      if arg = "--" then arg :: rest
      else match arg.toList with
        | '-' :: c :: more =>
            if (c :: more).all Char.isDigit then
              "-f" :: String.ofList (c :: more) :: modernUniq rest
            else arg :: modernUniq rest
        | '+' :: c :: more =>
            if (c :: more).all Char.isDigit then
              "-s" :: String.ofList (c :: more) :: modernUniq rest
            else arg :: modernUniq rest
        | _ => arg :: modernUniq rest

def uniqCountWidth : Nat := 7

/-- Prints lines in groups, which empty lines part as `places` says. -/
def printGroups (ending : UInt8) (places : String) (groups : List (Bytes × List Bytes)) :
    Tool Unit := do
  let gap : Bytes := [ending]
  let shown := groups.map fun (line, more) => joinLines ending (line :: more)
  let text := match places with
    | "prepend" => shown.flatMap (gap ++ ·)
    | "append" => shown.flatMap (· ++ gap)
    | "both" => if shown.isEmpty then [] else gap ++ shown.flatMap (· ++ gap)
    | _ => (shown.intersperse gap).flatten
  put text

def groupChoices : Choices := [["prepend"], ["append"], ["separate"], ["both"]]

def repeatedChoices : Choices := [["none"], ["prepend"], ["separate"]]

/-- Insists that an option of `uniq` makes sense. -/
def checkUniq (key value : String) : Tool Unit := do
  let number (what : String) : Tool Unit := do
    let _ ← uniqNumber what value
  match key with
  | "f" => number "fields to skip"
  | "s" => number "bytes to skip"
  | "w" => number "bytes to compare"
  | "D" => if !value.isEmpty then repeatedChoices.insist "--all-repeated" value
  | "group" => if !value.isEmpty then groupChoices.insist "--group" value
  | _ => return ()

def uniq : Tool Unit := do
  let o ← checkedOptions 1 "cdDf:is:uw:z0123456789"
    ("count=c repeated=d all-repeated::=D group::=group ignore-case=i unique=u skip-fields:=f " ++
      "skip-chars:=s check-chars:=w zero-terminated=z")
    (modernUniq (← read).arguments) checkUniq
  if let some extra := o.operands[2]? then misuse 1 ("extra operand " ++ Quoting.plain extra)
  let fields ← (o.value? "f").elim (pure 0) (uniqNumber "fields to skip")
  let chars ← (o.value? "s").elim (pure 0) (uniqNumber "bytes to skip")
  let width ← match o.value? "w" with
    | some text => do
        let n ← uniqNumber "bytes to compare" text
        pure (some n)
    | none => pure none
  if o.isSet "group" && ["c", "d", "D", "u"].any o.isSet then
    misuse 1 "--group is mutually exclusive with -c/-d/-D/-u"
  if o.isSet "D" && o.isSet "c" then
    misuse 1 "printing all duplicated lines and repeat counts is meaningless"
  let folds := o.isSet "i"
  let same (a b : Bytes) : Bool :=
    comparedPart fields chars width folds a = comparedPart fields chars width folds b
  let operand := o.operands.headD "-"
  let ending := ending o
  withInput operand
    (fun e => fail 1 (named (Quoting.ifNeeded operand) e))
    fun d => do
      if let some path := o.operands[1]? then
        if path != "-" then
          match ← instant (World.openPath .forWriting path) with
          | .error e => fail 1 (named (Quoting.ifNeeded path) e)
          | .ok target => do
              let _ ← instant (World.replace target Descriptor.output)
      match ← everything d with
      | .error e => fail 1 ("error reading " ++ Quoting.always operand ++ ": " ++ e.sentence)
      | .ok bytes => do
          let groups := runs same (linesOf ending bytes)
          if o.isSet "group" then
            let places := ((o.value? "group").bind groupChoices.meaning?).getD "separate"
            printGroups ending places groups
          else if o.isSet "D" then
            let groups := groups.filter fun (_, more) => !more.isEmpty
            match ((o.value? "D").bind repeatedChoices.meaning?).getD "none" with
            | "prepend" => printGroups ending "prepend" groups
            | "separate" => printGroups ending "separate" groups
            | _ => put (groups.flatMap fun (line, more) => joinLines ending (line :: more))
          else
            let wanted := groups.filter fun (_, more) =>
              !(o.isSet "d" && more.isEmpty) && !(o.isSet "u" && !more.isEmpty)
            put (joinLines ending (wanted.map fun (line, more) =>
              if o.isSet "c" then
                Raw.toBytes (padLeft uniqCountWidth (toString (more.length + 1)) ++ " ") ++ line
              else line))

end LineShell.Machine.Tool
