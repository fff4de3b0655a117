import LineShell.Machine.Regex.Parse

/-!
Scripts that edit a text line by line. A script is a list of steps, each of which may be bound to
some lines.
-/

namespace LineShell.Machine.Edit

/-- What is looked for in a line. -/
structure Pattern where
  /-- If there is none, the expression that was used last is meant. -/
  regex : Option Regex
  folds : Bool := false
  lines : Bool := false

/-- The lines that an address stands for. -/
inductive Address where
  | line (number : Nat)
  /-- Every so many lines from one on. -/
  | every (first step : Nat)
  | last
  | pattern (p : Pattern)

/-- The end of a range of lines. -/
inductive RangeEnd where
  | at (a : Address)
  /-- So many lines later. -/
  | after (count : Nat)
  /-- At the next multiple of a number. -/
  | multiple (n : Nat)

/-- A part of what is put in the place of a match. -/
inductive Piece where
  | text (cs : List Char)
  /-- The text of a group; the group with the number 0 is the match. -/
  | group (number : Nat)
  /-- How letters are to be changed from here on, by the letter that asks for it. -/
  | letters (mode : Char)
  deriving DecidableEq, Repr

structure Substitution where
  pattern : Pattern
  pieces : List Piece
  /-- Matches before this one are left alone. -/
  first : Nat
  everywhere : Bool
  prints : Bool
  file : Option String

inductive Verb where
  /-- The steps up to the one with the given number belong together. -/
  | opening (close : Nat)
  | closing
  | label (name : String)
  /-- Goes on at a label, always or as the letter says. -/
  | jump (letter : Char) (name : String)
  /-- Shows a text before, after, or instead of the line. -/
  | text (letter : Char) (text : List Char)
  | quit (prints : Bool) (code : Nat)
  | list (width : Option Nat)
  | substitute (s : Substitution)
  | translate (table : List (Char × Char))
  /-- Reads from a file or writes to it. -/
  | file (letter : Char) (name : String)
  /-- Something that needs no more than its letter. -/
  | plain (letter : Char)

structure Step where
  start : Option Address := none
  stop : Option RangeEnd := none
  negated : Bool := false
  verb : Verb

/-- Where a part of a script comes from. -/
inductive Origin where
  | expression (number : Nat)
  | file (name : String)
  deriving DecidableEq, Repr

/-- How far the text of a script has been read. -/
structure Scan where
  rest : List Char
  used : Nat := 0
  line : Nat := 1
  extended : Bool := false
  steps : Array Step := #[]
  /-- The blocks that are open. -/
  blocks : List Nat := []
  /-- A text goes on in the next part of the script. -/
  pending : Bool := false
  silent : Bool := false
  isFirst : Bool := true

abbrev Parse := ExceptT String (StateM Scan)

variable {α : Type}

def next : Parse (Option Char) := do
  let s ← get
  match s.rest with
  | [] => return none
  | c :: rest => do
      set { s with
        rest := rest, used := s.used + 1, line := if c = '\n' then s.line + 1 else s.line }
      return some c

def peek : Parse (Option Char) := return (← get).rest.head?

/-- Takes characters as long as they have a property. -/
def takeWhile (p : Char → Bool) : Parse (List Char) := do
  let s ← get
  let taken := s.rest.takeWhile p
  set { s with
    rest := s.rest.drop taken.length, used := s.used + taken.length
    line := s.line + taken.countP (· = '\n') }
  return taken

def skipBlanks : Parse Unit := do
  let _ ← takeWhile Class.isBlank

/-- The next character that is no blank. -/
def nextNonblank : Parse (Option Char) := do
  skipBlanks
  next

def number : Parse Nat := do
  let digits ← takeWhile Char.isDigit
  return (Class.number 10 digits.length 0 digits).1

/-- What may come after a command. -/
def endCommand : Parse Unit := do
  skipBlanks
  match ← peek with
  | none | some '\x7d' | some '#' => return ()
  | some c => do
      let _ ← next
      if c != '\n' && c != ';' then throw "extra characters after command"

/-! ### Escapes -/

/-- The character that an escape stands for, and what follows. -/
def escape? (text : List Char) : Option (Char × List Char) :=
  let numeric (base most : Nat) (rest : List Char) : Option (Char × List Char) :=
    if rest.head?.any fun c => (Class.digit? base c).isSome then
      let (n, rest) := Class.number base most 0 rest
      some (Char.ofNat (n % 256), rest)
    else none
  match text with
  | 'a' :: rest => some ('\x07', rest)
  | 'f' :: rest => some ('\x0c', rest)
  | 'r' :: rest => some ('\r', rest)
  | 't' :: rest => some ('\t', rest)
  | 'v' :: rest => some ('\x0b', rest)
  | 'c' :: c :: rest => some (Char.ofNat (c.toUpper.toNat ^^^ 64), rest)
  | 'd' :: rest => numeric 10 3 rest
  | 'o' :: rest => numeric 8 3 rest
  | 'x' :: rest => numeric 16 2 rest
  | _ => none

/-- An expression with its escapes replaced. What they stand for does not mean anything else. -/
def plainRegex (extended : Bool) : Nat → List Char → List Char
  | 0, text => text
  | _, [] => []
  | bound + 1, '\\' :: rest =>
      match escape? rest with
      | some (c, after) =>
          let special := ['.', '[', ']', '*', '^', '$', '\\'] ++
            if extended then ['+', '?', '(', ')', '\x7b', '\x7d', '|'] else []
          (if special.contains c then ['\\', c] else [c]) ++ plainRegex extended bound after
      | none =>
          match rest with
          | c :: rest => '\\' :: c :: plainRegex extended bound rest
          | [] => ['\\']
  | bound + 1, c :: rest => c :: plainRegex extended bound rest

/-- A text that is to be shown, with its escapes replaced. -/
def plainText : Nat → List Char → List Char
  | 0, text => text
  | _, [] => []
  | bound + 1, '\\' :: rest =>
      match escape? rest with
      | some (c, after) => c :: plainText bound after
      | none =>
          match rest with
          | 'n' :: rest => '\n' :: plainText bound rest
          | c :: rest => c :: plainText bound rest
          | [] => []
  | bound + 1, c :: rest => c :: plainText bound rest

/-! ### Patterns -/

/-- How many characters there are up to a mark with a bracket behind it, and with those two. -/
def classLength (mark : Char) : Nat → List Char → Option Nat
  | count, c :: ']' :: rest =>
      if c = mark then some (count + 2) else classLength mark (count + 1) (']' :: rest)
  | count, _ :: rest => classLength mark (count + 1) rest
  | _, [] => none

/-- How many characters a bracket has that is open, with its end. -/
def bracketLength : Nat → Nat → List Char → Option Nat
  | 0, _, _ | _, _, [] | _, _, '\n' :: _ => none
  | _, count, ']' :: _ => some (count + 1)
  | bound + 1, count, '[' :: mark :: rest =>
      if [':', '.', '='].contains mark then
        match classLength mark 0 rest with
        | some n => bracketLength bound (count + n + 2) (rest.drop n)
        | none => none
      else bracketLength bound (count + 1) (mark :: rest)
  | bound + 1, count, _ :: rest => bracketLength bound (count + 1) rest

/-- How many characters a bracket has behind its opening. A bracket that closes it right away does
not count. -/
def openLength (text : List Char) : Option Nat :=
  let skipped := match text with
    | '^' :: ']' :: _ => 2
    | '^' :: _ => 1
    | ']' :: _ => 1
    | _ => 0
  bracketLength (text.length + 1) skipped (text.drop skipped)

/-- What a bracket holds, without the backslashes before newlines and delimiters. -/
def bracketText (mark : Char) : List Char → List Char
  | '\\' :: 'n' :: rest => '\n' :: bracketText mark rest
  | '\\' :: c :: rest =>
      if c = mark then c :: bracketText mark rest else '\\' :: bracketText mark (c :: rest)
  | c :: rest => c :: bracketText mark rest
  | [] => []

/-- Reads up to a delimiter. If `regex` says so, delimiters in brackets do not count. -/
def delimited (mark : Char) (regex : Bool) : Nat → List Char → Parse (Option (List Char))
  | 0, _ => return none
  | bound + 1, found => do
      match ← peek with
      | none => return none
      | some c => do
          if c = '\n' && mark != '\n' then return none
          let _ ← next
          if c = mark then return some found.reverse
          else if c = '\\' then
            match ← next with
            | none => return none
            | some d =>
                let kept := if d = 'n' && regex then ['\n']
                  else if d = '\n' || (d = mark && (regex || d != '&')) then [d]
                  else [d, '\\']
                delimited mark regex bound (kept ++ found)
          else if c = '[' && regex then
            let rest := (← get).rest
            match openLength rest with
            | none => do
                let _ ← takeWhile (· != '\n')
                return none
            | some n => do
                modify fun s => { s with rest := s.rest.drop n, used := s.used + n }
                delimited mark regex bound ((bracketText mark (rest.take n)).reverse ++ '[' :: found)
          else delimited mark regex bound (c :: found)

/-- The pattern that a text stands for, and how many groups it has. -/
def pattern (text : List Char) (folds lines : Bool) : Parse (Pattern × Nat) := do
  if text.isEmpty then return ({ regex := none, folds := folds, lines := lines }, 9)
  let extended := (← get).extended
  let dialect : Regex.Dialect := { extended := extended, strict := true, careful := true }
  match Regex.parse dialect (plainRegex extended (text.length + 1) text) with
  | .ok (r, reading) =>
      return ({ regex := some r, folds := folds, lines := lines }, reading.opened)
  | .error e => throw e

/-! ### Addresses -/

/-- The letters behind the pattern of an address. -/
def patternFlags : Nat → Bool → Bool → Parse (Bool × Bool)
  | 0, folds, lines => return (folds, lines)
  | bound + 1, folds, lines => do
      skipBlanks
      match ← peek with
      | some 'I' => do
          let _ ← next
          patternFlags bound true lines
      | some 'M' => do
          let _ ← next
          patternFlags bound folds true
      | _ => return (folds, lines)

/-- Reads an address, if there is one. -/
def address : Parse (Option Address) := do
  let readPattern (mark : Char) : Parse (Option Address) := do
    let length := (← get).rest.length + 1
    match ← delimited mark true length [] with
    | none => throw "unterminated address regex"
    | some text => do
        let (folds, lines) ← patternFlags length false false
        return some (.pattern (← pattern text folds lines).1)
  match ← peek with
  | some '/' => do
      let _ ← next
      readPattern '/'
  | some '\\' => do
      let _ ← next
      match ← next with
      | some mark => readPattern mark
      | none => throw "unterminated address regex"
  | some '$' => do
      let _ ← next
      return some .last
  | some c =>
      if c.isDigit then
        let n ← number
        skipBlanks
        if (← peek) = some '~' then
          let _ ← next
          skipBlanks
          let step ← number
          return some (if step = 0 then .line n else .every n step)
        else return some (.line n)
      else return none
  | none => return none

def rangeEnd : Parse (Option RangeEnd) := do
  match ← peek with
  | some '+' => do
      let _ ← next
      return some (.after (← number))
  | some '~' => do
      let _ ← next
      return some (.multiple (← number))
  | _ => return (← address).map .at

/-! ### Arguments of commands -/

def labelName : Parse String := do
  skipBlanks
  return String.ofList (← takeWhile fun c => !Class.isSpace c && c != ';' && c != '\x7d')

def fileName : Parse String := do
  skipBlanks
  let name ← takeWhile (· != '\n')
  let _ ← next
  if name.isEmpty then throw "missing filename in r/R/w/W commands"
  return String.ofList name

/-- Reads lines of a text up to one that does not end with a backslash. -/
def textLines : Nat → List Char → Parse (List Char × Bool)
  | 0, found => return (found, false)
  | bound + 1, found => do
      match ← next with
      | none => return (found, false)
      | some '\n' => return (found, false)
      | some '\\' =>
          match ← next with
          | none => return (found, true)
          | some '\n' => textLines bound ('\n' :: found)
          | some c => textLines bound (c :: '\\' :: found)
      | some c => textLines bound (c :: found)

/-- Reads lines of a text, and whether they go on in the next part of the script. -/
def moreText : Parse (List Char) := do
  let (text, pending) ← textLines ((← get).rest.length + 1) []
  modify ({ · with pending := pending })
  return plainText (text.length + 1) text.reverse ++ ['\n']

/-- Reads the text of a command that shows one. -/
def shownText : Parse (List Char) := do
  skipBlanks
  match ← peek with
  | none => throw "expected \\ after \x60a', \x60c' or \x60i'"
  | some '\\' => do
      let _ ← next
      let rest := (← get).rest
      let blanks := rest.takeWhile Class.isBlank
      match rest.drop blanks.length with
      | '\n' :: _ => do
          let _ ← takeWhile Class.isBlank
          let _ ← next
          moreText
      | [] => do
          let _ ← takeWhile Class.isBlank
          modify ({ · with pending := true })
          return []
      | _ => moreText
  | some _ => moreText

/-- The parts of what is put in the place of a match. -/
def replacement : Nat → List Char → List Char → List Piece
  | 0, _, _ => []
  | bound + 1, text, held =>
      let flush (pieces : List Piece) : List Piece :=
        if held.isEmpty then pieces else .text held.reverse :: pieces
      match text with
      | [] => flush []
      | '&' :: rest => flush (.group 0 :: replacement bound rest [])
      | '\\' :: rest =>
          match escape? rest with
          | some (c, after) => replacement bound after (c :: held)
          | none =>
              match rest with
              | 'n' :: rest => replacement bound rest ('\n' :: held)
              | c :: rest =>
                  if c.isDigit then
                    flush (.group (c.toNat - '0'.toNat) :: replacement bound rest [])
                  else if ['L', 'U', 'l', 'u', 'E'].contains c then
                    flush (.letters c :: replacement bound rest [])
                  else replacement bound rest (c :: held)
              | [] => flush []
      | c :: rest => replacement bound rest (c :: held)

/-- What the letters behind a substitution ask for. -/
structure Flags where
  folds : Bool := false
  lines : Bool := false
  everywhere : Bool := false
  prints : Bool := false
  first : Option Nat := none
  file : Option String := none

def flags : Nat → Flags → Parse Flags
  | 0, f => return f
  | bound + 1, f => do
      match ← peek with
      | none | some '\x7d' | some '#' => return f
      | some c => do
          if c.isDigit then
            if f.first.isSome then
              let _ ← next
              throw "multiple number options to \x60s' command"
            let n ← number
            if n = 0 then throw "number option to \x60s' command may not be zero"
            return ← flags bound { f with first := some n }
          let _ ← next
          match c with
          | '\n' | ';' => return f
          | 'i' | 'I' => flags bound { f with folds := true }
          | 'm' | 'M' => flags bound { f with lines := true }
          | 'p' =>
              if f.prints then throw "multiple \x60p' options to \x60s' command"
              flags bound { f with prints := true }
          | 'g' =>
              if f.everywhere then throw "multiple \x60g' options to \x60s' command"
              flags bound { f with everywhere := true }
          | 'w' => return { f with file := some (← fileName) }
          | ' ' | '\t' => flags bound f
          | _ => throw "unknown option to \x60s'"

def substitution : Parse Verb := do
  let length := (← get).rest.length + 1
  let some mark ← next | throw "unterminated \x60s' command"
  let some text ← delimited mark true length [] | throw "unterminated \x60s' command"
  let some new ← delimited mark false length [] | throw "unterminated \x60s' command"
  let f ← flags length {}
  let pieces := replacement (new.length + 1) new []
  let (p, groups) ← pattern text f.folds f.lines
  for piece in pieces do
    if let .group n := piece then
      if groups < n then
        throw ("invalid reference \\" ++ toString n ++ " on \x60s' command's RHS")
  return .substitute {
    pattern := p, pieces := pieces, first := f.first.getD 1, everywhere := f.everywhere
    prints := f.prints, file := f.file }

def translation : Parse Verb := do
  let length := (← get).rest.length + 1
  let some mark ← next | throw "unterminated \x60y' command"
  let some old ← delimited mark false length [] | throw "unterminated \x60y' command"
  let some new ← delimited mark false length [] | throw "unterminated \x60y' command"
  let old := plainText (old.length + 1) old
  let new := plainText (new.length + 1) new
  if old.length != new.length then
    throw "strings for \x60y' command are different lengths"
  endCommand
  return .translate (old.zip new)

/-! ### Commands -/

def plainLetters : List Char :=
  ['=', 'd', 'D', 'F', 'g', 'G', 'h', 'H', 'n', 'N', 'p', 'P', 'z', 'x']

/-- Reads a command behind its letter. There is none if it was a comment. -/
def verb (letter : Char) (hasAddress hasRange : Bool) : Parse (Option Verb) := do
  match letter with
  | '#' => do
      if hasAddress then throw "comments don't accept any addresses"
      let s ← get
      let comment ← takeWhile (· != '\n')
      if comment = ['n'] && s.isFirst && s.used = 1 then modify ({ · with silent := true })
      return none
  | 'v' => do
      let name ← labelName
      if name.startsWith "5" || name.startsWith "9" then throw "expected newer version of sed"
      endCommand
      return none
  | '\x7b' => return some (.opening 0)
  | '\x7d' => do
      if (← get).blocks.isEmpty then throw "unexpected \x60\x7d'"
      if hasAddress then throw "\x7d doesn't want any addresses"
      endCommand
      return some .closing
  | 'a' | 'i' | 'c' => return some (.text letter (← shownText))
  | ':' => do
      if hasAddress then throw ": doesn't want any addresses"
      let name ← labelName
      if name.isEmpty then throw "\":\" lacks a label"
      return some (.label name)
  | 'b' | 't' | 'T' => return some (.jump letter (← labelName))
  | 'q' | 'Q' | 'l' | 'L' => do
      if hasRange && letter != 'l' then throw "command only uses one address"
      skipBlanks
      let n ← if (← peek).any Char.isDigit then do
          let n ← number
          pure (some n)
        else pure none
      endCommand
      return some (if letter = 'l' then .list n else .quit (letter = 'q') (n.getD 0))
  | 'r' | 'R' | 'w' | 'W' => return some (.file letter (← fileName))
  | 's' => return some (← substitution)
  | 'y' => return some (← translation)
  | c =>
      if plainLetters.contains c then
        endCommand
        return some (.plain c)
      else throw ("unknown command: \x60" ++ String.singleton c ++ "'")

/-- Adds a step to those that were read. -/
def addStep (step : Step) : Parse Unit := modify fun s =>
  let index := s.steps.size
  match step.verb, s.blocks with
  | .opening _, blocks => { s with steps := s.steps.push step, blocks := index :: blocks }
  | .closing, block :: blocks =>
      { s with
        blocks := blocks
        steps := (s.steps.modify block ({ · with verb := .opening index })).push step }
  | _, _ => { s with steps := s.steps.push step }

/-- Reads one step, if one is left. -/
def step : Parse Bool := do
  let _ ← takeWhile fun c => c = ';' || Class.isSpace c
  if (← peek).isNone then return false
  if (← peek) = some '+' || (← peek) = some '~' then
    let _ ← rangeEnd
    throw "invalid usage of +N or ~N as first address"
  let start ← address
  let mut stop : Option RangeEnd := none
  if start.isSome then
    skipBlanks
    if (← peek) = some ',' then
      let _ ← next
      skipBlanks
      stop ← rangeEnd
      if stop.isNone then
        let _ ← next
        throw "unexpected \x60,'"
      skipBlanks
  let bang := (← peek) = some '!'
  if bang then
    let _ ← next
    skipBlanks
    if (← peek) = some '!' then
      let _ ← next
      throw "multiple \x60!'s"
  let isZero := match start with
    | some (.line 0) => true
    | _ => false
  let isPattern := match stop with
    | some (.at (.pattern _)) => true
    | _ => false
  if isZero && !isPattern then
    let _ ← next
    throw "invalid usage of line address 0"
  match ← next with
  | none => throw "missing command"
  | some letter => do
      if let some verb ← verb letter start.isSome stop.isSome then
        addStep { start := start, stop := stop, negated := bang, verb := verb }
      return true

def steps : Nat → Parse Unit
  | 0 => return ()
  | bound + 1 => do if ← step then steps bound

/-- Reads a part of a script. -/
def chunk : Parse Unit := do
  if (← get).pending then
    let text ← moreText
    modify fun s => { s with
      steps := s.steps.modify (s.steps.size - 1) fun step =>
        match step.verb with
        | .text letter before => { step with verb := .text letter (before ++ text) }
        | _ => step }
  steps ((← get).rest.length + 1)

/-- A script that has been read. -/
structure Script where
  steps : Array Step
  /-- The lines are not shown unless a step does so. -/
  silent : Bool

/-- Where and why a script is wrong. -/
def fault (origin : Origin) (s : Scan) (text : String) : String :=
  match origin with
  | .expression n =>
      "-e expression #" ++ toString n ++ ", char " ++ toString s.used ++ ": " ++ text
  | .file name => "file " ++ name ++ " line " ++ toString s.line ++ ": " ++ text

/-- Reads the parts of a script one after another. -/
def readChunks : List (Origin × List Char) → Scan → Except String Scan
  | [], s => .ok s
  | (origin, text) :: rest, s =>
      let s := { s with rest := text, used := 0, line := 1 }
      match chunk.run s with
      | (.ok (), s) => readChunks rest { s with isFirst := false }
      | (.error e, s) => .error (fault origin s e)

/-- Reads a script. -/
def Script.ofTexts (extended : Bool) (texts : List (Origin × List Char)) : Except String Script := do
  let s ← readChunks texts { rest := [], extended := extended }
  if !s.blocks.isEmpty then
    let origin := (texts.getLast?.map Prod.fst).getD (.expression 1)
    throw (fault origin { s with used := 0 } "unmatched \x60\x7b'")
  return ⟨s.steps, s.silent⟩

/-- The labels that are jumped to and are missing. -/
def Script.lost? (s : Script) : Option String :=
  let labels := s.steps.toList.filterMap fun step => match step.verb with
    | .label name => some name
    | _ => none
  s.steps.toList.findSome? fun step => match step.verb with
    | .jump _ name => if name.isEmpty || labels.contains name then none else some name
    | _ => none

/-- The step at which a label stands. -/
def Script.place (s : Script) (name : String) : Nat :=
  (s.steps.findIdx? fun step => match step.verb with
    | .label other => other = name
    | _ => false).getD s.steps.size

end LineShell.Machine.Edit
