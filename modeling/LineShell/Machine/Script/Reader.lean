import LineShell.Machine.Script.Tree

/-!
The words of scripts. Reading stops with the wish for more if the text ends where it cannot, unless
it is known that nothing follows.
-/

namespace LineShell.Machine.Script

/-- Why reading cannot go on. -/
inductive Stop where
  | more
  /-- The text is no script. -/
  | failed (line : Nat) (text : String)

/-- A here-document of which only the operator has been read. -/
structure Awaited where
  number : Nat
  delimiter : String
  expands : Bool
  /-- Tabs at the start of a line do not count. -/
  stripped : Bool

inductive Token where
  | newline
  | eof
  /-- An operator, by its spelling. -/
  | operator (text : String)
  /-- A redirection of a descriptor, by the spelling of its operator. -/
  | redirect (target : Nat) (text : String)
  | word (parts : Word)
  | keyword (text : String)

/-- An alias whose text has been put in the place of its name. -/
structure Opened where
  name : String
  /-- So much of the text is left when that of the alias is over. -/
  after : Nat
  /-- The word that follows may be an alias too. -/
  goesOn : Bool

/-- How far the reading has come. -/
structure Reading where
  rest : List Char
  line : Nat := 1
  /-- Nothing follows the rest. -/
  closed : Bool := true
  /-- A token that was read but not used. -/
  held : Option Token := none
  awaited : List Awaited := []
  documents : List (Nat × Word) := []
  nextDocument : Nat := 0
  /-- The texts that stand for names of commands. -/
  aliases : List (String × String) := []
  /-- The aliases whose texts are being read. -/
  opened : List Opened := []

abbrev Parse := StateT Reading (Except Stop)

namespace Parse

variable {α : Type}

def failAt (text : String) : Parse α := do throw (.failed (← get).line text)

/-- Stops because the text is over. -/
def brokenOff (text : String) : Parse α := do
  if (← get).closed then failAt ("Syntax error: " ++ text) else throw .more

def peek? : Parse (Option Char) := return (← get).rest.head?

def drop (count : Nat) : Parse Unit := modify fun r => { r with rest := r.rest.drop count }

/-- Takes characters that may be newlines, and counts the lines. -/
def takeRun (p : Char → Bool) : Parse (List Char) := do
  let r ← get
  let run := r.rest.takeWhile p
  set { r with rest := r.rest.drop run.length, line := r.line + run.count '\n' }
  return run

end Parse

namespace Reader

open Parse

/-- Where characters stand. -/
inductive Context where
  | plain
  | double
  /-- Within braces, after the name of a parameter. -/
  | braces (quoted : Bool)
  | arithmetic
  | document
  deriving DecidableEq, Repr

namespace Context

def isQuoted : Context → Bool
  | .plain => false
  | .braces quoted => quoted
  | _ => true

/-- Characters that stand for themselves. -/
def isOrdinary : Context → Char → Bool
  | .plain, c => ! ['\\', '\'', '"', '$', '\x60', ' ', '\t', '\n', ';', '&', '|', '<', '>', '(', ')'].contains c
  | .double, c => ! ['\\', '"', '$', '\x60'].contains c
  | .braces false, c => ! ['\\', '\'', '"', '$', '\x60', '\x7d'].contains c
  | .braces true, c => ! ['\\', '"', '$', '\x60', '\x7d'].contains c
  | .arithmetic, c => ! ['\\', '"', '$', '\x60', '(', ')'].contains c
  | .document, c => ! ['\\', '$', '\x60'].contains c

end Context

/-- Characters that a backslash takes the meaning from within quotes. -/
def isEscapable (context : Context) (c : Char) : Bool :=
  ['$', '\x60', '\\'].contains c || (c = '"' && context != .document) ||
    (c = '\x7d' && context = .braces true)

/-- Adds text to parts, the last one first. -/
def addText (text : List Char) (quoted : Bool) (parts : Word) : Word :=
  match parts with
  | .text old q :: rest =>
      if q = quoted then .text (old ++ String.ofList text) q :: rest
      else .text (String.ofList text) quoted :: parts
  | _ => .text (String.ofList text) quoted :: parts

/-- Joins lines that a backslash at the end of the line splits. -/
def joinLines : Nat → Parse Unit
  | 0 => return ()
  | bound + 1 => do
      match (← get).rest with
      | '\\' :: '\n' :: rest =>
          modify fun r => { r with rest := rest, line := r.line + 1 }
          joinLines bound
      | ['\\'] => if (← get).closed then return () else throw .more
      | _ => return ()

def patience : Nat := 100000000

/-- The next character after split lines are joined. -/
def next? : Parse (Option Char) := do
  joinLines patience
  match (← get).rest with
  | c :: _ => return some c
  | [] => if (← get).closed then return none else throw .more

def nameRun (p : Char → Bool) (limit : Nat) : Nat → List Char → Parse String
  | 0, acc => return String.ofList acc.reverse
  | bound + 1, acc => do
      match ← next? with
      | some c =>
          if p c && acc.length < limit then do
            drop 1
            nameRun p limit bound (c :: acc)
          else return String.ofList acc.reverse
      | none => return String.ofList acc.reverse

/-- The text up to the closing back quote, where backslashes protect back quotes. -/
def backquoted (inDouble : Bool) : Nat → List Char → Parse (List Char)
  | 0, acc => return acc.reverse
  | bound + 1, acc => do
      let run ← takeRun fun c => c != '\x60' && c != '\\'
      let acc := run.reverse ++ acc
      match (← get).rest with
      | [] => brokenOff "EOF in backquote substitution"
      | '\x60' :: _ => do
          drop 1
          return acc.reverse
      | _ :: [] => brokenOff "EOF in backquote substitution"
      | _ :: c :: rest => do
          modify fun r => { r with rest := rest, line := if c = '\n' then r.line + 1 else r.line }
          if c = '\n' then backquoted inDouble bound acc
          else if ['\\', '\x60', '$'].contains c || (inDouble && c = '"') then
            backquoted inDouble bound (c :: acc)
          else backquoted inDouble bound (c :: '\\' :: acc)

/-- What reads the commands of a substitution: those of a text, or those up to a closing bracket. -/
structure Inner where
  ofText : List Char → Parse (List Tree)
  toBracket : Parse (List Tree)

/-- Reads the name of a parameter in braces, and whether it is its length that is asked for. The
empty name is none. -/
def braceName : Parse (String × Bool) := do
  match ← next? with
  | none => brokenOff "Missing '\x7d'"
  | some c =>
      if isNameStart c then return (← nameRun isNamePart patience patience [], false)
      else if c.isDigit then return (← nameRun Char.isDigit patience patience [], false)
      else if c = '#' then
        drop 1
        match ← next? with
        | none => brokenOff "Missing '\x7d'"
        | some d =>
            if isNameStart d then return (← nameRun isNamePart patience patience [], true)
            else if d.isDigit then return (← nameRun Char.isDigit patience patience [], true)
            else if d = '\x7d' then return ("#", false)
            else
              match (← get).rest with
              | d :: '\x7d' :: _ =>
                  if isSpecial d then
                    drop 1
                    return (String.singleton d, true)
                  else return ("#", false)
              | _ => return ("#", false)
      else if isSpecial c then
        drop 1
        return (String.singleton c, false)
      else return ("", false)

/-- Reads what is made of a parameter in braces, where `word` reads on to the closing brace. -/
def braceUse (name : String) (isLength : Bool) (quoted : Bool)
    (word : Context → Parse Word) : Parse Use := do
  let context : Context := .braces quoted
  match ← next? with
  | none => brokenOff "Missing '\x7d'"
  | some c =>
      if name.isEmpty then
        let _ ← word context
        return .bad
      else if c = '\x7d' then
        drop 1
        return if isLength then .length else .value
      else if isLength then
        let _ ← word context
        return .bad
      else if c = '%' || c = '#' then
        drop 1
        let again := (← next?) = some c
        if again then drop 1
        return .trim (c = '%') again (← word (.braces false))
      else
        let evenEmpty := c = ':'
        if evenEmpty then drop 1
        match ← next? with
        | some '-' => do
            drop 1
            return .fallback evenEmpty (← word context)
        | some '=' => do
            drop 1
            return .assign evenEmpty (← word context)
        | some '?' => do
            drop 1
            return .insist evenEmpty (← word context)
        | some '+' => do
            drop 1
            return .alternative evenEmpty (← word context)
        | some '\x7d' => do
            drop 1
            let _ ← word context
            return .value
        | some _ => do
            drop 1
            let _ ← word context
            return .bad
        | none => brokenOff "Missing '\x7d'"

/-- Reads what follows a dollar sign, where `word` reads the parts of a context to its end. -/
def dollar (inner : Inner) (context : Context) (word : Context → Parse Word) : Parse Part := do
  let quoted := context.isQuoted
  match ← next? with
  | none => return .text "$" quoted
  | some '(' => do
      drop 1
      if (← next?) = some '(' then
        drop 1
        return .arithmetic (← word .arithmetic) quoted
      else return .commands (← inner.toBracket) quoted
  | some '\x7b' => do
      drop 1
      let (name, isLength) ← braceName
      return .parameter name (← braceUse name isLength quoted word) quoted
  | some c =>
      if isNameStart c then
        return .parameter (← nameRun isNamePart patience patience []) .value quoted
      else if c.isDigit || isSpecial c then
        drop 1
        return .parameter (String.singleton c) .value quoted
      else return .text "$" quoted

/-- Adds a part, the last one first. -/
def addPart (part : Part) (parts : Word) : Word :=
  match part with
  | .text text quoted => addText text.toList quoted parts
  | part => part :: parts

/-- Reads the parts of a context to its end. `depth` is the number of open brackets, and `parts` has
what was read, the last one first. -/
def parts (inner : Inner) : Nat → Context → Nat → Word → Parse Word
  | 0, _, _, acc => return acc.reverse
  | bound + 1, context, depth, acc => do
      let quoted := context.isQuoted
      let run ← takeRun context.isOrdinary
      let acc := if run.isEmpty then acc else addText run quoted acc
      let word (context : Context) : Parse Word := parts inner bound context 0 []
      match (← get).rest with
      | [] =>
          match context with
          | .plain => if (← get).closed then return acc.reverse else throw .more
          | .document => return acc.reverse
          | .double => brokenOff "Unterminated quoted string"
          | .braces _ => brokenOff "Missing '\x7d'"
          | .arithmetic => brokenOff "Missing '))'"
      | '\\' :: rest =>
          match rest with
          | [] =>
              if (← get).closed then
                drop 1
                parts inner bound context depth (addText ['\\'] quoted acc)
              else throw .more
          | '\n' :: rest =>
              modify fun r => { r with rest := rest, line := r.line + 1 }
              parts inner bound context depth acc
          | c :: rest =>
              modify fun r => { r with rest := rest }
              if quoted && !isEscapable context c then
                parts inner bound context depth (addText ['\\', c] quoted acc)
              else parts inner bound context depth (addText [c] true acc)
      | '\'' :: rest =>
          modify fun r => { r with rest := rest }
          let run ← takeRun (· != '\'')
          if (← get).rest.isEmpty then brokenOff "Unterminated quoted string"
          else
            drop 1
            parts inner bound context depth (addText run true acc)
      | '"' :: rest =>
          modify fun r => { r with rest := rest }
          match context with
          | .double => return acc.reverse
          | .arithmetic => parts inner bound context depth acc
          | _ => do
              let quotedParts ← word .double
              parts inner bound context depth
                (if quotedParts.isEmpty then addText [] true acc else quotedParts.reverse ++ acc)
      | '$' :: rest =>
          modify fun r => { r with rest := rest }
          let part ← dollar inner context word
          parts inner bound context depth (addPart part acc)
      | '\x60' :: rest =>
          modify fun r => { r with rest := rest }
          let text ← backquoted quoted patience []
          let body ← inner.ofText text
          parts inner bound context depth (.commands body quoted :: acc)
      | '\x7d' :: rest =>
          modify fun r => { r with rest := rest }
          return acc.reverse
      | '(' :: rest =>
          if context = .arithmetic then
            modify fun r => { r with rest := rest }
            parts inner bound context (depth + 1) (addText ['('] quoted acc)
          else return acc.reverse
      | ')' :: rest =>
          if context = .arithmetic then
            if depth != 0 then
              modify fun r => { r with rest := rest }
              parts inner bound context (depth - 1) (addText [')'] quoted acc)
            else
              match rest with
              | ')' :: rest =>
                  modify fun r => { r with rest := rest }
                  return acc.reverse
              | [] => brokenOff "Missing '))'"
              | _ =>
                  modify fun r => { r with rest := rest }
                  parts inner bound context depth (addText [')'] quoted acc)
          else return acc.reverse
      | _ => return acc.reverse

/-- The parts of a text that is not itself part of a script, from a line of that on. -/
def partsOf (inner : Inner) (context : Context) (line : Nat) (text : String) : Parse Word := do
  let outer ← get
  set { outer with rest := text.toList, closed := true, held := none, line := line, opened := [] }
  let word ← parts inner patience context 0 []
  modify fun r => { r with rest := outer.rest, closed := outer.closed, held := outer.held
                           line := outer.line, opened := outer.opened }
  return word

/-! ### Here-documents -/

/-- The next line, without its newline, and whether that was there. -/
def rawLine : Parse (List Char × Bool) := do
  let run ← takeRun (· != '\n')
  match (← get).rest with
  | [] => if (← get).closed then return (run, false) else throw .more
  | _ :: rest => do
      modify fun r => { r with rest := rest, line := r.line + 1 }
      return (run, true)

/-- The lines up to the one that is the delimiter, the last one first. -/
def documentLines (a : Awaited) : Nat → List (List Char) → Parse (List (List Char))
  | 0, acc => return acc
  | bound + 1, acc => do
      if (← get).rest.isEmpty && (← get).closed then return acc
      let (line, whole) ← rawLine
      let line := if a.stripped then line.dropWhile (· = '\t') else line
      if String.ofList line = a.delimiter then return acc
      else if whole then documentLines a bound ((line ++ ['\n']) :: acc)
      else return line :: acc

/-- Reads the here-documents that are awaited. -/
def readDocuments (inner : Inner) : List Awaited → Parse Unit
  | [] => return ()
  | a :: rest => do
      let line := (← get).line
      let text := String.ofList (← documentLines a patience []).reverse.flatten
      let word ← if a.expands then partsOf inner .document line text else pure [.text text true]
      modify fun r => { r with documents := (a.number, word) :: r.documents }
      readDocuments inner rest

def documents (inner : Inner) : Parse Unit := do
  let awaited := (← get).awaited
  modify fun r => { r with awaited := [] }
  readDocuments inner awaited

/-! ### Tokens -/

def operators : List String := [";;", "&&", "||", ";", "&", "|", "(", ")"]

def redirectors : List String :=
  ["<<-", "<<", "<&", "<>", "<", ">>", ">&", ">|", ">"]

/-- The first of some spellings with which a text begins. -/
def spelling? (spellings : List String) (text : List Char) : Option String :=
  spellings.find? fun s => s.toList.isPrefixOf text

/-- The beginning of a text is not yet long enough to be sure of an operator. -/
def isCutShort (text : List Char) : Bool := text.length < 3

def operator? (spellings : List String) : Parse (Option String) := do
  let r ← get
  match spelling? spellings r.rest with
  | none => return none
  | some s =>
      if !r.closed && isCutShort r.rest then throw .more
      drop s.length
      return some s

/-- The word that begins here; a single digit before a redirection tells what is redirected. -/
def wordToken (inner : Inner) : Parse Token := do
  let word ← parts inner patience .plain 0 []
  let target? : Option Nat := match word with
    | [.text text false] =>
        match text.toList with
        | [c] => if c.isDigit then some (c.toNat - '0'.toNat) else none
        | _ => none
    | _ => none
  match target?, (← get).rest.head? with
  | some target, some c =>
      if c = '<' || c = '>' then
        match ← operator? redirectors with
        | some s => return .redirect target s
        | none => return .word word
      else return .word word
  | _, _ => return .word word

/-- The next token. -/
def token (inner : Inner) : Nat → Parse Token
  | 0 => return .eof
  | bound + 1 => do
      let r ← get
      match r.held with
      | some t => do
          set { r with held := none }
          return t
      | none =>
          match r.rest with
          | [] => if r.closed then return .eof else throw .more
          | '\n' :: rest => do
              set { r with rest := rest, line := r.line + 1 }
              documents inner
              return .newline
          | '\\' :: '\n' :: rest => do
              set { r with rest := rest, line := r.line + 1 }
              token inner bound
          | '\\' :: [] => if r.closed then wordToken inner else throw .more
          | '#' :: _ => do
              let _ ← takeRun (· != '\n')
              token inner bound
          | c :: rest =>
              if c = ' ' || c = '\t' then
                set { r with rest := rest }
                token inner bound
              else
                match ← operator? operators with
                | some s => return .operator s
                | none =>
                    match ← operator? redirectors with
                    | some s => return .redirect (if s.startsWith "<" then 0 else 1) s
                    | none => wordToken inner

end Reader

end LineShell.Machine.Script
