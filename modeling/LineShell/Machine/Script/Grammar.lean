import LineShell.Machine.Script.Reader

/-!
The commands of scripts. A script is read a line at a time, or rather as many lines as it takes for a
command to be whole.
-/

namespace LineShell.Machine.Script

namespace Grammar

open Parse Reader

def keywords : List String :=
  ["!", "case", "do", "done", "elif", "else", "esac", "fi", "for", "if", "in", "then", "until",
    "while", "\x7b", "\x7d"]

/-- Tokens at which a list of commands may end. -/
def enders : List String := ["do", "done", "elif", "else", "esac", "fi", "then", "\x7d"]

/-- Commands that no function may have the name of. -/
def reserved : List String :=
  [".", ":", "break", "continue", "eval", "exec", "exit", "export", "readonly", "return", "set",
    "shift", "times", "trap", "unset"]

def describe : Token → String
  | .newline => "newline"
  | .eof => "end of file"
  | .operator text => "\"" ++ text ++ "\""
  | .redirect .. => "redirection"
  | .word _ => "word"
  | .keyword text => "\"" ++ text ++ "\""

variable {α : Type}

def fault (text : String) : Parse α := failAt ("Syntax error: " ++ text)

def unexpected (t : Token) : Parse α := fault (describe t ++ " unexpected")

def expecting (t : Token) (wanted : String) : Parse α :=
  fault (describe t ++ " unexpected (expecting " ++ wanted ++ ")")

def hold (t : Token) : Parse Unit := modify fun r => { r with held := some t }

def isNewline : Token → Bool
  | .newline => true
  | _ => false

def skipNewlines (inner : Inner) : Nat → Token → Parse Token
  | 0, t => return t
  | bound + 1, t => do
      if isNewline t then skipNewlines inner bound (← token inner patience) else return t

/-- A word as the keyword that it is, if it is one. -/
def asKeyword (t : Token) : Token :=
  match t with
  | .word [.text text false] => if keywords.contains text then .keyword text else t
  | t => t

/-- Forgets the aliases whose texts are over before the next token, and tells whether after one of
them another may follow. -/
def closeAliases : Parse Bool := do
  if (← get).opened.isEmpty then return false
  let _ ← takeRun fun c => c = ' ' || c = '\t'
  let r ← get
  let isOver (o : Opened) : Bool := r.rest.length ≤ o.after
  set { r with opened := r.opened.filter (!isOver ·) }
  return r.opened.any fun o => isOver o && o.goesOn

/-- The text for which a token stands, if it is an alias that is not being read. -/
def aliasOf? (t : Token) (r : Reading) : Option (String × String) :=
  match t with
  | .word [.text text false] =>
      if r.opened.any (·.name = text) then none
      else (r.aliases.lookup text).map fun value => (text, value)
  | _ => none

/-- The next token, past newlines or as a keyword where these may stand, or the first one of what it
is an alias for. -/
def tokenFrom (inner : Inner) (newlines words : Bool) : Nat → Bool → Parse Token
  | 0, _ => token inner patience
  | bound + 1, mayBeAlias => do
      let isNext ← closeAliases
      let t ← token inner patience
      let t ← if newlines then skipNewlines inner patience t else pure t
      let t := if words then asKeyword t else t
      let mayBeAlias := mayBeAlias || isNext
      let r ← get
      match if mayBeAlias then aliasOf? t r else none with
      | none => return t
      | some (name, value) => do
          modify fun r =>
            let o : Opened := {
              name := name, after := r.rest.length
              goesOn := value.endsWith " " || value.endsWith "\t" }
            { r with rest := value.toList ++ r.rest, opened := o :: r.opened }
          tokenFrom inner newlines words bound mayBeAlias

/-- The next token, past newlines or as a keyword or alias where these may stand. -/
def next (inner : Inner) (newlines words : Bool) : Parse Token := do
  if (← get).held.isSome then
    let t ← token inner patience
    let t ← if newlines then skipNewlines inner patience t else pure t
    return if words then asKeyword t else t
  else tokenFrom inner newlines words patience words

/-- The next word of a simple command, which may be an alias if it is the first one. -/
def nextWord (inner : Inner) (isFirst : Bool) : Parse Token := do
  if (← get).held.isSome then token inner patience
  else tokenFrom inner false false patience isFirst

def isKeyword (t : Token) (text : String) : Bool :=
  match t with
  | .keyword k => k = text
  | _ => false

def isOperator (t : Token) (text : String) : Bool :=
  match t with
  | .operator k => k = text
  | _ => false

def demandKeyword (inner : Inner) (text : String) (newlines : Bool) : Parse Unit := do
  let t ← next inner newlines true
  if !isKeyword t text then expecting t (describe (.keyword text))

def demandOperator (inner : Inner) (text : String) : Parse Unit := do
  let t ← next inner false true
  if !isOperator t text then expecting t (describe (.operator text))

/-- The text of a word without its quotes, and whether it had some. -/
def unquote (word : Word) : String × Bool :=
  word.foldl (fun (text, quoted) part => match part with
    | .text more q => (text ++ more, quoted || q)
    | .parameter name _ q => (text ++ "$" ++ name, quoted || q)
    | _ => (text, quoted)) ("", false)

/-- Reads what a redirection leads to. -/
def redirection (inner : Inner) (target : Nat) (text : String) : Parse Redirection := do
  match ← next inner false false with
  | .word word =>
      match text with
      | "<<" | "<<-" => do
          let (delimiter, quoted) := unquote word
          let number := (← get).nextDocument
          modify fun r => { r with
            nextDocument := number + 1
            awaited := r.awaited ++ [⟨number, delimiter, !quoted, text = "<<-"⟩] }
          return .mk target (.document number !quoted) []
      | ">&" | "<&" => return .mk target .duplicate word
      | "<" => return .mk target .input word
      | "<>" => return .mk target .both word
      | ">>" => return .mk target .append word
      | ">|" => return .mk target .overwriting word
      | _ => return .mk target .output word
  | t => unexpected t

/-- Splits a word that gives a variable a value. -/
def assignment? (word : Word) : Option (String × Word) :=
  match word with
  | .text text false :: rest =>
      let name := text.toList.takeWhile (· != '=')
      match text.toList.drop name.length with
      | _ :: value =>
          if isName (String.ofList name) then
            some (String.ofList name,
              if value.isEmpty then rest else .text (String.ofList value) false :: rest)
          else none
      | [] => none
  | _ => none

/-- What has been read of a simple command, the last of each kind first. -/
structure Simple where
  assignments : List (String × Word) := []
  words : List Word := []
  redirections : List Redirection := []

/-- Reads on in a simple command, where `command` reads the body of a function. -/
def simple (inner : Inner) (command : Parse Tree) (line : Nat) : Nat → Simple → Parse Tree
  | 0, _ => throw .more
  | bound + 1, s => do
      match ← nextWord inner s.words.isEmpty with
      | .word word =>
          match if s.words.isEmpty then assignment? word else none with
          | some a => simple inner command line bound { s with assignments := a :: s.assignments }
          | none => simple inner command line bound { s with words := word :: s.words }
      | .redirect target text => do
          let r ← redirection inner target text
          simple inner command line bound { s with redirections := r :: s.redirections }
      | t =>
          let isDefinition :=
            isOperator t "(" && s.words.length = 1 && s.assignments.isEmpty &&
              s.redirections.isEmpty
          if isDefinition then
            demandOperator inner ")"
            let name := (s.words.head?.bind plainText?).getD ""
            if !isName name || reserved.contains name then fault "Bad function name"
            let line := (← get).line
            let t ← next inner true true
            hold t
            return .define line name (← command)
          else
            hold t
            return .simple line s.assignments.reverse s.words.reverse s.redirections.reverse

/-- The redirections that follow a command. -/
def redirections (inner : Inner) : Nat → List Redirection → Parse (List Redirection)
  | 0, acc => return acc.reverse
  | bound + 1, acc => do
      match ← next inner false true with
      | .redirect target text => do
          redirections inner bound ((← redirection inner target text) :: acc)
      | t => do
          hold t
          return acc.reverse

/-- The words after `in`, up to the end of the line. -/
def forWords (inner : Inner) : Nat → List Word → Parse (List Word)
  | 0, acc => return acc.reverse
  | bound + 1, acc => do
      match ← next inner false false with
      | .word word => forWords inner bound (word :: acc)
      | t =>
          if isNewline t || isOperator t ";" then return acc.reverse else unexpected t

/-- The patterns of a clause, up to the closing bracket. -/
def patterns (inner : Inner) : Nat → Token → List Word → Parse (List Word)
  | 0, _, acc => return acc.reverse
  | bound + 1, t, acc => do
      let acc := match t with
        | .word word => word :: acc
        | .keyword text => [.text text false] :: acc
        | _ => acc
      let t ← next inner false false
      if isOperator t "|" then patterns inner bound (← next inner false false) acc
      else if isOperator t ")" then return acc.reverse
      else expecting t "\")\""

/-- How a list of commands is bounded. -/
inductive Extent where
  /-- By the end of the line. -/
  | line
  /-- By a keyword or bracket; there is at least one command. -/
  | block
  /-- By a keyword or bracket; there may be no command. -/
  | any
  deriving DecidableEq, Repr

/-- The list of commands up to its end. -/
abbrev Lister := Extent → Parse (Option Tree)

/-- What `lister` reads as a block. -/
def block (lister : Lister) : Parse Tree := do
  match ← lister .block with
  | some tree => return tree
  | none => return .sequence []

def clauses (inner : Inner) (lister : Lister) :
    Nat → List (List Word × Option Tree) → Parse (List (List Word × Option Tree))
  | 0, acc => return acc.reverse
  | bound + 1, acc => do
      let t ← next inner true true
      if isKeyword t "esac" then return acc.reverse
      let t ← if isOperator t "(" then next inner false false else pure t
      let words ← patterns inner patience t []
      let body ← lister .any
      let acc := (words, body) :: acc
      let t ← next inner true true
      if isKeyword t "esac" then return acc.reverse
      else if isOperator t ";;" then clauses inner lister bound acc
      else expecting t "\";;\""

/-- Reads on in a choice, after its first word. -/
def choice (inner : Inner) (lister : Lister) : Nat → Parse Tree
  | 0 => throw .more
  | bound + 1 => do
      let test ← block lister
      demandKeyword inner "then" false
      let body ← block lister
      let t ← next inner false true
      if isKeyword t "elif" then
        return .choice test body (some (← choice inner lister bound))
      else if isKeyword t "else" then
        let otherwise ← block lister
        demandKeyword inner "fi" false
        return .choice test body (some otherwise)
      else if isKeyword t "fi" then return .choice test body none
      else expecting t (describe (.keyword "fi"))

def allArguments : Word := [.parameter "@" .value true]

def forLoop (inner : Inner) (lister : Lister) (line : Nat) : Parse Tree := do
  let t ← next inner false false
  let name := match t with
    | .word word => (plainText? word).getD ""
    | _ => ""
  if !isName name then fault "Bad for loop variable"
  let t ← next inner true true
  let words ←
    if isKeyword t "in" then forWords inner patience []
    else do
      if !isOperator t ";" then hold t
      pure [allArguments]
  demandKeyword inner "do" true
  let body ← block lister
  demandKeyword inner "done" false
  return .each line name words body

def caseOf (inner : Inner) (lister : Lister) (line : Nat) : Parse Tree := do
  match ← next inner false false with
  | .word subject => do
      demandKeyword inner "in" true
      return .select line subject (← clauses inner lister patience [])
  | t => expecting t "word"

/-- Adds the redirections that follow a command. -/
def withRedirections (inner : Inner) (line : Nat) (tree : Tree) : Parse Tree := do
  match ← redirections inner patience [] with
  | [] => return tree
  | list =>
      match tree with
      | .subshell line body _ => return .subshell line body list
      | tree => return .redirected line tree list

/-- A command that is no pipeline. -/
def command (inner : Inner) (lister : Lister) : Nat → Parse Tree
  | 0 => throw .more
  | bound + 1 => do
      let t ← next inner false true
      let line := (← get).line
      match t with
      | .keyword "if" => withRedirections inner line (← choice inner lister patience)
      | .keyword "while" | .keyword "until" => do
          let test ← block lister
          demandKeyword inner "do" false
          let body ← block lister
          demandKeyword inner "done" false
          withRedirections inner line (.loop (isKeyword t "until") test body)
      | .keyword "for" => withRedirections inner line (← forLoop inner lister line)
      | .keyword "case" => withRedirections inner line (← caseOf inner lister line)
      | .keyword "\x7b" => do
          let body ← block lister
          demandKeyword inner "\x7d" false
          withRedirections inner line body
      | .operator "(" => do
          let body ← block lister
          demandOperator inner ")"
          withRedirections inner line (.subshell line body [])
      | .word _ | .redirect .. => do
          hold t
          simple inner (command inner lister bound) line patience {}
      | t => unexpected t

/-- Tells tokens as keywords before a command. -/
def readyFor (inner : Inner) (newlines : Bool) : Parse Unit := do
  hold (← next inner newlines true)

def stages (inner : Inner) (lister : Lister) : Nat → List Tree → Parse (List Tree)
  | 0, acc => return acc.reverse
  | bound + 1, acc => do
      let acc := (← command inner lister patience) :: acc
      let t ← next inner false false
      if isOperator t "|" then
        readyFor inner true
        stages inner lister bound acc
      else
        hold t
        return acc.reverse

def pipeline (inner : Inner) (lister : Lister) : Parse Tree := do
  let t ← next inner false true
  let negated := isKeyword t "!"
  if negated then readyFor inner false else hold t
  let line := (← get).line
  let tree ← match ← stages inner lister patience [] with
    | [tree] => pure tree
    | trees => pure (.pipeline line trees)
  return if negated then .negation tree else tree

def conditions (inner : Inner) (lister : Lister) : Nat → Tree → Parse Tree
  | 0, tree => return tree
  | bound + 1, tree => do
      let t ← next inner false false
      if isOperator t "&&" || isOperator t "||" then
        readyFor inner true
        let second ← pipeline inner lister
        conditions inner lister bound
          (if isOperator t "&&" then .both tree second else .either tree second)
      else
        hold t
        return tree

def isEnder : Token → Bool
  | .keyword text => enders.contains text
  | .operator text => text = ")" || text = ";;"
  | .eof => true
  | _ => false

def ofTrees (trees : List Tree) : Option Tree :=
  match trees with
  | [] => none
  | [tree] => some tree
  | trees => some (.sequence trees.reverse)

/-- Reads on in a list of commands, the last one first in `acc`. -/
def listFrom (inner : Inner) (lister : Lister) (extent : Extent) :
    Nat → Bool → List Tree → Parse (Option Tree)
  | 0, _, acc => return ofTrees acc
  | bound + 1, mayEnd, acc => do
      let t ← next inner (extent != .line) true
      if extent = .line && isNewline t then return ofTrees acc
      hold t
      match t with
      | .eof => return ofTrees acc
      | _ => pure ()
      if mayEnd && extent != .line && isEnder t then return ofTrees acc
      let line := (← get).line
      let tree ← conditions inner lister patience (← pipeline inner lister)
      let t ← next inner false false
      if isOperator t "&" then
        listFrom inner lister extent bound true (.background line tree :: acc)
      else if isOperator t ";" then listFrom inner lister extent bound true (tree :: acc)
      else
        match t with
        | .newline => do
            if extent = .line then hold t
            listFrom inner lister extent bound true (tree :: acc)
        | .eof => do
            hold t
            return ofTrees (tree :: acc)
        | t => do
            if extent = .line then unexpected t
            hold t
            return ofTrees (tree :: acc)

/-- Reads a list of commands, where `depth` bounds how deep commands are nested. -/
def list (inner : Inner) : Nat → Lister
  | 0, _ => throw .more
  | depth + 1, extent =>
      listFrom inner (list inner depth) extent patience (extent = .any) []

/-- How to read the commands of substitutions, nested at most `depth` deep. -/
def inner : Nat → Inner
  | 0 => { ofText := fun _ => throw .more, toBracket := throw .more }
  | depth + 1 =>
      let deeper := inner depth
      { ofText := fun text => do
          let outer ← get
          set { outer with rest := text, closed := true, held := none, opened := [] }
          let tree ← list deeper patience .any
          let t ← next deeper true true
          match t with
          | .eof => pure ()
          | t => unexpected t
          modify fun r => { r with rest := outer.rest, closed := outer.closed, held := outer.held
                                   line := outer.line, opened := outer.opened }
          return tree.toList
        toBracket := do
          let outer ← get
          set { outer with held := none }
          let tree ← list deeper patience .any
          demandOperator deeper ")"
          modify fun r => { r with held := outer.held }
          return tree.toList }

/-- So deep may commands be nested in words. -/
def deepest : Nat := 1000

def standard : Inner := inner deepest

/-- Reads the commands of the next line, or of as many as belong together. Nothing is left if `none`
is the answer; a line may hold no command. -/
def line : Parse (Option (Option Tree)) := do
  let t ← next standard false true
  match t with
  | .eof => return none
  | .newline => return some none
  | t => do
      hold t
      return some (← list standard patience .line)

end Grammar

end LineShell.Machine.Script
