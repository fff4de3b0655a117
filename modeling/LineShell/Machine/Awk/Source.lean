import LineShell.Machine.Awk.Token

/-!
The text of a program as it is read: its tokens one after another, what its names have been found to
be the names of, and what is wrong with it.
-/

namespace LineShell.Machine.Awk

/-- What a name has been used for. -/
inductive Kind where
  | value
  | table
  | function
  deriving DecidableEq, Repr

/-- Why reading cannot go on. -/
inductive Fault where
  /-- Reading may go on behind the next separator. -/
  | misplaced
  | hopeless
  deriving DecidableEq, Repr

/-- A call that is checked when all functions are known. -/
structure Request where
  function : String
  /-- The names that arguments consist of. -/
  args : List (Option String)
  line : Nat

structure Source where
  text : List Char
  /-- The name of the file that is read, if it is one, and the files after it. -/
  file : Option String := none
  further : List (String × List Char) := []
  line : Nat := 1
  /-- The line in which the last token stands. -/
  tokenLine : Nat := 1
  last : Token := .newline
  /-- A token that was looked at and not yet taken. -/
  ahead : Option Token := none
  parens : Nat := 0
  braces : Nat := 0
  kinds : List (String × Kind)
  /-- The parameters of the function that is read, and what they are used for. -/
  own : List String := []
  ownKinds : List (String × Kind) := []
  /-- How many loops what is read lies in. -/
  loops : Nat := 0
  inFunction : Bool := false
  /-- Records are at hand, which can be left. -/
  inRule : Bool := true
  complaints : List String := []
  /-- So many tokens must be taken before what is misplaced is told again. -/
  quiet : Nat := 0
  requests : List Request := []
  /-- What the parameters of functions are used for. -/
  expected : List (String × List (Option Kind)) := []
  rules : List Rule := []
  functions : List Function := []

abbrev Reading := EStateM Fault Source

namespace Reading

variable {α : Type}

/-- After so many complaints, no more is read. -/
def mostComplaints : Nat := 5

/-- Notes what is wrong in the file that is read. -/
def note (text : String) : Reading Unit := do
  let s ← get
  let place := (s.file.map (· ++ ": ")).getD ""
  set { s with complaints := (place ++ text) :: s.complaints }
  if mostComplaints ≤ s.complaints.length + 1 then throw .hopeless

/-- Notes what is wrong, as of a line. -/
def complainAt (line : Nat) (text : String) : Reading Unit :=
  note ("line " ++ toString line ++ ": " ++ text)

def complain (text : String) : Reading Unit := do complainAt (← get).tokenLine text

def despair (text : String) : Reading α := do
  complain text
  throw .hopeless

def skipBlanks : Reading Unit := modify fun s =>
  let (text, line) := Token.skipBlanks (s.text.length + 1) s.line s.text
  { s with text := text, line := line }

def skipLines : Reading Unit := modify fun s =>
  let (text, line) := Token.skipLines (s.text.length + 1) s.line s.text
  { s with text := text, line := line }

/-- Goes on over so many characters. -/
def drop (count : Nat) : Reading Unit := modify fun s => { s with text := s.text.drop count }

/-- A closing brace, before which a separator may be understood. -/
def closingBrace : Reading (Option Token) := do
  let s ← get
  drop 1
  if s.braces = 0 then
    complain "extra '\x7d'"
    skipSemicolon
    return none
  else if s.last.separates || s.last.isMark "\x7d" then
    set { ← get with braces := s.braces - 1 }
    if s.braces = 1 then skipSemicolon
    skipLines
    return some (.mark "\x7d")
  else
    set s
    return some .understood
where
  skipSemicolon : Reading Unit := do
    skipBlanks
    if (← get).text.head? = some ';' then drop 1

/-- What a name at the front of the text is. -/
def nameToken : Reading Token := do
  let s ← get
  let cs := s.text.takeWhile fun c => c.isAlphanum || c = '_'
  let name := String.ofList cs
  drop cs.length
  if keywords.contains name then
    if name = "else" || name = "do" then skipLines
    return .word (if name = "func" then "function" else name)
  else
    match builtins.lookup name with
    | some (b, _) => return .builtin b name
    | none =>
        if s.own.contains name then return .name name
        match s.kinds.lookup name with
        | some .function => return .call name
        | some _ => return .name name
        | none =>
            return if (s.text.drop cs.length).head? = some '(' then .call name else .name name

/-- Complains of a number that is too large or too small. -/
def checkSize (t : Token) : Reading Unit := do
  if let .number x shown := t then
    let mantissa := shown.toList.takeWhile fun c => c != 'e' && c != 'E'
    if x.isInf then complain (shown ++ " : decimal overflow")
    else if x == 0 && mantissa.any fun c => '1' ≤ c && c ≤ '9' then
      complain (shown ++ " : decimal underflow")

/-- Checks a regular expression. -/
def checkRegex (source : String) : Reading Unit := do
  if let .error e := Pattern.parse source.toList then
    despair ("regular expression compile failed (" ++ e ++ ")\n" ++ source)

/-- Reads a token. -/
def scan : Nat → Reading Token
  | 0 => return .finish
  | bound + 1 => do
      skipBlanks
      modify fun s => { s with tokenLine := s.line }
      let s ← get
      match s.text with
      | [] =>
          match s.further with
          | [] => return .finish
          | (file, text) :: further => do
              set { s with file := some file, text := text, further := further, line := 1 }
              scan bound
      | '\n' :: _ => do
          skipLines
          return .newline
      | ';' :: _ => do
          drop 1
          skipLines
          return .semicolon
      | '"' :: rest =>
          match Token.stringBody (rest.length + 1) [] rest with
          | some (cs, rest) => do
              set { s with text := rest }
              return .string (String.ofList cs)
          | none => despair ("runaway string constant \"" ++ Token.excerpt rest)
      | '\x7d' :: _ =>
          match ← closingBrace with
          | some t => return t
          | none => scan bound
      | '\x7b' :: _ => do
          drop 1
          modify fun s => { s with braces := s.braces + 1 }
          skipLines
          return .mark "\x7b"
      | '(' :: _ => do
          drop 1
          modify fun s => { s with parens := s.parens + 1 }
          return .mark "("
      | ')' :: _ => do
          drop 1
          if s.parens = 0 then
            complain "extra ')'"
            scan bound
          else
            set { ← get with parens := s.parens - 1 }
            return .mark ")"
      | c :: rest => do
          if c = '/' && !s.last.precedesDivision then
            match Token.regexBody (rest.length + 1) .outside [] rest with
            | some (cs, rest) =>
                set { s with text := rest }
                let source := String.ofList cs
                checkRegex source
                return .regex source
            | none => despair ("runaway regular expression /" ++ Token.excerpt rest)
          else if c.isAlpha || c = '_' then nameToken
          else match Token.number? s.text with
            | some (t, rest) =>
                set { s with text := rest }
                checkSize t
                return t
            | none =>
                match longMarks.find? fun m => m.toList.isPrefixOf s.text with
                | some m =>
                    drop m.length
                    if m = "&&" || m = "||" then skipLines
                    return .mark m
                | none =>
                    if shortMarks.contains c then
                      drop 1
                      if c = ',' then skipLines
                      return .mark (String.singleton c)
                    else
                      drop 1
                      return .stray c

/-- The next token, which is not taken. -/
def peek : Reading Token := do
  let s ← get
  match s.ahead with
  | some t => return t
  | none => do
      let t ← scan (s.text.length + s.further.length + 2)
      modify fun s => { s with ahead := some t, last := t }
      return t

/-- Takes the next token. -/
def take : Reading Token := do
  let t ← peek
  modify fun s => { s with ahead := none, quiet := s.quiet - 1 }
  return t

/-- So many tokens after one that was misplaced, others that are misplaced are not told. -/
def quietTime : Nat := 3

def opensItem (t : Token) : Bool := t.isWord "BEGIN" || t.isWord "END"

/-- What comes next should not be there. -/
def misplaced : Reading α := do
  let t ← peek
  let s ← get
  set { s with quiet := quietTime }
  if s.quiet = 0 then
    match t with
    | .stray c =>
        note (toString s.tokenLine ++ ": unexpected character '" ++ String.singleton c ++ "'")
    | t =>
        if 0 < s.braces && (t matches .finish || opensItem t) then
          modify fun s => { s with braces := 0 }
          complain ("missing \x7d near " ++ t.shown)
        else if 0 < s.parens && (t.separates || t.isMark "\x7d" || t matches .finish) then
          complain ("missing ) near " ++ t.shown)
        else complain ("syntax error at or near " ++ t.shown)
  throw .misplaced

def isNext (mark : String) : Reading Bool := do return (← peek).isMark mark

/-- Takes the next token, which must be this one. -/
def expect (mark : String) : Reading Unit := do
  if ← isNext mark then
    let _ ← take
  else misplaced

/-- Takes the next token, if it is this one. -/
def accept (mark : String) : Reading Bool := do
  if ← isNext mark then
    let _ ← take
    return true
  else return false

/-- Takes what separates statements. -/
def separator : Reading Unit := do
  if (← peek).separates then
    let _ ← take
  else misplaced

/-! ### Names -/

/-- What a name stands for, and what it has been used for. -/
def resolve (name : String) : Reading (Name × Option Kind) := do
  let s ← get
  match s.own.idxOf? name with
  | some i => return (.own i, s.ownKinds.lookup name)
  | none => return (.shared name, s.kinds.lookup name)

/-- Uses a name for something, for which it must not have been used otherwise. -/
def use (name : String) (kind : Kind) : Reading Name := do
  let (n, known) ← resolve name
  match known with
  | some other =>
      if other != kind then
        let what := match n, other with
          | .own _, .table => "local array "
          | .own _, _ => "local variable "
          | _, .table => "array "
          | _, .value => "variable "
          | _, .function => "function "
        complain ("illegal reference to " ++ what ++ name)
  | none =>
      modify fun s => match n with
        | .own _ => { s with ownKinds := (name, kind) :: s.ownKinds }
        | .shared _ => { s with kinds := (name, kind) :: s.kinds }
  return n

/-- Takes the name of an array. -/
def tableName : Reading Name := do
  match ← peek with
  | .name text => do
      let _ ← take
      use text .table
  | _ => misplaced

end Reading

end LineShell.Machine.Awk
