import LineShell.Machine.Numeral
import LineShell.Machine.Quoting
import LineShell.Machine.Tool

/-!
Tools that only print: their arguments, or what a format makes of them.
-/

namespace LineShell.Machine.Tool

/-- Letters that stand for other characters after a backslash. -/
def escapeLetters : List (Char × Char) := [
  ('\\', '\\'), ('a', '\x07'), ('b', '\x08'), ('e', '\x1b'), ('f', '\x0c'), ('n', '\n'), ('r', '\r'),
  ('t', '\t'), ('v', '\x0b')]

def byteChar (n : Nat) : Char := Char.ofNat (n % 256)

/-- What stands after a backslash. -/
inductive Escaped where
  | chars (cs : List Char) (rest : List Char)
  /-- Nothing more is to be printed. -/
  | stop
  | wrong (text : String)

/-! ### Words -/

/-- A flag of `echo`: letters that each change one setting. -/
def isEchoFlag (arg : String) : Bool :=
  match arg.toList with
  | '-' :: c :: rest => (c :: rest).all (['n', 'e', 'E'].contains ·)
  | _ => false

/-- What stands after a backslash in the words of `echo`. -/
def wordEscape (text : List Char) : Escaped :=
  let octal (text : List Char) : Escaped :=
    let (n, rest) := Class.number 8 3 0 text
    .chars [byteChar n] rest
  match text with
  | [] => .chars ['\\'] []
  | 'c' :: _ => .stop
  | '0' :: rest => octal rest
  | 'x' :: c :: rest =>
      if Class.isHexDigit c then
        let (n, rest) := Class.number 16 2 0 (c :: rest)
        .chars [byteChar n] rest
      else .chars ['\\', 'x'] (c :: rest)
  | c :: rest =>
      match escapeLetters.lookup c with
      | some d => .chars [d] rest
      | none => if '1' ≤ c && c ≤ '7' then octal text else .chars ['\\', c] rest

/-- A text with its escapes carried out, and whether one of them asked for an end. -/
def carryOut (escape : List Char → Escaped) : Nat → List Char → List Char → List Char × Bool
  | 0, _, acc | _, [], acc => (acc.reverse, false)
  | bound + 1, '\\' :: rest, acc =>
      match escape rest with
      | .chars cs rest => carryOut escape bound rest (cs.reverse ++ acc)
      | _ => (acc.reverse, true)
  | bound + 1, c :: rest, acc => carryOut escape bound rest (c :: acc)

def echo : Tool Unit := do
  let args := (← read).arguments
  let flags := args.takeWhile isEchoFlag
  let letters := flags.flatMap (·.toList.drop 1)
  let text := " ".intercalate (args.drop flags.length)
  let newline := if letters.contains 'n' then "" else "\n"
  if letters.reverse.find? (['e', 'E'].contains ·) = some 'e' then
    let (cs, ended) := carryOut wordEscape (text.length + 1) text.toList []
    putText (String.ofList cs ++ if ended then "" else newline)
  else putText (text ++ newline)

/-! ### Formats -/

/-- How far printing by a format has come. -/
structure Formatting where
  arguments : List String
  used : Bool := false
  stopped : Bool := false

abbrev Formatter := StateT Formatting Tool

namespace Formatter

def argument? : Formatter (Option String) := do
  match (← get).arguments with
  | [] => return none
  | a :: rest => do
      modify fun f => { f with arguments := rest, used := true }
      return some a

def emit (text : String) : Formatter Unit := putText text

/-- A character by its number, which cannot be shown but as that. -/
def unicode (letter : Char) (n : Nat) : Escaped :=
  let digits := Directive.digitsIn 16 false n
  let width := if letter = 'u' then 4 else 8
  let padded (upper : Bool) (width : Nat) : String :=
    let digits := if upper then digits.toUpper else digits
    "".pushn '0' (width - digits.length) ++ digits
  if n = 0x24 || n = 0x40 || n = 0x60 then .chars [Char.ofNat n] []
  else if n ≤ 0x9f || (0xd800 ≤ n && n ≤ 0xdfff) then
    .wrong ("invalid universal character name \\" ++ String.singleton letter ++ padded false width)
  else if n ≤ 0xffff then .chars ("\\u" ++ padded true 4).toList []
  else .chars ("\\U" ++ padded true 8).toList []

/-- What stands after a backslash in a format, or in an argument for which `inArgument` says that a
zero may stand before octal digits. -/
def escape (inArgument : Bool) (text : List Char) : Escaped :=
  let missing : Escaped := .wrong "missing hexadecimal number in escape"
  let octal (limit : Nat) (text : List Char) : Escaped :=
    let (n, rest) := Class.number 8 limit 0 text
    .chars [byteChar n] rest
  match text with
  | [] => .chars ['\\'] []
  | 'c' :: _ => .stop
  | '"' :: rest => .chars ['"'] rest
  | 'x' :: rest =>
      let (n, after) := Class.number 16 2 0 rest
      if after.length = rest.length then missing else .chars [byteChar n] after
  | c :: rest =>
      if c = 'u' || c = 'U' then
        let width := if c = 'u' then 4 else 8
        let (n, after) := Class.number 16 width 0 rest
        if rest.length - after.length < width then missing
        else match unicode c n with
          | .chars cs _ => .chars cs after
          | other => other
      else match escapeLetters.lookup c with
        | some d => .chars [d] rest
        | none =>
            if inArgument && c = '0' then octal 3 rest
            else if (Class.digit? 8 c).isSome then octal 3 text
            else .chars ['\\', c] rest

def complain (text : String) : Formatter Unit := Tool.complain text

def greatest : Int := 9223372036854775807

def wordSize : Int := 18446744073709551616

/-- The value of a character in quotes. -/
def quotedValue? (text : String) : Formatter (Option Nat) := do
  match text.toList with
  | q :: c :: rest =>
      if q = '"' || q = '\'' then
        if !rest.isEmpty then
          warn ("warning: " ++ String.ofList rest ++
            ": character(s) following character constant have been ignored")
        return some c.toNat
      else return none
  | _ => return none

/-- Complains of an argument that is no number, or not only one. -/
def check (text : String) (found : Bool) (rest : List Char) : Formatter Unit := do
  if !rest.isEmpty then
    complain (Quoting.plain text ++ if found then ": value not completely converted"
      else ": expected a numeric value")

/-- The number that a text is, within bounds. -/
def integerOf (low high : Int) (text : String) : Formatter Int := do
  match ← quotedValue? text with
  | some n => return n
  | none =>
      match Numeral.integer? text.toList with
      | none => do
          check text false text.toList
          return 0
      | some (n, rest) => do
          if n < low || high < n then complain (named (Quoting.plain text) .outOfRange)
          else check text true rest
          return max low (min high n)

def integer (low high : Int) : Formatter Int := do
  match ← argument? with
  | none => return 0
  | some text => integerOf low high text

/-- Binary digits of the numbers that are printed, and how many of them lead in base 16. -/
def bits : Nat := 64

def leadingBits : Nat := 4

def real : Formatter Quantity := do
  match ← argument? with
  | none => return .finite false ⟨0, 1⟩
  | some text =>
      match ← quotedValue? text with
      | some n => return .finite false ⟨n, 1⟩
      | none =>
          match Numeral.real? text.toList with
          | none => do
              check text false text.toList
              return .finite false ⟨0, 1⟩
          | some (q, rest) => do
              check text true rest
              return q

def intLimit : Int := 2147483647

/-- A count that an argument gives. -/
def count (what : String) (c : Directive.Count) : Formatter (Option Int) := do
  match c with
  | .argument => do
      match ← argument? with
      | none => return some 0
      | some text => do
          let n ← integerOf (-greatest - 1) greatest text
          if n < -intLimit || intLimit < n then
            Tool.fail 1 ("invalid " ++ what ++ ": " ++ Quoting.plain text)
          return some n
  | _ => return none

/-- The conversions that may follow some flags and a precision. -/
def conversions (flags : List Char) (hasPrecision : Bool) : List Char :=
  let all := "diouxXfFeEgGaAcs".toList
  let barred (c : Char) : List Char :=
    match c with
    | '\'' | 'I' => "aAceEosxX".toList
    | '#' => "cdisu".toList
    | '0' => "cs".toList
    | _ => []
  let bars := flags.flatMap barred ++ if hasPrecision then ['c'] else []
  all.filter (!bars.contains ·)

/-- Prints by one directive. -/
def directive (d : Directive) (letter : Char) : Formatter Unit := do
  match letter with
  | 'c' => emit (d.pad (String.singleton (((← argument?).getD "").toList.headD '\x00')))
  | 's' => emit (d.text ((← argument?).getD ""))
  | 'd' | 'i' => emit (d.signed (← integer (-greatest - 1) greatest))
  | 'o' | 'u' | 'x' | 'X' => do
      let n ← integer (-wordSize + 1) (wordSize - 1)
      emit (d.unsigned letter (n % wordSize).toNat)
  | _ => emit (d.float letter leadingBits (Numeral.round bits (← real)))

/-- Reads the flags, counts and letter after a percent sign, and prints by them. -/
def conversion (text : List Char) : Formatter (List Char) := do
  let isFlag (c : Char) : Bool := "-+ #0'I".toList.contains c
  let flags := text.takeWhile isFlag
  let shown := flags.filter fun c => c != '\'' && c != 'I'
  let (outline, rest) := Directive.readOutline (shown ++ text.drop flags.length)
  let width ← count "field width" outline.width
  let precision ← count "precision" outline.precision
  let rest := rest.dropWhile fun c => "hlLjtz".toList.contains c
  let hasPrecision := outline.precision != .absent
  match rest with
  | letter :: after =>
      if (conversions flags hasPrecision).contains letter then
        directive (Directive.ofOutline outline width precision) letter
        return after
      else wrong (text.take (text.length - after.length))
  | [] => wrong text
where
  wrong (text : List Char) : Formatter (List Char) :=
    Tool.fail 1 ("%" ++ String.ofList text ++ ": invalid conversion specification")

/-- Prints an argument with its escapes carried out. -/
def escapedArgument : Nat → List Char → Formatter Unit
  | 0, _ | _, [] => return ()
  | bound + 1, '\\' :: rest => do
      match escape true rest with
      | .chars cs rest => do
          emit (String.ofList cs)
          escapedArgument bound rest
      | .stop => modify fun f => { f with stopped := true }
      | .wrong text => Tool.fail 1 text
  | bound + 1, c :: rest => do
      emit (String.singleton c)
      escapedArgument bound rest

/-- Prints by a format once. -/
def once : Nat → List Char → Formatter Unit
  | 0, _ | _, [] => return ()
  | bound + 1, c :: rest => do
      match c, rest with
      | '\\', rest =>
          match escape false rest with
          | .chars cs rest => do
              emit (String.ofList cs)
              once bound rest
          | .stop => modify fun f => { f with stopped := true }
          | .wrong text => Tool.fail 1 text
      | '%', '%' :: rest => do
          emit "%"
          once bound rest
      | '%', 'b' :: rest => do
          if let some text := ← argument? then escapedArgument (text.length + 1) text.toList
          if !(← get).stopped then once bound rest
      | '%', 'q' :: rest => do
          if let some text := ← argument? then emit (Quoting.ifNeeded text)
          once bound rest
      | '%', rest => do
          let rest ← conversion rest
          once bound rest
      | c, rest => do
          emit (String.singleton c)
          once bound rest

/-- Prints by a format as often as there are arguments for. -/
def repeatedly (format : List Char) : Nat → Formatter Unit
  | 0 => return ()
  | bound + 1 => do
      modify fun f => { f with used := false }
      once (format.length + 1) format
      let f ← get
      if f.stopped || f.arguments.isEmpty then return ()
      if f.used then repeatedly format bound
      else warn ("warning: ignoring excess arguments, starting with " ++
        Quoting.plain (f.arguments.headD ""))

end Formatter

def printf : Tool Unit := do
  let args := (← read).arguments
  let args := if args.head? = some "--" then args.drop 1 else args
  match args with
  | [] => misuse 1 "missing operand"
  | format :: args => do
      let ((), _) ← (Formatter.repeatedly format.toList (args.length + 1)).run { arguments := args }
      return ()

/-! ### Names of files -/

/-- The names in a path that say something. -/
def pathWords (text : String) : List String := (Path.names text).filter (!·.isEmpty)

def withoutSuffix (name suffix : String) : String :=
  if name != suffix && name.endsWith suffix then
    String.ofList (name.toList.take (name.length - suffix.length))
  else name

def lastWord (text : String) : String :=
  (pathWords text).getLast?.getD (if text.isEmpty then "" else "/")

def basename : Tool Unit := do
  let o ← options 1 "+as:z" "multiple=a suffix:=s zero=z"
  let ending := if o.isSet "z" then "\x00" else "\n"
  match o.operands with
  | [] => misuse 1 "missing operand"
  | text :: rest => do
      if o.isSet "a" || o.isSet "s" then
        let suffix := (o.value? "s").getD ""
        for text in o.operands do
          putText (withoutSuffix (lastWord text) suffix ++ ending)
      else
        if let some extra := rest[1]? then misuse 1 ("extra operand " ++ Quoting.plain extra)
        putText (withoutSuffix (lastWord text) (rest.headD "") ++ ending)

/-- The path of the directory that a path lies in. -/
def directoryOf (text : String) : String :=
  let cs := (text.toList.reverse.dropWhile (· = '/')).dropWhile (· != '/')
  let path := String.ofList (cs.dropWhile (· = '/')).reverse
  if !path.isEmpty then path
  else if cs.isEmpty && !text.startsWith "/" then "."
  else "/"

def dirname : Tool Unit := do
  let o ← options 1 "z" "zero=z"
  if o.operands.isEmpty then misuse 1 "missing operand"
  for text in o.operands do
    putText (directoryOf text ++ if o.isSet "z" then "\x00" else "\n")

/-! ### Surroundings -/

def printenv : Tool Unit := do
  let o ← options 2 "+0" "null=0"
  let settings := (← world).self.settings
  let ending := if o.isSet "0" then "\x00" else "\n"
  if o.operands.isEmpty then
    for (name, value) in settings do putText (name ++ "=" ++ value ++ ending)
  for name in o.operands do
    match settings.lookup name with
    | some value => putText (value ++ ending)
    | none => blame 1

/-- A path that leads to the working directory without detours. -/
def isSoundPath (w : World) (path : String) : Bool :=
  Path.isAbsolute path && !(Path.names path).any (fun n => n = "." || n = "..") &&
    match w.system.tree.locate w.self.cwd path with
    | .ok n => n = w.self.cwd
    | .error _ => false

def pwd : Tool Unit := do
  let o ← options 1 "LP" "logical=L physical=P"
  if !o.operands.isEmpty then warn "ignoring non-option arguments"
  let w ← world
  let given := (w.self.settings.lookup "PWD").getD ""
  if o.last? ["L", "P"] = some "L" && isSoundPath w given then putText (given ++ "\n")
  else match w.system.tree.nameOf? w.self.cwd with
    | some name => putText (name ++ "\n")
    | none => fail 1 "couldn't find directory entry in '..' with matching i-node"

end LineShell.Machine.Tool
