import LineShell.Machine.Regex

/-!
Regular expressions as `awk` writes them: in the extended form, and with the names of control
characters behind backslashes, also within brackets.
-/

namespace LineShell.Machine.Awk.Pattern

namespace Message

def missingClosing : String := "missing ')'"

def missingOperand : String := "missing operand"

def badBracket : String := "bad class -- [], [^] or ["

def badInterval : String := "bad interval expression"

def repeatedStart : String := "syntax error ^* or ^+"

def tooLarge : String := "resource exhaustion -- regular expression too large"

end Message

/-- The control characters that letters behind a backslash stand for. -/
def controls : List (Char × Char) := [
  ('a', '\x07'), ('b', '\x08'), ('t', '\t'), ('n', '\n'), ('v', '\x0b'), ('f', '\x0c'), ('r', '\r')]

/-- The character that a control letter or a number behind a backslash stands for. -/
def escaped? : List Char → Option (Char × List Char)
  | [] => none
  | c :: rest =>
      match controls.lookup c with
      | some d => some (d, rest)
      | none =>
          if c = 'x' && rest.head?.any fun d => (Class.digit? 16 d).isSome then
            let (n, rest) := Class.number 16 2 0 rest
            some (Char.ofNat n, rest)
          else if (Class.digit? 8 c).isSome then
            let (n, rest) := Class.number 8 3 0 (c :: rest)
            some (Char.ofNat (n % 256), rest)
          else none

/-- A character that may stand behind a backslash, and the text after it. -/
def letter : List Char → Option (Char × List Char)
  | '\\' :: c :: rest => some ((escaped? (c :: rest)).getD (c, rest))
  | c :: rest => some (c, rest)
  | [] => none

/-! ### Brackets -/

/-- The name of a class and what stands after it. -/
def className? (text : List Char) : Option (String × List Char) :=
  let name := text.takeWhile Char.isAlpha
  match text.drop name.length with
  | ':' :: ']' :: rest => some (String.ofList name, rest)
  | _ => none

/-- Reads what a bracket holds, and its end. A range that ends before it starts is no range. -/
def bracket : Nat → Bool → List Member → List Char → Except String (List Member × List Char)
  | 0, _, _, _ => .error Message.badBracket
  | bound + 1, first, found, text =>
      match text with
      | [] => .error Message.badBracket
      | ']' :: rest =>
          if first then bracket bound false [.range ']' ']'] rest else .ok (found.reverse, rest)
      | '[' :: ':' :: rest =>
          match className? rest with
          | some (name, rest) =>
              if (Class.named? name).isSome then bracket bound false (.named name :: found) rest
              else .error Message.badBracket
          | none => .error Message.badBracket
      | text =>
          match letter text with
          | none => .error Message.badBracket
          | some (low, rest) =>
              let single := bracket bound false (.range low low :: found) rest
              match rest with
              | '-' :: ']' :: _ => single
              | '-' :: rest =>
                  match letter rest with
                  | some (high, after) =>
                      if low ≤ high then bracket bound false (.range low high :: found) after
                      else single
                  | none => single
              | _ => single

/-! ### Repetitions -/

/-- The bounds of an interval, behind its opening. -/
def interval? (text : List Char) : Option ((Nat × Option Nat) × List Char) :=
  let low := text.takeWhile Char.isDigit
  let least := (Class.number 10 low.length 0 low).1
  match text.drop low.length with
  | '\x7d' :: rest => if low.isEmpty then none else some ((least, some least), rest)
  | ',' :: rest =>
      let high := rest.takeWhile Char.isDigit
      match rest.drop high.length with
      | '\x7d' :: after =>
          some ((least, if high.isEmpty then none
            else some (Class.number 10 high.length 0 high).1), after)
      | _ => none
  | _ => none

def repetitions : Nat → Regex → List Char → Except String (Regex × List Char)
  | 0, r, text => .ok (r, text)
  | bound + 1, r, text =>
      let isStart := match r with
        | .edge .start => true
        | _ => false
      match text with
      | '*' :: rest =>
          if isStart then .error Message.repeatedStart
          else repetitions bound (.times r 0 none) rest
      | '+' :: rest =>
          if isStart then .error Message.repeatedStart
          else repetitions bound (.times r 1 none) rest
      | '?' :: rest => repetitions bound (.times r 0 (some 1)) rest
      | '\x7b' :: rest =>
          match interval? rest with
          | some ((least, most), rest) =>
              if most.any (· < least) then .error Message.badInterval
              else repetitions bound (.times r least most) rest
          | none => .ok (r, text)
      | text => .ok (r, text)

/-! ### Expressions -/

/-- The characters of an operand that stands for itself or for a class of characters. -/
def operand (text : List Char) : Except String (Regex × List Char) :=
  match text with
  | [] => .error Message.missingOperand
  | '*' :: _ | '+' :: _ | '?' :: _ => .error Message.missingOperand
  | '\x7b' :: rest =>
      if (interval? rest).isSome then .error Message.tooLarge
      else .ok (Regex.char '\x7b', rest)
  | '.' :: rest => .ok (Regex.any, rest)
  | '^' :: rest => .ok (.edge .start, rest)
  | '$' :: rest => .ok (.edge .finish, rest)
  | '[' :: '^' :: rest => do
      let (members, rest) ← bracket (rest.length + 1) true [] rest
      return (.among true members, rest)
  | '[' :: rest => do
      let (members, rest) ← bracket (rest.length + 1) true [] rest
      return (.among false members, rest)
  | c :: rest =>
      let (c, rest) := (letter (c :: rest)).getD (c, rest)
      .ok (Regex.char c, rest)

mutual

/-- Reads what stands between bars, within so many open parentheses. -/
def alternatives : Nat → Nat → List Char → Except String (Regex × List Char)
  | 0, _, _ => .error Message.tooLarge
  | bound + 1, depth, text => do
      let (first, rest) ← branch bound depth none text
      match rest with
      | ['|'] => .error Message.missingOperand
      | '|' :: rest => do
          let (second, rest) ← alternatives bound depth rest
          return (.either first second, rest)
      | rest => return (first, rest)

/-- Reads what comes one after another, after what was found. -/
def branch : Nat → Nat → Option Regex → List Char → Except String (Regex × List Char)
  | 0, _, _, _ => .error Message.tooLarge
  | bound + 1, depth, found, text => do
      let goOn (r : Regex) (rest : List Char) : Except String (Regex × List Char) := do
        let (r, rest) ← repetitions (rest.length + 1) r rest
        branch bound depth (some (match found with
          | some f => .seq f r
          | none => r)) rest
      let finish : Except String (Regex × List Char) :=
        match found with
        | some r => .ok (r, text)
        | none =>
            .error (if text.isEmpty && depth != 0 then Message.missingClosing
              else Message.missingOperand)
      match text with
      | [] => finish
      | '|' :: _ => finish
      | ')' :: rest => if depth = 0 then goOn (Regex.char ')') rest else finish
      | '(' :: ')' :: rest =>
          if found.isSome then branch bound depth found rest else .error Message.missingOperand
      | '(' :: rest =>
          match ← alternatives bound (depth + 1) rest with
          | (r, ')' :: rest) => goOn r rest
          | _ => .error Message.missingClosing
      | text => do
          let (r, rest) ← operand text
          goOn r rest

end

/-- The expression that a text is. No text at all matches everywhere. -/
def parse (text : List Char) : Except String Regex := do
  if text.isEmpty then return .nothing
  let (r, _) ← alternatives (2 * text.length + 2) 0 text
  return r

end LineShell.Machine.Awk.Pattern
