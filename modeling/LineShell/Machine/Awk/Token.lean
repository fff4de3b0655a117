import LineShell.Machine.Awk.Number
import LineShell.Machine.Awk.Pattern
import LineShell.Machine.Awk.Tree

/-!
The words of `awk` programs. What a character begins may depend on the word before it: a slash after
a value divides, and elsewhere it opens a regular expression.
-/

namespace LineShell.Machine.Awk

inductive Token where
  | finish
  | newline
  | semicolon
  /-- A separator that is understood before a closing brace. -/
  | understood
  | mark (text : String)
  | word (text : String)
  | builtin (b : Builtin) (text : String)
  | name (text : String)
  /-- The name of a function that is called. -/
  | call (text : String)
  | number (x : Float) (shown : String)
  | string (s : String)
  | regex (source : String)
  /-- A character that begins no token. -/
  | stray (c : Char)

namespace Token

/-- How a token is named in complaints. -/
def shown : Token → String
  | finish => "end of file"
  | newline => "end of line"
  | semicolon => ";"
  | understood => "\x7d"
  | regex source => "/" ++ source ++ "/"
  | stray c => String.singleton c
  | mark text | word text | builtin _ text | name text | call text | number _ text | string text => text

def isMark (text : String) : Token → Bool
  | mark other => other = text
  | _ => false

def isWord (text : String) : Token → Bool
  | word other => other = text
  | _ => false

/-- The token separates statements. -/
def separates : Token → Bool
  | newline | semicolon | understood => true
  | _ => false

/-- A slash behind the token divides. -/
def precedesDivision : Token → Bool
  | number .. | string _ | regex _ | name _ => true
  | mark m => [")", "]", "++", "--"].contains m
  | word w => w = "getline"
  | _ => false

/-- The token may be the first one of an operand that follows another. -/
def startsOperand : Token → Bool
  | number .. | string _ | regex _ | name _ | call _ | builtin .. => true
  | mark m => ["(", "$", "!", "++", "--"].contains m
  | word w => w = "getline"
  | _ => false

end Token

def keywords : List String := [
  "BEGIN", "END", "function", "func", "if", "else", "while", "for", "do", "break", "continue", "next",
  "nextfile", "exit", "return", "delete", "in", "print", "printf", "getline"]

/-- The builtin functions, with how many arguments they take at least and at most. -/
def builtins : List (String × Builtin × Nat × Nat) := [
  ("length", .length, 0, 1), ("substr", .substr, 2, 3), ("index", .index, 2, 2),
  ("split", .split, 2, 3), ("sub", .sub, 2, 3), ("gsub", .gsub, 2, 3), ("match", .match, 2, 2),
  ("sprintf", .sprintf, 1, 255), ("sin", .sin, 1, 1), ("cos", .cos, 1, 1), ("atan2", .atan2, 2, 2),
  ("exp", .exp, 1, 1), ("log", .log, 1, 1), ("sqrt", .sqrt, 1, 1), ("int", .int, 1, 1),
  ("rand", .rand, 0, 0), ("srand", .srand, 0, 1), ("toupper", .toupper, 1, 1),
  ("tolower", .tolower, 1, 1), ("system", .system, 1, 1), ("close", .close, 1, 1),
  ("fflush", .fflush, 0, 1)]

/-- The marks of more than one character, the longer ones first. -/
def longMarks : List String := [
  "++", "--", "+=", "-=", "*=", "/=", "%=", "^=", "==", "<=", ">=", ">>", "!=", "!~", "&&", "||"]

def shortMarks : List Char := [
  '\x7b', '\x7d', '(', ')', '[', ']', ',', '+', '-', '*', '/', '%', '^', '!', '<', '>', '|', '?', ':',
  '~', '$', '=']

namespace Token

/-- The characters of a string up to its closing quote, with the text behind it. Where nothing else
is known to stand behind a backslash, the backslash stands for itself. -/
def stringBody : Nat → List Char → List Char → Option (List Char × List Char)
  | 0, _, _ => none
  | bound + 1, found, text =>
      match text with
      | [] | '\n' :: _ => none
      | '"' :: rest => some (found.reverse, rest)
      | '\\' :: '\n' :: rest => stringBody bound found rest
      | '\\' :: c :: rest =>
          if c = '"' || c = '\\' then stringBody bound (c :: found) rest
          else match Pattern.escaped? (c :: rest) with
            | some (d, rest) => stringBody bound (d :: found) rest
            | none => stringBody bound (c :: '\\' :: found) rest
      | c :: rest => stringBody bound (c :: found) rest

/-- Where in a regular expression its end is looked for. -/
inductive Within where
  | outside
  /-- In a bracket, at the place where a closing one stands for itself. -/
  | opened
  | bracket
  deriving DecidableEq, Repr

/-- The characters of a regular expression up to its closing slash, with the text behind it. -/
def regexBody : Nat → Within → List Char → List Char → Option (List Char × List Char)
  | 0, _, _, _ => none
  | bound + 1, within, found, text =>
      match text with
      | [] | '\n' :: _ => none
      | '\\' :: '/' :: rest => regexBody bound within ('/' :: found) rest
      | '\\' :: c :: rest =>
          if c = '\n' then none
          else regexBody bound (if within = .opened then .bracket else within)
            (c :: '\\' :: found) rest
      | c :: rest =>
          match within, c with
          | .outside, '/' => some (found.reverse, rest)
          | .outside, '[' =>
              match rest with
              | '^' :: rest => regexBody bound .opened ('^' :: '[' :: found) rest
              | rest => regexBody bound .opened ('[' :: found) rest
          | .bracket, ']' => regexBody bound .outside (']' :: found) rest
          | .opened, c => regexBody bound .bracket (c :: found) rest
          | within, c => regexBody bound within (c :: found) rest

/-- A number at the front of a text. -/
def number? (text : List Char) : Option (Token × List Char) :=
  (Numeral.mantissa? 10 text).map fun (n, places, rest) =>
    let (e, rest) := Numeral.exponent ['e', 'E'] rest
    let e := max (-Numeral.farExponent) (min Numeral.farExponent e)
    let shown := String.ofList (text.take (text.length - rest.length))
    (.number (Number.ofQuantity (.finite false (Ratio.scale ⟨n, 1⟩ 10 (e - places)))) shown, rest)

/-- The text behind blanks, comments and the ends of lines that are continued, and how many lines
were left behind. -/
def skipBlanks : Nat → Nat → List Char → List Char × Nat
  | 0, lines, text => (text, lines)
  | bound + 1, lines, text =>
      match text with
      | '\\' :: '\n' :: rest => skipBlanks bound (lines + 1) rest
      | '#' :: rest => (rest.dropWhile (· != '\n'), lines)
      | c :: rest =>
          if Class.isBlank c || c = '\r' || c = '\x0b' || c = '\x0c' then
            skipBlanks bound lines rest
          else (text, lines)
      | [] => ([], lines)

/-- The text behind blanks and ends of lines, and how many lines were left behind. -/
def skipLines : Nat → Nat → List Char → List Char × Nat
  | 0, lines, text => (text, lines)
  | bound + 1, lines, text =>
      match skipBlanks (text.length + 1) lines text with
      | ('\n' :: rest, lines) => skipLines bound (lines + 1) rest
      | found => found

/-- So much of a text that does not end is told in a complaint. -/
def excerpt (text : List Char) : String :=
  String.ofList ((text.takeWhile (· != '\n')).take 10) ++ " ..."

end Token

end LineShell.Machine.Awk
