import LineShell.Machine.Regex

/-!
Reading regular expressions. In the basic form, groups, alternatives and intervals are marked by
backslashes; in the extended form, it is the plain characters that are marked.
-/

namespace LineShell.Machine.Regex

/-- How a program writes regular expressions. -/
structure Dialect where
  extended : Bool := false
  /-- A repetition of nothing is wrong. -/
  strict : Bool := false
  /-- A closing parenthesis without an opening one stands for itself. -/
  strays : Bool := false
  /-- What is no interval stands for itself. -/
  loose : Bool := false
  /-- A range may end before it starts. -/
  emptyRanges : Bool := false
  /-- The name of a class outside of a bracket is wrong. -/
  careful : Bool := false
  deriving DecidableEq, Repr

inductive Token where
  | finish
  | one (r : Regex)
  | edge (e : Edge)
  | bracket
  | opening
  | closing
  | bar
  /-- A repetition, with the character that asks for it. -/
  | repeated (c : Char) (least : Nat) (most : Option Nat)
  | interval
  | again (number : Nat)
  deriving Repr

namespace Message

def unmatchedBracket : String := "Unmatched [, [^, [:, [., or [="

def unmatchedOpening : String := "Unmatched ( or \\("

def unmatchedClosing : String := "Unmatched ) or \\)"

def unmatchedInterval : String := "Unmatched \\\x7b"

def invalidInterval : String := "Invalid content of \\\x7b\\\x7d"

def tooBig : String := "Regular expression too big"

def invalid : String := "Invalid regular expression"

def invalidRange : String := "Invalid range end"

def invalidClass : String := "Invalid character class name"

def invalidSymbol : String := "Invalid collation character"

def invalidReference : String := "Invalid back reference"

def invalidRepetition : String := "Invalid preceding regular expression"

def trailingBackslash : String := "Trailing backslash"

def bareClass : String := "character class syntax is [[:space:]], not [:space:]"

end Message

def words : Regex := among false [.named "alnum", .range '_' '_']

def noWords : Regex := among true [.named "alnum", .range '_' '_']

/-- What a character behind a backslash means in every dialect. -/
def escaped (c : Char) : Token :=
  match c with
  | 'w' => .one words
  | 'W' => .one noWords
  | 's' => .one (among false [.named "space"])
  | 'S' => .one (among true [.named "space"])
  | 'b' => .edge .word
  | 'B' => .edge .noWord
  | '<' => .edge .wordStart
  | '>' => .edge .wordEnd
  | '\x60' => .edge .start
  | '\'' => .edge .finish
  | c =>
      if '1' ≤ c && c ≤ '9' then .again (c.toNat - '0'.toNat) else .one (char c)

/-- What an operator of the extended form means. -/
def operator? (c : Char) : Option Token :=
  match c with
  | '(' => some .opening
  | ')' => some .closing
  | '|' => some .bar
  | '\x7b' => some .interval
  | '+' => some (.repeated c 1 none)
  | '?' => some (.repeated c 0 (some 1))
  | _ => none

/-- In the basic form, a dollar sign asks for the end only before one. -/
def endsHere (rest : List Char) : Bool :=
  match rest with
  | [] | '\\' :: ')' :: _ | '\\' :: '|' :: _ => true
  | _ => false

/-- The first token of a text, where `first` says that an expression may start. -/
def token (d : Dialect) (first : Bool) : List Char → Except String (Token × List Char)
  | [] => .ok (.finish, [])
  | ['\\'] => .error Message.trailingBackslash
  | '\\' :: c :: rest =>
      .ok ((if d.extended then escaped c else (operator? c).getD (escaped c)), rest)
  | '[' :: rest => .ok (.bracket, rest)
  | '.' :: rest => .ok (.one any, rest)
  | '*' :: rest => .ok (.repeated '*' 0 none, rest)
  | '^' :: rest => .ok ((if d.extended || first then .edge .start else .one (char '^')), rest)
  | '$' :: rest => .ok ((if d.extended || endsHere rest then .edge .finish else .one (char '$')), rest)
  | c :: rest => .ok (((if d.extended then operator? c else none).getD (.one (char c))), rest)

/-! ### Brackets -/

/-- What stands before a mark and a closing bracket, and what follows. -/
def upToMark (mark : Char) : List Char → Option (List Char × List Char)
  | c :: ']' :: rest =>
      if c = mark then some ([], rest)
      else (upToMark mark (']' :: rest)).map fun (name, rest) => (c :: name, rest)
  | c :: rest => (upToMark mark rest).map fun (name, rest) => (c :: name, rest)
  | [] => none

/-- What an element of a bracket is: a class, or a character, which may be an end of a range. -/
inductive Element where
  | class (name : String)
  | char (c : Char)
  /-- A character with an equals sign on both sides is no end of a range. -/
  | equal (c : Char)
  deriving DecidableEq, Repr

def element : List Char → Except String (Element × List Char)
  | '[' :: mark :: rest =>
      if mark = ':' || mark = '.' || mark = '=' then
        match upToMark mark rest with
        | none => .error Message.unmatchedBracket
        | some (name, rest) =>
            if mark = ':' then
              if (Class.named? (String.ofList name)).isSome then
                .ok (.class (String.ofList name), rest)
              else .error Message.invalidClass
            else match name with
              | [c] => .ok ((if mark = '=' then .equal c else .char c), rest)
              | _ => .error Message.invalidSymbol
      else .ok (.char '[', mark :: rest)
  | c :: rest => .ok (.char c, rest)
  | [] => .error Message.unmatchedBracket

/-- Reads what a bracket holds, and its end. -/
def bracket (d : Dialect) : Nat → Bool → List Member → List Char →
    Except String (List Member × List Char)
  | 0, _, _, _ | _, _, _, [] => .error Message.unmatchedBracket
  | bound + 1, first, found, c :: rest => do
      if c = ']' && !first then return (found.reverse, rest)
      if c = '-' && !first && rest.head? != some ']' then throw Message.invalidRange
      let (low, rest) ← element (c :: rest)
      match low with
      | .class name => bracket d bound false (.named name :: found) rest
      | .equal c => bracket d bound false (.range c c :: found) rest
      | .char low =>
          let single := bracket d bound false (.range low low :: found) rest
          match rest with
          | '-' :: ']' :: _ => single
          | '-' :: rest => do
              match ← element rest with
              | (.char high, rest) =>
                  if high < low && !d.emptyRanges then throw Message.invalidRange
                  bracket d bound false (.range low high :: found) rest
              | _ => throw Message.invalidRange
          | _ => single

/-- A bracket that looks like the name of a class. -/
def isBareClass (members : List Member) : Bool :=
  let colon : Member := .range ':' ':'
  members.head? = some colon && members.getLast? = some colon && members.any (· != colon) &&
    members.all fun m => match m with
      | .range low high => low = high
      | .named _ => false

/-- Reads a bracket behind its opening. -/
def brackets (d : Dialect) (text : List Char) : Except String (Regex × List Char) := do
  let (negated, inside) := match text with
    | '^' :: inside => (true, inside)
    | inside => (false, inside)
  if inside.isEmpty then throw Message.invalid
  let (members, rest) ← bracket d (inside.length + 1) true [] inside
  if d.careful && isBareClass members then throw Message.bareClass
  return (among negated members, rest)

/-! ### Repetitions -/

/-- What a number in an interval can be. -/
inductive Limit where
  | absent
  | number (n : Nat)
  | wrong
  deriving DecidableEq, Repr

/-- What stands behind a number in an interval. -/
inductive Follower where
  | comma
  | close
  | finish
  deriving DecidableEq, Repr

def mostTimes : Nat := 32767

def limit (d : Dialect) : List Char → Limit → Limit × Follower × List Char
  | [], _ => (.wrong, .finish, [])
  | c :: rest, l =>
      if c = ',' then (l, .comma, rest)
      else if d.extended && c = '\x7d' then (l, .close, rest)
      else if !d.extended && c = '\\' && rest.head? = some '\x7d' then (l, .close, rest.drop 1)
      else
        let value : Nat := c.toNat - '0'.toNat
        limit d rest (match l with
          | .absent => if c.isDigit then .number value else .wrong
          | .number n =>
              if c.isDigit then .number (min (mostTimes + 1) (n * 10 + value)) else .wrong
          | .wrong => .wrong)

/-- Reads an interval behind its opening, or nothing if it is none and that is allowed. -/
def interval (d : Dialect) (text : List Char) :
    Except String (Option (Nat × Option Nat × List Char)) := do
  let (low, follower, rest) := limit d text .absent
  if low = .absent && follower != .comma then throw Message.invalidInterval
  let low := if low = .absent then Limit.number 0 else low
  let (high, follower, rest) := match low, follower with
    | .wrong, _ => (low, follower, rest)
    | _, .close => (low, follower, rest)
    | _, .comma => limit d rest .absent
    | _, .finish => (.wrong, .finish, rest)
  match low, high with
  | .number least, .number most =>
      if most < least || follower != .close then throw Message.invalidInterval
      if mostTimes < most then throw Message.tooBig
      return some (least, some most, rest)
  | .number least, .absent =>
      if follower != .close then throw Message.invalidInterval
      if mostTimes < least then throw Message.tooBig
      return some (least, none, rest)
  | _, _ =>
      if d.loose then return none
      throw (if follower = .finish then Message.unmatchedInterval else Message.invalidInterval)

/-- How far the reading has come. -/
structure Reading where
  rest : List Char
  opened : Nat := 0
  closed : List Nat := []
  /-- Operators with nothing before them. -/
  idle : List String := []
  deriving Repr

/-- Reads the repetitions that follow an expression. -/
def repetitions (d : Dialect) : Nat → Regex → Reading → Except String (Regex × Reading)
  | 0, r, st => .ok (r, st)
  | bound + 1, r, st => do
      let goOn (r : Regex) (st : Reading) : Except String (Regex × Reading) := do
        if d.strict && !d.extended then
          match ← token d false st.rest with
          | (.repeated '*' .., _) | (.interval, _) => throw Message.invalidRepetition
          | _ => pure ()
        repetitions d bound r st
      match ← token d false st.rest with
      | (.repeated _ least most, rest) => goOn (times r least most) { st with rest := rest }
      | (.interval, rest) =>
          match ← interval d rest with
          | some (least, most, rest) => goOn (times r least most) { st with rest := rest }
          | none => return (r, st)
      | _ => return (r, st)

/-- Reads an expression, after the alternatives `before` and the part `here`, up to the end of the
text or of the group. That an expression starts here is what `first` says. -/
def expression (d : Dialect) : Nat → Bool → Bool → Option Regex → Regex → Reading →
    Except String (Regex × Reading)
  | 0, _, _, _, _, _ => .error Message.tooBig
  | bound + 1, nested, first, before, here, st => do
      let whole : Regex := before.elim here fun b => either b here
      let append (r : Regex) : Regex := match here with
        | nothing => r
        | here => seq here r
      let atom (r : Regex) (st : Reading) : Except String (Regex × Reading) := do
        let (r, st) ← repetitions d (st.rest.length + 1) r st
        expression d bound nested false before (append r) st
      let idle (name : String) (c : Char) (next : Reading) (wrong : Bool) :
          Except String (Regex × Reading) := do
        if wrong then throw Message.invalidRepetition
        if !d.extended then atom (char c) next
        else
          let (r, next) ← repetitions d (st.rest.length + 1) nothing st
          expression d bound nested false before (append r)
            { next with idle := next.idle ++ [name] }
      let (t, rest) ← token d first st.rest
      let next : Reading := { st with rest := rest }
      match t with
      | .finish => if nested then throw Message.unmatchedOpening else return (whole, next)
      | .bar => expression d bound nested true (some whole) nothing next
      | .closing =>
          if nested then return (whole, next)
          if !d.strays then throw Message.unmatchedClosing
          atom (char ')') next
      | .opening => do
          let number := st.opened + 1
          let (r, st) ← expression d bound true true none nothing { next with opened := number }
          atom (group number r) { st with closed := number :: st.closed }
      | .one r => atom r next
      | .bracket => do
          let (r, rest) ← brackets d rest
          atom r { st with rest := rest }
      | .again number =>
          if !st.closed.contains number then throw Message.invalidReference
          atom (again number) next
      | .edge e => expression d bound nested false before (append (edge e)) next
      | .interval =>
          if d.extended && d.loose && (interval d rest matches .ok none) then
            atom (char '\x7b') next
          else idle "\x7b...\x7d" '\x7b' next d.strict
      | .repeated c .. => idle (String.singleton c) c next (d.strict && d.extended)

/-- Reads a regular expression, and tells how many groups it has and which operators in it have
nothing before them. -/
def parse (d : Dialect) (text : List Char) : Except String (Regex × Reading) :=
  expression d (2 * text.length + 2) false true none nothing { rest := text }

end LineShell.Machine.Regex
