import LineShell.Machine.Regex.Parse
import LineShell.Machine.Tool.Copying

/-!
A tool that numbers lines. Lines of a certain form divide the text into pages with a header, a body and
a footer, each of which may be numbered in its own way.
-/

namespace LineShell.Machine.Tool

/-- Which lines have a number. -/
inductive NumberStyle where
  | all
  | filled
  | none
  | matching (r : Regex)

namespace NumberStyle

/-- Reads the name of a style, or gives what is wrong with it as an expression. `none` stands for no
style at all. -/
def ofText? (text : String) : Option (Except String NumberStyle) :=
  match text.toList with
  | 'a' :: _ => some (.ok .all)
  | 't' :: _ => some (.ok .filled)
  | 'n' :: _ => some (.ok .none)
  | 'p' :: pattern =>
      match Regex.parse {} pattern with
      | .ok (r, _) => some (.ok (.matching r))
      | .error _ => some (.error Regex.Message.invalid)
  | _ => Option.none

end NumberStyle

/-- How the numbers of lines are printed. -/
structure NumberFormat where
  width : Nat := 6
  separator : String := "\t"
  form : String := "rn"
  step : Int := 1
  /-- Of empty lines in a row, so many share a number. -/
  joined : Nat := 1

namespace NumberFormat

def numberText (n : NumberFormat) (number : Int) : String :=
  let text := toString number
  match n.form with
  | "ln" => padRight n.width text
  | "rz" =>
      let digits := toString number.natAbs
      let sign := if number < 0 then "-" else ""
      sign ++ "".pushn '0' (n.width - digits.length - sign.length) ++ digits
  | _ => padLeft n.width text

def blank (n : NumberFormat) : String := "".pushn ' ' (n.width + n.separator.length)

end NumberFormat

/-- The parts of a page. -/
inductive Section where
  | header
  | body
  | footer
  deriving DecidableEq, Repr

/-- A page, as options tell of it. -/
structure Page where
  header : NumberStyle := .none
  body : NumberStyle := .filled
  footer : NumberStyle := .none
  /-- What stands once before a footer, twice before a body and three times before a header. -/
  mark : Bytes := [92, 58]

namespace Page

def style (p : Page) : Section → NumberStyle
  | .header => p.header
  | .body => p.body
  | .footer => p.footer

/-- The part that begins with a line. -/
def section? (p : Page) (line : Bytes) : Option Section :=
  if p.mark.length < 2 then none
  else if line = p.mark ++ p.mark ++ p.mark then some .header
  else if line = p.mark ++ p.mark then some .body
  else if line = p.mark then some .footer
  else none

/-- The mark with some of its characters changed. -/
def withMark (p : Page) (text : String) : Page :=
  let bytes := Raw.toBytes text
  { p with mark := if bytes.length ≤ 2 then bytes ++ p.mark.drop bytes.length else bytes }

end Page

/-- How far the numbering has come. -/
structure Numbered where
  next : Int
  place : Section := .body
  /-- Empty lines in a row without a number. -/
  empty : Nat := 0

/-- Whether a line has a number, and how many empty lines have none by then. -/
def isNumbered (style : NumberStyle) (joined empty : Nat) (line : Bytes) : Bool × Nat :=
  match style with
  | .all =>
      if joined ≤ 1 then (true, empty)
      else if !line.isEmpty || empty + 1 = joined then (true, 0)
      else (false, empty + 1)
  | .filled => (!line.isEmpty, empty)
  | .none => (false, empty)
  | .matching r =>
      let text := (Raw.ofBytes line).toList
      ((Regex.search? { text := text } r 0).isSome, empty)

/-- A number that an option gives, as far as it may go. -/
def integerBetween (low high : Int) (what text : String) : Tool Int := do
  let wrong (reason : String) : Tool Int :=
    fail 1 ("invalid " ++ what ++ ": " ++ Quoting.plain text ++ reason)
  match Numeral.decimal? text.toList with
  | some (n, []) =>
      if low ≤ n && n ≤ high then return n
      else if n.natAbs ≤ Size.moderate then wrong (": " ++ Errno.outOfRange.sentence)
      else wrong (": " ++ Errno.overflow.sentence)
  | _ => wrong ""

def greatestInteger : Int := 9223372036854775807

/-- What `nl` has been told. -/
structure NumberingPlan where
  page : Page := {}
  format : NumberFormat := {}
  start : Int := 1
  /-- Numbers begin anew on each page. -/
  resets : Bool := true
  isSound : Bool := true

namespace NumberingPlan

def readStyle (plan : NumberingPlan) (part text : String)
    (set : NumberStyle → Page) : Tool NumberingPlan := do
  match NumberStyle.ofText? text with
  | some (.ok style) => return { plan with page := set style }
  | some (.error wrong) => fail 1 wrong
  | none => do
      warn ("invalid " ++ part ++ " numbering style: " ++ Quoting.plain text)
      return { plan with isSound := false }

def option (plan : NumberingPlan) (key value : String) : Tool NumberingPlan := do
  let set (format : NumberFormat) : NumberingPlan := { plan with format := format }
  let number := integerBetween (-greatestInteger - 1) greatestInteger
  match key with
  | "h" => plan.readStyle "header" value fun s => { plan.page with header := s }
  | "b" => plan.readStyle "body" value fun s => { plan.page with body := s }
  | "f" => plan.readStyle "footer" value fun s => { plan.page with footer := s }
  | "v" => return { plan with start := ← number "starting line number" value }
  | "i" => return set { plan.format with step := ← number "line number increment" value }
  | "p" => return { plan with resets := false }
  | "l" => do
      let n ← integerBetween 1 greatestInteger "line number of blank lines" value
      return set { plan.format with joined := n.toNat }
  | "s" => return set { plan.format with separator := value }
  | "w" => do
      let n ← integerBetween 1 Size.greatestPid "line number field width" value
      return set { plan.format with width := n.toNat }
  | "n" =>
      if ["ln", "rn", "rz"].contains value then return set { plan.format with form := value }
      warn ("invalid line numbering format: " ++ Quoting.plain value)
      return { plan with isSound := false }
  | "d" => return { plan with page := plan.page.withMark value }
  | _ => return plan

/-- Prints a line, with a number or without. -/
def line (plan : NumberingPlan) (s : Numbered) (line : Bytes) : Tool Numbered := do
  match plan.page.section? line with
  | some place => do
      putText "\n"
      return { s with place := place, next := if plan.resets then plan.start else s.next }
  | none => do
      let (numbered, empty) := isNumbered (plan.page.style s.place) plan.format.joined s.empty line
      putText (if numbered then plan.format.numberText s.next ++ plan.format.separator
        else plan.format.blank)
      put (line ++ [10])
      return { s with empty := empty, next := if numbered then s.next + plan.format.step else s.next }

def files (plan : NumberingPlan) : List String → Numbered → Tool Unit
  | [], _ => return ()
  | operand :: rest, s => do
      let s ← withInput operand
        (fun e => do
          complain (named (Quoting.ifNeeded operand) e)
          return s)
        fun d => do
          let (s, failure) ← foldLines d 10 (fun _ s line => do
            return .more (← plan.line s line)) patience [] s
          if let some e := failure then complain (named (Quoting.ifNeeded operand) e)
          return s
      plan.files rest s

end NumberingPlan

def nl : Tool Unit := do
  let words :=
    "header-numbering:=h body-numbering:=b footer-numbering:=f starting-line-number:=v " ++
      "line-increment:=i no-renumber=p join-blank-lines:=l number-separator:=s number-width:=w " ++
      "number-format:=n section-delimiter:=d"
  let (o, trouble) :=
    Options.parse (Options.known "b:d:f:h:i:l:n:ps:v:w:" words) (← read).arguments
  let plan ← o.given.foldlM (fun (plan : NumberingPlan) (key, value) => plan.option key value) {}
  if let some e := trouble then misuse 1 e
  if !plan.isSound then hint 1
  plan.files (orInput o.operands) { next := plan.start }

end LineShell.Machine.Tool
