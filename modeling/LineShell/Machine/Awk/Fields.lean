import LineShell.Machine.Awk.Pattern
import LineShell.Split

/-!
The parts of a text that separators leave, and other parts put in the place of what matches.
-/

namespace LineShell.Machine.Awk

/-- What separates the fields of a text. -/
inductive Separator where
  /-- Blanks and newlines, which are no part of any field. -/
  | blanks
  /-- Every character is a field. -/
  | nothing
  | char (c : Char)
  | regex (r : Regex)

namespace Separator

/-- What a text says. -/
def ofText (text : String) : Except String Separator := do
  match text.toList with
  | [] => return nothing
  | [' '] => return blanks
  | [c] => return char c
  | cs => return regex (← Pattern.parse cs)

def isBlank (c : Char) : Bool := c = ' ' || c = '\t' || c = '\n'

/-- The fields between matches that are not empty, where the last field starts at `start` and
matches are looked for from `from_` on. -/
def matchFields (s : Regex.Subject) (r : Regex) : Nat → Nat → Nat → List (List Char)
  | 0, start, _ => [s.text.drop start]
  | bound + 1, start, from_ =>
      match Regex.search? s r from_ with
      | none => [s.text.drop start]
      | some m =>
          if m.stop = m.start then
            if s.text.length ≤ m.stop then [s.text.drop start]
            else matchFields s r bound start (m.stop + 1)
          else
            (s.text.drop start).take (m.start - start) :: matchFields s r bound m.stop m.stop

/-- The fields of a text. An empty text has none. -/
def fields (s : Separator) (text : List Char) : List (List Char) :=
  if text.isEmpty then []
  else match s with
    | blanks => (pieces isBlank text).filter (!·.isEmpty)
    | nothing => text.map ([·])
    | char c => pieces (· = c) text
    | regex r => matchFields { text := text } r (text.length + 1) 0 0

end Separator

/-! ### Substitution -/

/-- A part of what is put in the place of a match. -/
inductive Insertion where
  | char (c : Char)
  | matched
  deriving DecidableEq, Repr

namespace Insertion

/-- What a text says: an ampersand is the match, unless a backslash stands before it. Two
backslashes before an ampersand are one. -/
def ofText : List Char → List Insertion
  | '\\' :: '\\' :: '&' :: rest => char '\\' :: matched :: ofText rest
  | '\\' :: '&' :: rest => char '&' :: ofText rest
  | '&' :: rest => matched :: ofText rest
  | c :: rest => char c :: ofText rest
  | [] => []

def fill (parts : List Insertion) (found : List Char) : List Char :=
  parts.flatMap fun p => match p with
    | char c => [c]
    | matched => found

/-- Puts parts in the place of matches from a position on, all of them or only the first. Where a
match has ended, no empty one counts. The text before comes in pieces, the last one first. -/
def replace (s : Regex.Subject) (r : Regex) (parts : List Insertion) (all : Bool) :
    Nat → Nat → Option Nat → Nat → List (List Char) → Nat × List (List Char)
  | 0, position, _, count, done => (count, s.text.drop position :: done)
  | bound + 1, position, ended, count, done =>
      let rest := s.text.drop position
      match Regex.search? s r position with
      | none => (count, rest :: done)
      | some m =>
          let isEmpty := m.start = m.stop
          if isEmpty && ended = some m.start then
            match rest with
            | [] => (count, done)
            | c :: _ => replace s r parts all bound (position + 1) none count ([c] :: done)
          else
            let done := fill parts (m.text s 0) :: rest.take (m.start - position) :: done
            if !all then (count + 1, s.text.drop m.stop :: done)
            else if isEmpty then
              match s.text.drop m.stop with
              | [] => (count + 1, done)
              | c :: _ => replace s r parts all bound (m.stop + 1) none (count + 1) ([c] :: done)
            else replace s r parts all bound m.stop (some m.stop) (count + 1) done

end Insertion

/-- How often an expression matches, and the text with a replacement in the place of matches. -/
def substitute (r : Regex) (replacement text : String) (all : Bool) : Nat × String :=
  let cs := text.toList
  let (count, done) := Insertion.replace { text := cs } r (Insertion.ofText replacement.toList) all
    (2 * cs.length + 2) 0 none 0 []
  (count, String.ofList done.reverse.flatten)

end LineShell.Machine.Awk
