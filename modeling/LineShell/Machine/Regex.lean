import LineShell.Machine.Glob

/-!
Regular expressions over texts of bytes. A match starts as far to the left as it can, and is then as
long as it can be; among the ways to come that far, what stands first in the expression decides.
-/

namespace LineShell.Machine

/-- What can be asked of a place between two characters. -/
inductive Edge where
  | start
  | finish
  | wordStart
  | wordEnd
  /-- At a start or an end of a word. -/
  | word
  | noWord
  deriving DecidableEq, Repr

inductive Regex where
  | nothing
  /-- One character of some, or if negated one of the others. -/
  | among (negated : Bool) (members : List Member)
  | edge (e : Edge)
  | seq (first second : Regex)
  | either (first second : Regex)
  | times (r : Regex) (least : Nat) (most : Option Nat)
  | group (number : Nat) (r : Regex)
  /-- The text of a group once more. -/
  | again (number : Nat)
  deriving Repr

namespace Regex

def char (c : Char) : Regex := among false [.range c c]

/-- Any character. -/
def any : Regex := among true []

def ofText (text : List Char) : Regex := text.foldr (fun c r => seq (char c) r) nothing

/-- Where in a text a match is looked for, and how. -/
structure Subject where
  text : List Char
  /-- Capital letters and small ones are the same. -/
  folds : Bool := false
  /-- Lines within the text have starts and ends. -/
  lines : Bool := false
  deriving DecidableEq, Repr

namespace Subject

def fold (s : Subject) (c : Char) : Char := if s.folds then c.toLower else c

def holds (s : Subject) (negated : Bool) (members : List Member) (c : Char) : Bool :=
  let isIn (c : Char) : Bool := members.any (·.holds c)
  (isIn c || (s.folds && (isIn c.toLower || isIn c.toUpper))) != negated

end Subject

/-- The part of the text that a group has matched. -/
structure Mark where
  group : Nat
  start : Nat
  stop : Nat
  deriving DecidableEq, Repr

/-- How far a match has come. -/
structure Cursor where
  position : Nat := 0
  before : Option Char := none
  rest : List Char
  marks : List Mark := []
  deriving DecidableEq, Repr

namespace Cursor

def step (c : Cursor) (first : Char) (rest : List Char) : Cursor :=
  { c with position := c.position + 1, before := some first, rest := rest }

/-- Goes on over so many characters. -/
def skip : Nat → Cursor → Cursor
  | 0, c => c
  | n + 1, c => match c.rest with
    | first :: rest => skip n (c.step first rest)
    | [] => c

def mark? (c : Cursor) (group : Nat) : Option Mark := c.marks.find? (·.group = group)

def setMark (c : Cursor) (m : Mark) : Cursor :=
  { c with marks := m :: c.marks.filter (·.group != m.group) }

end Cursor

def isWord (c : Char) : Bool := c.isAlphanum || c = '_'

def atEdge (s : Subject) (c : Cursor) (e : Edge) : Bool :=
  let left := c.before.any isWord
  let right := c.rest.head?.any isWord
  match e with
  | .start => c.before.isNone || (s.lines && c.before = some '\n')
  | .finish => c.rest.isEmpty || (s.lines && c.rest.head? = some '\n')
  | .wordStart => !left && right
  | .wordEnd => left && !right
  | .word => left != right
  | .noWord => left = right

/-- Two cursors from which every match goes on the same way. -/
def same (exact : Bool) (a b : Cursor) : Bool :=
  a.position = b.position && (!exact || a.marks = b.marks)

/-- Of cursors that are the same, only the first. -/
def distinct (exact : Bool) (cs : List Cursor) : List Cursor :=
  match cs with
  | [] | [_] => cs
  | cs => (cs.foldl (fun found c => if found.any (same exact c) then found else c :: found)
      []).reverse

/-- The cursors after one more character and another, the last one first. -/
def spread (holds : Char → Bool) (found : List Cursor) : List Char → Cursor → List Cursor
  | [], c => c :: found
  | first :: rest, c =>
      if holds first then spread holds (c :: found) rest (c.step first rest) else c :: found

/-- Goes on from some cursors as often as that leads ahead, and adds what is reached to what was
found, the last one first. From each cursor, what is further on comes before it. -/
def further (exact : Bool) (next : Cursor → List Cursor) :
    Nat → List Cursor → List Cursor → List Cursor
  | 0, _, found => found
  | bound + 1, todo, found =>
      todo.foldl (fun found c =>
        if found.any (same exact c) then found
        else
          c :: further exact next bound ((next c).filter (c.position < ·.position)) found) found

/-- Goes on at most so many times. -/
def upTo (exact : Bool) (next : Cursor → List Cursor) : Nat → Cursor → List Cursor
  | 0, c => [c]
  | most + 1, c =>
      distinct exact
        (((next c).filter (c.position < ·.position)).flatMap (upTo exact next most) ++ [c])

/-- Does something again and again. -/
def iterate {α : Type} (f : α → α) : Nat → α → α
  | 0, a => a
  | n + 1, a => iterate f n (f a)

/-- Where a match can end that starts at one of some cursors, the preferred end first. If `exact`
is false, what the groups have matched makes no difference to how a match goes on. -/
def run (s : Subject) (exact : Bool) : Regex → List Cursor → List Cursor
  | nothing, cs => cs
  | among negated members, cs => cs.filterMap fun c =>
      match c.rest with
      | first :: rest => if s.holds negated members first then some (c.step first rest) else none
      | [] => none
  | edge e, cs => cs.filter fun c => atEdge s c e
  | seq first second, cs =>
      match run s exact first cs with
      | [] => []
      | cs => run s exact second cs
  | either first second, cs =>
      distinct exact (cs.flatMap fun c => run s exact first [c] ++ run s exact second [c])
  | times r least most, cs =>
      let cs := iterate (run s exact r) least cs
      match most, r, cs with
      | some most, _, cs =>
          distinct exact (cs.flatMap (upTo exact (fun c => run s exact r [c]) (most - least)))
      | none, among negated members, [c] => spread (s.holds negated members) [] c.rest c
      | none, _, cs =>
          (further exact (fun c => run s exact r [c]) (s.text.length + 1) cs []).reverse
  | group number r, cs =>
      distinct exact (cs.flatMap fun c =>
        (run s exact r [c]).map fun d => d.setMark ⟨number, c.position, d.position⟩)
  | again number, cs => cs.filterMap fun c =>
      match c.mark? number with
      | none => none
      | some m =>
          let text := (s.text.drop m.start).take (m.stop - m.start)
          if (text.map s.fold).isPrefixOf (c.rest.map s.fold) then some (c.skip text.length)
          else none

/-- The text of a group is asked for. -/
def looksBack : Regex → Bool
  | nothing | among .. | edge _ => false
  | seq a b | either a b => a.looksBack || b.looksBack
  | times r .. | group _ r => r.looksBack
  | again _ => true

/-- A part of a text that matches. -/
structure Match where
  start : Nat
  stop : Nat
  groups : List Mark
  deriving DecidableEq, Repr

/-- The longest match from a cursor, of those that end well. -/
def matchAt? (s : Subject) (r : Regex) (accept : Cursor → Bool) (c : Cursor) : Option Match :=
  let ends := (run s r.looksBack r [c]).filter accept
  (ends.foldl (fun (best : Option Cursor) d =>
    match best with
    | some b => if b.position < d.position then some d else best
    | none => some d) none).map fun d => ⟨c.position, d.position, d.marks⟩

/-- The first match, at a cursor or behind it. -/
def find? (s : Subject) (r : Regex) (accept : Cursor → Cursor → Bool) :
    List Char → Cursor → Option Match
  | [], c => matchAt? s r (accept c) c
  | first :: rest, c =>
      match matchAt? s r (accept c) c with
      | some m => some m
      | none => find? s r accept rest (c.step first rest)

def start (s : Subject) : Cursor := { rest := s.text }

/-- The first match in a text from a position on. -/
def search? (s : Subject) (r : Regex) (from_ : Nat) : Option Match :=
  let c := (start s).skip from_
  find? s r (fun _ _ => true) c.rest c

/-- The text of a group of a match; the group with the number 0 is all of it. -/
def Match.text (m : Match) (s : Subject) (number : Nat) : List Char :=
  let part (start stop : Nat) : List Char := (s.text.drop start).take (stop - start)
  if number = 0 then part m.start m.stop
  else match m.groups.find? (·.group = number) with
    | some g => part g.start g.stop
    | none => []

end Regex

end LineShell.Machine
