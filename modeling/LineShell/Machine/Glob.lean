import LineShell.Machine.Class

/-!
Patterns for names: a star stands for any text, a question mark for any character, and brackets for
one of some characters.
-/

namespace LineShell.Machine

/-- What brackets may hold. -/
inductive Member where
  | range (low high : Char)
  | named (name : String)
  deriving DecidableEq, Repr

def Member.holds (c : Char) : Member → Bool
  | range low high => low ≤ c && c ≤ high
  | named name => (Class.named? name).any (· c)

inductive Glob where
  | exactly (c : Char)
  | one
  | many
  | among (negated : Bool) (members : List Member)
  deriving DecidableEq, Repr

namespace Glob

/-- A character of a pattern, which means nothing but itself if it is protected. -/
structure Mark where
  char : Char
  isProtected : Bool := false
  deriving DecidableEq, Repr

def marks (text : String) : List Mark := text.toList.map ({ char := · })

/-- The class of characters whose name stands between `[:` and `:]` at the front, and what follows. -/
def className? (ms : List Mark) : Option (String × List Mark) :=
  match ms with
  | ⟨'[', false⟩ :: ⟨':', false⟩ :: rest =>
      let name := rest.takeWhile fun m => m.char.isAlpha
      match rest.drop name.length with
      | ⟨':', _⟩ :: ⟨']', _⟩ :: rest =>
          let name := String.ofList (name.map Mark.char)
          if (Class.named? name).isSome then some (name, rest) else none
      | _ => none
  | _ => none

/-- The character at the front, after a backslash if there is one. -/
def plain? : List Mark → Option (Char × List Mark)
  | ⟨'\\', false⟩ :: m :: rest => some (m.char, rest)
  | m :: rest => some (m.char, rest)
  | [] => none

/-- Reads what brackets hold, up to the closing one. -/
def members : Nat → Bool → List Mark → List Member → Option (List Member × List Mark)
  | 0, _, _, _ => none
  | _, _, [], _ => none
  | bound + 1, first, m :: rest, acc =>
      if m = ⟨']', false⟩ && !first then some (acc.reverse, rest)
      else
        match className? (m :: rest) with
        | some (name, rest) => members bound false rest (.named name :: acc)
        | none =>
            match plain? (m :: rest) with
            | none => none
            | some (low, rest) =>
                match rest with
                | ⟨'-', false⟩ :: next :: later =>
                    if next = ⟨']', false⟩ then
                      members bound false rest (.range low low :: acc)
                    else
                      match plain? (next :: later) with
                      | some (high, rest) => members bound false rest (.range low high :: acc)
                      | none => none
                | _ => members bound false rest (.range low low :: acc)

/-- Takes a character off the front that says that brackets hold what does not match. -/
def negation (negators : List Char) : List Mark → Bool × List Mark
  | ⟨c, false⟩ :: inside => if negators.contains c then (true, inside) else (false, ⟨c, false⟩ :: inside)
  | inside => (false, inside)

/-- Reads a pattern, where brackets are negated by the characters `negators`. A bracket that is not
closed stands for itself. -/
def parse (negators : List Char) : Nat → List Mark → List Glob
  | 0, _ => []
  | _, [] => []
  | bound + 1, m :: rest =>
      match m with
      | ⟨'*', false⟩ => .many :: parse negators bound rest
      | ⟨'?', false⟩ => .one :: parse negators bound rest
      | ⟨'\\', false⟩ =>
          match rest with
          | next :: rest => .exactly next.char :: parse negators bound rest
          | [] => [.exactly '\\']
      | ⟨'[', false⟩ =>
          let (negated, inside) := negation negators rest
          match members inside.length true inside [] with
          | some (list, rest) => .among negated list :: parse negators bound rest
          | none => .exactly '[' :: parse negators bound rest
      | m => .exactly m.char :: parse negators bound rest

/-- A pattern of a script, in which only an exclamation mark negates. -/
def ofMarks (ms : List Mark) : List Glob := parse ['!'] ms.length ms

/-- A pattern that is given to a program. -/
def ofText (text : String) : List Glob :=
  let ms := marks text
  parse ['!', '^'] ms.length ms

def isOne (c : Char) : Glob → Bool
  | exactly d => c = d
  | one => true
  | many => false
  | among negated list => (list.any (·.holds c)) != negated

/-- Some end of a text has a property. -/
def anyEnd (p : List Char → Bool) : List Char → Bool
  | [] => p []
  | c :: text => p (c :: text) || anyEnd p text

/-- A pattern matches the whole of a text. -/
def matchesAll : List Glob → List Char → Bool
  | [], text => text.isEmpty
  | .many :: rest, text => anyEnd (matchesAll rest) text
  | _ :: _, [] => false
  | g :: rest, c :: text => isOne c g && matchesAll rest text

/-- The pattern has something in it that stands for more than itself. -/
def isWild (globs : List Glob) : Bool :=
  globs.any fun g => match g with
    | .exactly _ => false
    | _ => true

end Glob

end LineShell.Machine
