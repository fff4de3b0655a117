import LineShell.Kernel

/-!
What a script is made of. A word is a list of parts, some of which are quoted; what becomes of it is
known only when it is used.
-/

namespace LineShell.Machine.Script

/-- How a redirection opens its file. -/
inductive Route where
  | input
  /-- For writing; a file that is there may have to be left alone. -/
  | output
  /-- For writing in any case. -/
  | overwriting
  | append
  /-- For reading and writing. -/
  | both
  /-- Another descriptor stands for the stream. -/
  | duplicate
  /-- The text of a here-document, by its number. -/
  | document (number : Nat) (expands : Bool)
  deriving DecidableEq, Repr

mutual

/-- A part of a word. -/
inductive Part where
  | text (text : String) (quoted : Bool)
  | parameter (name : String) (use : Use) (quoted : Bool)
  | commands (body : List Tree) (quoted : Bool)
  | arithmetic (expression : List Part) (quoted : Bool)

/-- What is made of a parameter. -/
inductive Use where
  | value
  | length
  /-- A word in its place if it is not set, or, if `evenEmpty` says so, is empty. -/
  | fallback (evenEmpty : Bool) (word : List Part)
  | assign (evenEmpty : Bool) (word : List Part)
  | insist (evenEmpty : Bool) (word : List Part)
  /-- A word in its place if it is set. -/
  | alternative (evenEmpty : Bool) (word : List Part)
  /-- Less the part at one end that a pattern matches. -/
  | trim (atEnd longest : Bool) (pattern : List Part)
  /-- Something that nothing can be made of. -/
  | bad

inductive Redirection where
  | mk (target : Nat) (route : Route) (word : List Part)

/-- A command, or several as one. -/
inductive Tree where
  | simple (line : Nat) (assignments : List (String × List Part)) (words : List (List Part))
      (redirections : List Redirection)
  | pipeline (line : Nat) (stages : List Tree)
  | both (first second : Tree)
  | either (first second : Tree)
  | negation (command : Tree)
  | sequence (commands : List Tree)
  | background (line : Nat) (command : Tree)
  | subshell (line : Nat) (body : Tree) (redirections : List Redirection)
  | redirected (line : Nat) (body : Tree) (redirections : List Redirection)
  | choice (test body : Tree) (otherwise : Option Tree)
  | loop (until_ : Bool) (test body : Tree)
  | each (line : Nat) (name : String) (words : List (List Part)) (body : Tree)
  | select (line : Nat) (subject : List Part) (clauses : List (List (List Part) × Option Tree))
  | define (line : Nat) (name : String) (body : Tree)

end

abbrev Word := List Part

namespace Redirection

def target : Redirection → Nat
  | mk target _ _ => target

def route : Redirection → Route
  | mk _ route _ => route

def word : Redirection → Word
  | mk _ _ word => word

end Redirection

/-- The text of a word that is neither quoted nor to be expanded. -/
def plainText? : Word → Option String
  | [] => some ""
  | [.text text false] => some text
  | _ => none

def isNameStart (c : Char) : Bool := c.isAlpha || c = '_'

def isNamePart (c : Char) : Bool := c.isAlphanum || c = '_'

def isName (text : String) : Bool :=
  match text.toList with
  | [] => false
  | c :: rest => isNameStart c && rest.all isNamePart

/-- The parameters of one character that are no variables. -/
def isSpecial (c : Char) : Bool := ['@', '*', '#', '?', '-', '$', '!'].contains c

end LineShell.Machine.Script
