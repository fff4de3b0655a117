import LineShell.Split

/-!
Changes to permission bits, as they are written: a number in the base eight, or clauses of letters such
as `u+x`.
-/

namespace LineShell.Machine

/-- What a clause does with the bits that it names. -/
inductive ModeVerb where
  | add
  | remove
  | set
  deriving DecidableEq, Repr

/-- What a clause names. -/
inductive ModeObject where
  /-- Letters for permissions. -/
  | letters (letters : List Char)
  /-- The permissions that another class of users has. -/
  | copyOf (who : Char)
  deriving DecidableEq, Repr

structure ModeClause where
  /-- The letters of the users, if any are given. -/
  who : List Char
  verb : ModeVerb
  object : ModeObject
  deriving DecidableEq, Repr

/-- A change to permission bits. -/
inductive ModeChange where
  | exactly (bits : Nat) (digits : Nat)
  | clauses (list : List ModeClause)
  deriving DecidableEq, Repr

namespace Mode

/-- All bits that belong to some users. -/
def reach (who : List Char) : Nat :=
  let isFor (c : Char) : Bool := who.contains c || who.contains 'a' || who.isEmpty
  (if isFor 'u' then 0o4700 else 0) ||| (if isFor 'g' then 0o2070 else 0) |||
    (if isFor 'o' then 0o1007 else 0) ||| (if who.contains 'a' || who.isEmpty then 0o1000 else 0)

/-- Permissions of three bits, for all users. -/
def spread (bits : Nat) : Nat := bits * 0o111

/-- The bits that a letter stands for, for all users. -/
def letterBits (isDirectory : Bool) (mode : Nat) (c : Char) : Nat :=
  match c with
  | 'r' => 0o444
  | 'w' => 0o222
  | 'x' => 0o111
  | 'X' => if isDirectory || mode &&& 0o111 != 0 then 0o111 else 0
  | 's' => 0o6000
  | 't' => 0o1000
  | _ => 0

def copyBits (mode : Nat) (who : Char) : Nat :=
  spread (match who with
    | 'u' => (mode >>> 6) &&& 7
    | 'g' => (mode >>> 3) &&& 7
    | _ => mode &&& 7)

/-- The bits of a mode without some others. -/
def without (mode bits : Nat) : Nat := mode &&& (0o7777 ^^^ (bits &&& 0o7777))

def applyClause (isDirectory : Bool) (mask mode : Nat) (c : ModeClause) : Nat :=
  let named := match c.object with
    | .letters letters => letters.foldl (fun n l => n ||| letterBits isDirectory mode l) 0
    | .copyOf who => copyBits mode who
  let within := reach c.who
  let bits := named &&& within
  let bits := if c.who.isEmpty then without bits mask else bits
  match c.verb with
  | .add => mode ||| bits
  | .remove => without mode bits
  | .set =>
      let kept := without mode within
      let kept := if isDirectory then kept ||| (mode &&& 0o6000) else kept
      kept ||| bits

def isWho (c : Char) : Bool := ['u', 'g', 'o', 'a'].contains c

def verb? (c : Char) : Option ModeVerb :=
  match c with
  | '+' => some .add
  | '-' => some .remove
  | '=' => some .set
  | _ => none

def isPermission (c : Char) : Bool := ['r', 'w', 'x', 'X', 's', 't'].contains c

/-- The changes that follow the users of a clause. -/
def verbs? (who : List Char) : Nat → List Char → Option (List ModeClause)
  | 0, _ => none
  | _, [] => some []
  | bound + 1, c :: rest => do
      let verb ← verb? c
      let (object, rest) ← match rest with
        | d :: rest' =>
            if ['u', 'g', 'o'].contains d then some (.copyOf d, rest')
            else
              let letters := rest.takeWhile isPermission
              some (.letters letters, rest.drop letters.length)
        | [] => some (ModeObject.letters [], [])
      let more ← verbs? who bound rest
      return ⟨who, verb, object⟩ :: more

def clause? (text : List Char) : Option (List ModeClause) :=
  let who := text.takeWhile isWho
  let rest := text.drop who.length
  if rest.isEmpty then none else verbs? who (rest.length + 1) rest

/-- Reads a change. -/
def ofText? (text : String) : Option ModeChange :=
  let cs := text.toList
  if cs.isEmpty then none
  else if cs.all fun c => '0' ≤ c && c ≤ '7' then
    let n := cs.foldl (fun n c => n * 8 + (c.toNat - '0'.toNat)) 0
    if n ≤ 0o7777 then some (.exactly n cs.length) else none
  else ((pieces (· = ',') cs).mapM clause?).map fun list => .clauses list.flatten

end Mode

/-- The bits after a change. -/
def ModeChange.apply (isDirectory : Bool) (mask mode : Nat) : ModeChange → Nat
  | exactly bits digits =>
      if isDirectory && digits < 5 then bits ||| (mode &&& 0o6000) else bits
  | clauses list => list.foldl (Mode.applyClause isDirectory mask) mode

end LineShell.Machine
