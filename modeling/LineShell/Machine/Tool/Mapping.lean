import LineShell.Machine.Quoting
import LineShell.Machine.Tool

/-!
A tool that puts characters in the place of others, drops them, or keeps one of several that are the
same.
-/

namespace LineShell.Machine.Tool

/-- A part of the text of a set. -/
inductive SetPart where
  | one (c : Char)
  | range (low high : Char)
  | named (name : String)
  | like (c : Char)
  /-- A character so many times, or as often as it takes. -/
  | repeated (c : Char) (count : Option Nat)
  deriving DecidableEq, Repr

namespace SetPart

def isNamed : SetPart → Bool
  | named _ => true
  | _ => false

/-- A class of letters that differ only in case. -/
def isCase : SetPart → Bool
  | named name => name = "upper" || name = "lower"
  | _ => false

def allChars : List Char := (List.range 256).map Char.ofNat

/-- The characters of a part. -/
def chars : SetPart → List Char
  | one c | like c => [c]
  | range low high =>
      (List.range' low.toNat (high.toNat + 1 - low.toNat)).map Char.ofNat
  | named name => allChars.filter ((Class.named? name).getD fun _ => false)
  | repeated c count => List.replicate (count.getD 0) c

end SetPart

/-- A character of the text of a set, which stands for itself if it was escaped. -/
structure SetMark where
  char : Char
  isEscaped : Bool
  deriving DecidableEq, Repr

def escapeTable : List (Char × Char) := [
  ('\\', '\\'), ('a', '\x07'), ('b', '\x08'), ('f', '\x0c'), ('n', '\n'), ('r', '\r'), ('t', '\t'),
  ('v', '\x0b')]

/-- The characters in the text of a set, and what is to be said about it. -/
def setMarks : Nat → List Char → List SetMark × List String
  | 0, _ | _, [] => ([], [])
  | bound + 1, c :: rest =>
      if c != '\\' then
        let (marks, texts) := setMarks bound rest
        (⟨c, false⟩ :: marks, texts)
      else match rest with
        | [] => ([⟨'\\', false⟩],
            ["warning: an unescaped backslash at end of string is not portable"])
        | d :: more =>
            if (Class.digit? 8 d).isSome then
              let (n, after) := Class.number 8 3 0 rest
              let digits := String.ofList (rest.take (rest.length - after.length))
              let isBeyond := 255 < n
              let (n, after) := if isBeyond then Class.number 8 2 0 rest else (n, after)
              let (marks, texts) := setMarks bound after
              let warning := "warning: the ambiguous octal escape \\" ++ digits ++
                " is being\n\tinterpreted as the 2-byte sequence \\0" ++ (digits.take 2).copy ++
                ", " ++ (digits.drop 2).copy
              (⟨Char.ofNat n, true⟩ :: marks, if isBeyond then warning :: texts else texts)
            else
              let (marks, texts) := setMarks bound more
              (⟨(escapeTable.lookup d).getD d, true⟩ :: marks, texts)

def isMark (c : Char) (m : SetMark) : Bool := m.char = c && !m.isEscaped

def markText (marks : List SetMark) : String := String.ofList (marks.map SetMark.char)

/-- What stands before two closing marks such as `:]`, and what follows them. -/
def upTo (mark : Char) : List SetMark → Option (List SetMark × List SetMark)
  | a :: b :: rest =>
      if isMark mark a && isMark ']' b then some ([], rest)
      else (upTo mark (b :: rest)).map fun (inside, rest) => (a :: inside, rest)
  | _ => none

/-- A star, digits and a bracket. -/
def isStarred (marks : List SetMark) : Bool :=
  match marks with
  | m :: rest =>
      isMark '*' m && ((rest.dropWhile fun m => m.char.isDigit && !m.isEscaped).head?.any (isMark ']'))
  | [] => false

/-- A repeated character behind an opening bracket, and what follows it. -/
def repetition? (marks : List SetMark) : Option (Except String (SetPart × List SetMark)) :=
  match marks with
  | c :: star :: rest =>
      if !isMark '*' star then none
      else
        let inside := rest.takeWhile (!isMark ']' ·)
        match rest.drop inside.length with
        | [] => none
        | _ :: after =>
            let digits := inside.map SetMark.char
            let base := if digits.head? = some '0' then 8 else 10
            let (n, left) := Class.number base digits.length 0 digits
            if left.isEmpty then some (.ok (.repeated c.char (if n = 0 then none else some n), after))
            else some (.error ("invalid repeat count " ++ Quoting.plain (markText inside) ++
              " in [c*n] construct"))
  | _ => none

/-- A named class, or characters like another, behind an opening bracket. -/
def bracketed? (marks : List SetMark) : Option (Except String (SetPart × List SetMark)) :=
  match marks with
  | kind :: rest =>
      if !(isMark ':' kind || isMark '=' kind) then repetition? marks
      else match upTo kind.char rest with
        | none => repetition? marks
        | some (inside, after) =>
            let text := markText inside
            let isClass := kind.char = ':'
            if inside.isEmpty then
              some (.error (if isClass then "missing character class name '[::]'"
                else "missing equivalence class character '[==]'"))
            else if isClass then
              if (Class.named? text).isSome then some (.ok (.named text, after))
              else if isStarred rest then repetition? marks
              else some (.error ("invalid character class " ++ Quoting.plain text))
            else match inside with
              | [m] => some (.ok (.like m.char, after))
              | _ =>
                  if isStarred rest then repetition? marks
                  else some (.error (text ++
                    ": equivalence class operand must be a single character"))
  | [] => none

/-- How a character is shown in a complaint. -/
def shownChar (c : Char) : String :=
  if Class.isPrintable c then String.singleton c else "\\" ++ String.ofList (Quoting.octal c.toNat)

def setParts : Nat → List SetMark → Except String (List SetPart)
  | 0, _ | _, [] => .ok []
  | bound + 1, m :: rest =>
      let special := if isMark '[' m && 1 < rest.length then bracketed? rest else none
      match special with
      | some (.error e) => .error e
      | some (.ok (part, rest)) => (setParts bound rest).map (part :: ·)
      | none =>
          match rest with
          | dash :: high :: more =>
              if isMark '-' dash then
                if m.char ≤ high.char then
                  (setParts bound more).map (.range m.char high.char :: ·)
                else .error ("range-endpoints of '" ++ shownChar m.char ++ "-" ++
                  shownChar high.char ++ "' are in reverse collating sequence order")
              else (setParts bound rest).map (.one m.char :: ·)
          | _ => (setParts bound rest).map (.one m.char :: ·)

/-- The characters of a set, where a part that repeats as often as it takes fills it up to a size. -/
def fill (size : Nat) (parts : List SetPart) : List Char :=
  let known := (parts.flatMap SetPart.chars).length
  parts.flatMap fun p => match p with
    | .repeated c none => List.replicate (size - known) c
    | p => p.chars

/-- Whether classes of letters that differ in case stand in the same places of both sets. Each element
is given with its place in its part. -/
def isAligned : List (SetPart × Nat) → List (SetPart × Nat) → Bool
  | [], _ | _, [] => true
  | (p, i) :: as, (q, j) :: bs =>
      (if q.isCase && j = 0 then p.isCase && i = 0 else true) && isAligned as bs

def elements (size : Nat) (parts : List SetPart) : List (SetPart × Nat) :=
  let known := (parts.flatMap SetPart.chars).length
  parts.flatMap fun p =>
    let count := match p with
      | .repeated _ none => size - known
      | p => p.chars.length
    (List.range count).map fun i => (p, i)

/-- How characters are changed. -/
structure Mapping where
  drops : Char → Bool := fun _ => false
  change : Char → Char := id
  squeezes : Char → Bool := fun _ => false

/-- Checks the second set of a translation against the first, and gives its characters. -/
def targetChars (complement truncates : Bool) (first second : List SetPart) (source : List Char) :
    Except String (List Char) := do
  let indefinite := second.countP fun p => p matches .repeated _ none
  if 1 < indefinite then throw "only one [c*] repeat construct may appear in string2"
  if second.any fun p => p matches .like _ then
    throw "[=c=] expressions may not appear in string2 when translating"
  if second.any fun p => p.isNamed && !p.isCase then
    throw ("when translating, the only character classes that may appear in\n" ++
      "string2 are 'upper' and 'lower'")
  let target := fill source.length second
  if !complement && second.any SetPart.isCase then
    let pairs := elements source.length second
    if !isAligned (elements 0 first) pairs then
      throw "misaligned [:upper:] and/or [:lower:] construct"
  if target.length < source.length && !truncates then
    if target.isEmpty then throw "when not truncating set1, string2 must be non-empty"
    if second.getLast?.any SetPart.isNamed then
      throw "when translating with string1 longer than string2,\nthe latter string must not end with a character class"
  let extended :=
    if truncates then target
    else target ++ List.replicate (source.length - target.length) (target.getLast?.getD ' ')
  if complement && first.any SetPart.isNamed &&
      !(extended.length = source.length && extended.all (some · = extended.head?)) then
    throw ("when translating with complemented character classes,\n" ++
      "string2 must map all characters in the domain to one")
  return extended

/-- Reads the text of a set. -/
def readSet (text : String) : Tool (List SetPart) := do
  let (marks, warnings) := setMarks (text.length + 1) text.toList
  for warning in warnings do warn warning
  match setParts (marks.length + 1) marks with
  | .ok parts => return parts
  | .error e => fail 1 e

/-- Changes characters, where `last` is the one kept last if another like it is to be dropped. -/
def mapChars (m : Mapping) (last : Option Char) (cs : List Char) : List Char × Option Char :=
  let (out, last) := cs.foldl (fun (out, last) c =>
    if m.drops c then (out, last)
    else
      let c := m.change c
      if last = some c then (out, last)
      else (c :: out, if m.squeezes c then some c else none)) (([] : List Char), last)
  (out.reverse, last)

def mapInput (m : Mapping) : Nat → Option Char → Tool Unit
  | 0, _ => return ()
  | bound + 1, last => do
      match ← block Descriptor.input with
      | .error e => fail 1 ("read error: " ++ e.sentence)
      | .ok bytes =>
          if bytes.isEmpty then return ()
          let (cs, last) := mapChars m last (Raw.ofBytes bytes).toList
          putText (String.ofList cs)
          mapInput m bound last

def tr : Tool Unit := do
  let o ← options 1 "+AcCdst" "complement=c delete=d squeeze-repeats=s truncate-set1=t"
  let complement := o.isSet "c" || o.isSet "C"
  let deletes := o.isSet "d"
  let squeezes := o.isSet "s"
  let least := if deletes = squeezes then 2 else 1
  let most := if deletes && !squeezes then 1 else 2
  let count := o.operands.length
  if count < least then
    if count = 0 then misuse 1 "missing operand"
    warn ("missing operand after " ++ Quoting.plain (o.operands.getLast?.getD ""))
    say (if squeezes then "Two strings must be given when both deleting and squeezing repeats.\n"
      else "Two strings must be given when translating.\n")
    hint 1
  if most < count then
    warn ("extra operand " ++ Quoting.plain (o.operands.getD most ""))
    if count = 2 then
      say "Only one string may be given when deleting without squeezing repeats.\n"
    hint 1
  let sets ← o.operands.mapM readSet
  let first := sets.headD []
  if first.any fun p => p matches .repeated _ none then
    fail 1 "the [c*] repeat construct may not appear in string1"
  let named := first.flatMap SetPart.chars
  let source := if complement then SetPart.allChars.filter (!named.contains ·) else named
  let isTranslation := count = 2 && !deletes
  let mapping : Mapping ←
    if isTranslation then
      match targetChars complement (o.isSet "t") first (sets.getD 1 []) source with
      | .error e => fail 1 e
      | .ok target =>
          let table := (SetPart.allChars.map fun c =>
            (((source.zip target).reverse.lookup c).getD c)).toArray
          pure {
            change := fun c => table.getD c.toNat c
            squeezes := fun c => squeezes && target.contains c }
    else do
      let second := sets.getD 1 []
      if second.any fun p => p matches .repeated _ none then
        fail 1 "the [c*] construct may appear in string2 only when translating"
      let squeezed := if count = 2 then second.flatMap SetPart.chars else source
      pure {
        drops := fun c => deletes && source.contains c
        squeezes := fun c => squeezes && squeezed.contains c }
  mapInput mapping patience none

end LineShell.Machine.Tool
