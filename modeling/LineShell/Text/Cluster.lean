import LineShell.Text.Cluster.Table
import LineShell.Text.Ranges

/-!
Clusters: what a reader takes for one character, though it may be written with several. A letter
and its marks are a cluster, and so are a syllable block, a flag, and pictographs that are joined.
-/

namespace LineShell

namespace Cluster

/-- What a character does at the border between clusters. -/
inductive Kind where
  | carriageReturn
  | newline
  | control
  | mark
  | linker
  /-- Joins a pictograph to the next one, and is a mark besides. -/
  | joiner
  /-- A mark that breaks no word, but joins no consonants either. -/
  | nonJoiner
  | spacingMark
  | prefixed
  | picture
  | consonant
  /-- The two halves of a flag. -/
  | indicator
  /-- The parts of a syllable block: first consonants, vowels, last consonants, and the blocks that
  lack a last consonant or have one. -/
  | leading
  | vowel
  | trailing
  | openBlock
  | closedBlock
  | other
  deriving DecidableEq, Repr

namespace Kind

def firstBlock : Nat := 0xAC00

def lastBlock : Nat := 0xD7A3

/-- How many blocks have the same first consonant and vowel. -/
def blocksPerVowel : Nat := 28

def within (n first last : Nat) : Bool := first ≤ n && n ≤ last

def ofSyllable? (n : Nat) : Option Kind :=
  if within n firstBlock lastBlock then
    some (if (n - firstBlock) % blocksPerVowel = 0 then .openBlock else .closedBlock)
  else if within n 0x1100 0x115F || within n 0xA960 0xA97C then some .leading
  else if Ranges.holds vowelSigns n then some .vowel
  else if within n 0x11A8 0x11FF || within n 0xD7CB 0xD7FB then some .trailing
  else none

def ofChar (c : Char) : Kind :=
  let n := c.toNat
  if c = '\r' then .carriageReturn
  else if c = '\n' then .newline
  else if n = 0x200D then .joiner
  else if n = 0x200C then .nonJoiner
  else if Ranges.holds controls n then .control
  else if n < 0xA9 then .other
  else if within n 0x1F1E6 0x1F1FF then .indicator
  else if Ranges.holds pictures n then .picture
  else if Ranges.holds linkers n then .linker
  else if Ranges.holds marks n then .mark
  else if Ranges.holds spacingMarks n then .spacingMark
  else if Ranges.holds prefixes n then .prefixed
  else if Ranges.holds consonants n then .consonant
  else (ofSyllable? n).getD .other

/-- A line end or control. -/
def isControl : Kind → Bool
  | .carriageReturn | .newline | .control => true
  | _ => false

def isMark : Kind → Bool
  | .mark | .linker | .joiner | .nonJoiner => true
  | _ => false

end Kind

/-- What the next character has to know of a cluster that has begun. -/
structure Begun where
  last : Kind
  /-- It ends in a pictograph and marks. -/
  pictured : Bool
  /-- It ends in a consonant and marks that may be linkers. -/
  consonantal : Bool
  /-- One of those marks is a linker. -/
  linked : Bool
  /-- It ends in a half of a flag without the other half. -/
  halfFlag : Bool
  deriving DecidableEq, Repr

namespace Begun

def ofKind (k : Kind) : Begun where
  last := k
  pictured := k = .picture
  consonantal := k = .consonant
  linked := false
  halfFlag := k = .indicator

/-- A character of the given kind goes on with the cluster. -/
def joins (b : Begun) (k : Kind) : Bool :=
  if b.last = .carriageReturn && k = .newline then true
  else if b.last.isControl || k.isControl then false
  else if k.isMark || k = .spacingMark || b.last = .prefixed then true
  else match b.last, k with
    | .leading, .leading | .leading, .vowel | .leading, .openBlock | .leading, .closedBlock => true
    | .openBlock, .vowel | .openBlock, .trailing | .vowel, .vowel | .vowel, .trailing => true
    | .closedBlock, .trailing | .trailing, .trailing => true
    | _, .consonant => b.consonantal && b.linked
    | .joiner, .picture => b.pictured
    | .indicator, .indicator => b.halfFlag
    | _, _ => false

/-- The cluster after one more character. -/
def push (b : Begun) (k : Kind) : Begun where
  last := k
  pictured := k = .picture || (b.pictured && k.isMark && b.last != .joiner)
  consonantal := k = .consonant || (b.consonantal && k.isMark && k != .nonJoiner)
  linked := k != .consonant && (b.linked || k = .linker)
  halfFlag := k = .indicator && !b.halfFlag

end Begun

/-- The clusters of a text after one that has begun, whose characters are `done` in reverse. -/
def splitAfter (b : Begun) (done : List Char) : List Char → List (List Char)
  | [] => [done.reverse]
  | c :: rest =>
      let k := Kind.ofChar c
      if b.joins k then splitAfter (b.push k) (c :: done) rest
      else done.reverse :: splitAfter (.ofKind k) [c] rest

/-- The clusters of a text, in order. -/
def split : List Char → List (List Char)
  | [] => []
  | c :: rest => splitAfter (.ofKind (.ofChar c)) [c] rest

theorem flatten_splitAfter (b : Begun) (done text : List Char) :
    (splitAfter b done text).flatten = done.reverse ++ text := by
  induction text generalizing b done with
  | nil => simp [splitAfter]
  | cons c rest ih =>
      rw [splitAfter]
      split
      · simp [ih]
      · simp [ih]

/-- Nothing is lost between clusters. -/
theorem flatten_split (text : List Char) : (split text).flatten = text := by
  cases text with
  | nil => rfl
  | cons c rest => simp [split, flatten_splitAfter]

end Cluster

end LineShell
