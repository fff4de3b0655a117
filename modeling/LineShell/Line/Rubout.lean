import LineShell.Text.Cluster
import LineShell.Text.Utf8

/-!
Backspaces in a line that was not typed at a terminal, with the effect that rustyline 17 gives them.
Each takes away the cluster before it, if there is one left. The size of a cluster in bytes is kept
in one byte: of a cluster that is larger, only so many bytes are taken as its size leaves over after
division by 256, and where that would cut a character in two the line cannot be read at all.
-/

namespace LineShell

namespace Line

def backspace : Char := '\x08'

/-- What is kept of a line as it is read. -/
structure Kept where
  /-- The characters, the last one first. -/
  characters : List Char := []
  /-- The sizes of the clusters, the last one first. -/
  sizes : List Nat := []
  deriving DecidableEq, Repr

namespace Kept

def sizeLimit : Nat := 256

def push (k : Kept) (cluster : List Char) : Kept where
  characters := cluster.reverse ++ k.characters
  sizes := (Utf8.encode (String.ofList cluster)).length % sizeLimit :: k.sizes

/-- Takes characters of `size` bytes away. -/
def dropBytes : Nat → List Char → Option (List Char)
  | 0, characters => some characters
  | _, [] => none
  | size, c :: rest => if c.utf8Size ≤ size then dropBytes (size - c.utf8Size) rest else none

/-- Takes the last cluster away. -/
def erase (k : Kept) : Option Kept :=
  match k.sizes with
  | [] => some k
  | size :: sizes => (dropBytes size k.characters).map fun characters => ⟨characters, sizes⟩

def next (k : Kept) (cluster : List Char) : Option Kept :=
  if cluster = [backspace] then k.erase else some (k.push cluster)

end Kept

/-- A line after its backspaces, as rustyline 17 reads it directly from its input, or `none` if it
cannot be read. -/
def rubout (text : String) : Option String :=
  ((Cluster.split text.toList).foldlM Kept.next {}).map fun k => String.ofList k.characters.reverse

end Line

end LineShell
