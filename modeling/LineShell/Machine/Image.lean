import LineShell.Machine.World

/-!
What a file is as a program. A file that names an interpreter in its first line is run by that.
-/

namespace LineShell.Machine

/-- A program of the machine and what it is called with. -/
structure Image where
  program : String
  argv : List String
  deriving DecidableEq, Repr

namespace Image

/-- So much of a file is looked at to see what it is. -/
def headSize : Nat := 256

def longestArgument : Nat := 131071

/-- How much room arguments and variables have together. -/
def roomForTexts : Nat := 2097152

def isGap (c : Char) : Bool := c = ' ' || c = '\t'

def isNul (c : Char) : Bool := c = '\x00'

/-- What stands between the mark at the start of a script and the end of its first line. A line that
goes on beyond the head, or past a zero, is taken up to the end of the head, provided that the name
of the interpreter is over before that. -/
def scriptLine? (head : List Char) : Option (List Char) :=
  let line := head.takeWhile fun c => c != '\n' && !isNul c
  match head.drop line.length with
  | '\n' :: _ => some line
  | _ =>
      let padded := head ++ List.replicate (headSize - head.length) '\x00'
      let text := padded.take (headSize - 1)
      let name := (padded.drop 2).dropWhile isGap
      if name.isEmpty || !name.any fun c => isGap c || isNul c then none else some text

/-- The interpreter that the head of a file names, and its one argument. The name may be empty, but
there must be something where it should be. -/
def interpreter? (bytes : Bytes) : Option (String × List String) :=
  let head := (Raw.ofBytes (bytes.take headSize)).toList
  match head with
  | '#' :: '!' :: _ =>
      match scriptLine? head with
      | none => none
      | some line =>
          let text := ((line.drop 2).reverse.dropWhile isGap).reverse.dropWhile isGap
          if text.isEmpty then none
          else
            let name := text.takeWhile fun c => !isGap c && !isNul c
            let rest := text.drop name.length
            let argument := (rest.dropWhile isGap).takeWhile (!isNul ·)
            some (String.ofList name,
              if rest.head?.any isGap then [String.ofList argument] else [])
  | _ => none

/-- The arguments and variables are not too large for a process. -/
def fits (settings : Settings) (argv : List String) : Bool :=
  let room (text : String) : Nat := text.length + 9
  argv.all (·.length ≤ longestArgument) &&
    (argv ++ settings.flatMap fun (n, v) => [n, v]).foldl (fun n text => n + room text) 0
      ≤ roomForTexts

/-- The node that is to be run. The empty name stands for the current directory here. -/
def locate (tree : FileTree) (cwd : NodeId) (path : String) : Except Errno Node := do
  let n ← if path.isEmpty then pure cwd else tree.find true cwd path
  let node := tree.node n
  match node.content with
  | .file _ | .program _ => if node.isExecutable then return node else throw .noAccess
  | _ => throw .noAccess

/-- The program that a node is, found under `path`, through at most `depth` interpreters. -/
def ofNode (tree : FileTree) (cwd : NodeId) (settings : Settings) :
    Nat → Node → String → List String → Except Errno Image
  | depth, node, path, argv => do
      match node.content with
      | .program name => if fits settings argv then return ⟨name, argv⟩ else throw .tooBig
      | .file bytes =>
          if !fits settings argv then throw .tooBig
          match interpreter? bytes with
          | none => throw .noExec
          | some (name, argument) =>
              let next ← locate tree cwd name
              match depth with
              | 0 => throw .linkLoop
              | depth + 1 =>
                  ofNode tree cwd settings depth next name
                    (name :: argument ++ path :: argv.drop 1)
      | _ => throw .noAccess

def mostInterpreters : Nat := 5

/-- The program that the file of a path is. -/
def ofPath (tree : FileTree) (cwd : NodeId) (settings : Settings) (path : String)
    (argv : List String) : Except Errno Image := do
  if path.isEmpty then throw .noEntry
  ofNode tree cwd settings mostInterpreters (← locate tree cwd path) path argv

end Image

end LineShell.Machine
