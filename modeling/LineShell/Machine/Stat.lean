import LineShell.Machine.Program

/-!
What can be told of a file without reading it.
-/

namespace LineShell.Machine

inductive Kind where
  | regular
  | directory
  | link
  | character
  | pipe
  deriving DecidableEq, Repr

structure Stat where
  kind : Kind
  /-- The permission bits. -/
  mode : Nat
  size : Nat
  names : Nat
  stamp : Nat
  node : NodeId
  deriving DecidableEq, Repr

namespace Stat

/-- The size that directories are said to have. -/
def directorySize : Nat := 4096

def ofNode (tree : FileTree) (n : NodeId) : Stat :=
  let node := tree.node n
  let (kind, size, names) : Kind × Nat × Nat := match node.content with
    | .file bytes => (.regular, bytes.length, node.names)
    | .program name => (.regular, name.length, node.names)
    | .directory children _ =>
        let below := (children.filter fun (_, child) => tree.isDirectory child).length
        (.directory, directorySize, below + 2)
    | .link target => (.link, target.length, node.names)
    | .device _ => (.character, 0, node.names)
    | .standing _ => (.link, 64, 1)
  { kind := kind, mode := node.mode, size := size, names := names, stamp := node.stamp, node := n }

/-- What is told of a stream that is no node. -/
def ofPipe : Stat :=
  { kind := .pipe, mode := 0o600, size := 0, names := 1, stamp := 0, node := 0 }

def ofStream (tree : FileTree) : Stream → Stat
  | .node n => ofNode tree n
  | _ => ofPipe

/-- What is told of the file that a path leads to. -/
def ofPath (follow : Bool) (path : String) : Instant (Except Errno Stat) := do
  let w ← get
  match w.system.tree.find follow w.self.cwd path with
  | .error e => return .error e
  | .ok n =>
      match w.system.tree.content n with
      | .standing number =>
          match w.self.table.file? number >>= w.system.file? with
          | none => return .error .noEntry
          | some file =>
              return .ok (if follow then ofStream w.system.tree file.stream
                else ofNode w.system.tree n)
      | _ => return .ok (ofNode w.system.tree n)

def ofDescriptor (d : Descriptor) : Instant (Except Errno Stat) := do
  match ← World.file? d with
  | none => return .error .badDescriptor
  | some file => return .ok (ofStream (← get).system.tree file.stream)

end Stat

/-- Something that can be asked of a file. -/
def fileTest (letter : Char) (s : Stat) : Bool :=
  match letter with
  | 'f' => s.kind = .regular
  | 'd' => s.kind = .directory
  | 'h' | 'L' => s.kind = .link
  | 'c' => s.kind = .character
  | 'p' => s.kind = .pipe
  | 'b' | 'S' | 'N' => false
  | 's' => s.size != 0
  | 'x' => s.kind = .directory || s.mode &&& 0o111 != 0
  | 'u' => s.mode &&& 0o4000 != 0
  | 'g' => s.mode &&& 0o2000 != 0
  | 'k' => s.mode &&& 0o1000 != 0
  | _ => true

/-- Asks something of the file that a path leads to, if it leads to one. -/
def testPath (letter : Char) (path : String) : Instant Bool := do
  match ← Stat.ofPath (!(letter = 'h' || letter = 'L')) path with
  | .ok s => return fileTest letter s
  | .error _ => return false

end LineShell.Machine
