import LineShell.Errno
import LineShell.Machine.Raw
import LineShell.Split

/-!
A tree of files. What is in it are nodes, which directories give names to; a node without a name is
out of reach, but whoever has it open can go on using it. The text of a path is followed name by
name, through links, from the root or from another directory.
-/

namespace LineShell.Machine

abbrev NodeId := Nat

inductive Device where
  /-- Is empty, and takes everything. -/
  | null
  /-- Takes nothing, and gives zeros. -/
  | full
  /-- Takes everything, and gives zeros. -/
  | zero
  deriving DecidableEq, Repr

inductive Content where
  /-- Names with the nodes they stand for, and the directory above. -/
  | directory (children : List (String × NodeId)) (parent : NodeId)
  | file (bytes : Bytes)
  | link (target : String)
  | device (d : Device)
  /-- A program of the system. -/
  | program (name : String)
  /-- Whatever the process that asks has open under a number. -/
  | standing (number : Nat)
  deriving DecidableEq, Repr

structure Node where
  content : Content
  /-- The permission bits. -/
  mode : Nat
  /-- How many names the node has. -/
  names : Nat := 1
  /-- When the contents were last changed. -/
  stamp : Nat := 0
  deriving DecidableEq, Repr

namespace Node

def isDirectory (n : Node) : Bool := n.content matches .directory ..

/-- Some of its users may run it. -/
def isExecutable (n : Node) : Bool := n.mode &&& 0o111 != 0

end Node

structure FileTree where
  nodes : Array Node

/-- What following a path comes to. -/
inductive Place where
  /-- A node, and the directory and the name by which it was reached, if that was its own name. -/
  | found (node : NodeId) (entry : Option (NodeId × String))
  /-- Nothing, in a directory that there is. -/
  | missing (directory : NodeId) (name : String)
  deriving DecidableEq, Repr

namespace Path

/-- The names in the text of a path. -/
def names (text : String) : List String :=
  (pieces (· = '/') text.toList).map String.ofList

def isAbsolute (text : String) : Bool := text.startsWith "/"

/-- Names that lead nowhere else. -/
def stays (name : String) : Bool := name = "" || name = "."

def longestName : Nat := 255

def longestText : Nat := 4095

def mostLinks : Nat := 40

end Path

namespace FileTree

def root : NodeId := 0

def rootNode : Node := { content := .directory [] root, mode := 0o755 }

def node (t : FileTree) (n : NodeId) : Node := t.nodes.getD n rootNode

def content (t : FileTree) (n : NodeId) : Content := (t.node n).content

def isDirectory (t : FileTree) (n : NodeId) : Bool := (t.node n).isDirectory

/-- The names in a directory, in the order in which they were given. -/
def children (t : FileTree) (n : NodeId) : List (String × NodeId) :=
  match t.content n with
  | .directory children _ => children
  | _ => []

def parent (t : FileTree) (n : NodeId) : NodeId :=
  match t.content n with
  | .directory _ parent => parent
  | _ => root

def child? (t : FileTree) (n : NodeId) (name : String) : Option NodeId :=
  (t.children n).lookup name

/-- A directory that has been removed can hold nothing. -/
def isGone (t : FileTree) (n : NodeId) : Bool := (t.node n).names = 0

/-- Follows names from the directory `here`, which was reached by `entry`, through at most `links`
links. A link at the end is followed only if `follow` says so. -/
def walk (t : FileTree) (follow : Bool) (links : Nat) (here : NodeId)
    (entry : Option (NodeId × String)) (todo : List String) : Except Errno Place :=
  match todo with
  | [] => .ok (.found here entry)
  | name :: rest =>
      if Path.stays name then
        t.walk follow links here (if name = "" then entry else none) rest
      else if name = ".." then t.walk follow links (t.parent here) none rest
      else if Path.longestName < name.length then .error .nameTooLong
      else if t.isGone here then .error .noEntry
      else
        match t.child? here name with
        | none => if rest.all (·.isEmpty) then .ok (.missing here name) else .error .noEntry
        | some child =>
            match t.content child with
            | .directory .. => t.walk follow links child (some (here, name)) rest
            | .link target =>
                if rest.isEmpty && !follow then .ok (.found child (some (here, name)))
                else
                  match links with
                  | 0 => .error .linkLoop
                  | links + 1 =>
                      t.walk follow links (if Path.isAbsolute target then root else here) none
                        (Path.names target ++ rest)
            | _ =>
                if rest.isEmpty then .ok (.found child (some (here, name)))
                else .error .notDirectory
termination_by (links, todo.length)

/-- Follows the text of a path. -/
def resolve (t : FileTree) (follow : Bool) (cwd : NodeId) (text : String) : Except Errno Place :=
  if text.isEmpty then .error .noEntry
  else if Path.longestText < text.length then .error .nameTooLong
  else t.walk follow Path.mostLinks (if Path.isAbsolute text then root else cwd) none
    (Path.names text)

/-- The node that the text of a path leads to. -/
def find (t : FileTree) (follow : Bool) (cwd : NodeId) (text : String) : Except Errno NodeId := do
  match ← t.resolve follow cwd text with
  | .found node _ => return node
  | .missing .. => throw .noEntry

/-- The directory that the text of a path leads to. -/
def locate (t : FileTree) (cwd : NodeId) (text : String) : Except Errno NodeId := do
  let node ← t.find true cwd text
  if t.isDirectory node then return node else throw .notDirectory

/-- The names from the root to a directory, or `none` if they do not lead there. -/
def pathTo? (t : FileTree) : Nat → NodeId → List String → Option (List String)
  | 0, _, _ => none
  | depth + 1, n, names =>
      if n = root then some names
      else
        match (t.children (t.parent n)).find? (·.2 = n) with
        | some (name, _) => t.pathTo? depth (t.parent n) (name :: names)
        | none => none

/-- The name of a directory, if it can still be named. -/
def nameOf? (t : FileTree) (n : NodeId) : Option String :=
  (t.pathTo? (t.nodes.size + 1) n []).map fun names => "/" ++ "/".intercalate names

end FileTree

end LineShell.Machine
