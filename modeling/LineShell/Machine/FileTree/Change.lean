import LineShell.Machine.FileTree

/-!
Changes to a file tree. Each one that names a path fails as the operating system would have it.
-/

namespace LineShell.Machine.FileTree

/-- The permission bits of a new directory and of a new file, before the mask. -/
def directoryMode : Nat := 0o777

def fileMode : Nat := 0o666

def linkMode : Nat := 0o777

def modify (t : FileTree) (n : NodeId) (f : Node → Node) : FileTree := ⟨t.nodes.modify n f⟩

/-- Gives a node other contents. -/
def setContent (t : FileTree) (n : NodeId) (content : Content) (stamp : Nat) : FileTree :=
  t.modify n fun node => { node with content := content, stamp := stamp }

def setChildren (t : FileTree) (n : NodeId) (f : List (String × NodeId) → List (String × NodeId)) :
    FileTree :=
  t.modify n fun node =>
    match node.content with
    | .directory children parent => { node with content := .directory (f children) parent }
    | _ => node

/-- Gives a node a name in a directory. -/
def enter (t : FileTree) (directory : NodeId) (name : String) (n : NodeId) : FileTree :=
  t.setChildren directory (· ++ [(name, n)])

/-- Adds a node under a name. -/
def add (t : FileTree) (directory : NodeId) (name : String) (node : Node) : NodeId × FileTree :=
  let n := t.nodes.size
  (n, FileTree.enter ⟨t.nodes.push node⟩ directory name n)

/-- Takes a name away, and gives it to nobody. -/
def forget (t : FileTree) (directory : NodeId) (name : String) : FileTree :=
  match t.child? directory name with
  | none => t
  | some n =>
      (t.setChildren directory (·.filter (·.1 != name))).modify n fun node =>
        { node with names := node.names - 1 }

def addDirectory (t : FileTree) (directory : NodeId) (name : String) (mode : Nat) :
    NodeId × FileTree :=
  t.add directory name { content := .directory [] directory, mode := mode }

/-- Makes a directory and those on the way to it, as far as they are missing. -/
def installDirectory (t : FileTree) (names : List String) : NodeId × FileTree :=
  names.foldl (fun (n, t) name =>
    match t.child? n name with
    | some child => (child, t)
    | none => t.addDirectory n name 0o755) (root, t)

/-- Makes the directories on the way to a node, and puts it there. -/
def install (t : FileTree) (names : List String) (node : Node) : FileTree :=
  let (directory, t) := t.installDirectory names.dropLast
  let name := names.getLast?.getD ""
  ((t.forget directory name).add directory name node).2

/-- The text of a path without slashes at its end, unless it is nothing but slashes. -/
def withoutSlashes (text : String) : String :=
  let body := text.toList.reverse.dropWhile (· = '/')
  if body.isEmpty then text else String.ofList body.reverse

/-- What has the name that the text of a path ends with. A link there is not followed, whatever
slashes come after it. -/
def resolveName (t : FileTree) (cwd : NodeId) (text : String) : Except Errno Place :=
  t.resolve false cwd (withoutSlashes text)

def makeDirectory (t : FileTree) (cwd : NodeId) (text : String) (mode : Nat) :
    Except Errno FileTree := do
  match ← t.resolveName cwd text with
  | .found .. => throw .alreadyExists
  | .missing directory name => return (t.addDirectory directory name mode).2

/-- The last name in the text of a path. -/
def lastName (text : String) : String :=
  (((Path.names text).filter (· != "")).getLast?).getD ""

def removeDirectory (t : FileTree) (cwd : NodeId) (text : String) : Except Errno FileTree := do
  match ← t.resolveName cwd text with
  | .missing .. => throw .noEntry
  | .found n entry =>
      if !t.isDirectory n then throw .notDirectory
      else match entry with
        | none =>
            throw (if lastName text = "." then .invalid
              else if lastName text = ".." then .notEmpty else .busy)
        | some (directory, name) =>
            if (t.children n).isEmpty then return t.forget directory name else throw .notEmpty

/-- Removes a name of a node that is no directory. -/
def removeFile (t : FileTree) (cwd : NodeId) (text : String) : Except Errno FileTree := do
  match ← t.resolveName cwd text with
  | .missing .. => throw .noEntry
  | .found n entry =>
      match entry with
      | some (directory, name) =>
          if t.isDirectory n then throw .isDirectory
          else if text.endsWith "/" then throw .notDirectory
          else return t.forget directory name
      | none => throw .isDirectory

def makeLink (t : FileTree) (cwd : NodeId) (target text : String) : Except Errno FileTree := do
  if target.isEmpty then throw .noEntry
  match ← t.resolveName cwd text with
  | .found .. => throw .alreadyExists
  | .missing directory name =>
      if text.endsWith "/" then throw .noEntry
      return (t.add directory name { content := .link target, mode := linkMode }).2

/-- Gives a node another name. -/
def nameAgain (t : FileTree) (follow : Bool) (cwd : NodeId) (text newText : String) :
    Except Errno FileTree := do
  let n ← t.find follow cwd text
  match ← t.resolveName cwd newText with
  | .found .. => throw .alreadyExists
  | .missing directory name =>
      if newText.endsWith "/" then throw .noEntry
      if t.isDirectory n then throw .notPermitted
      return (t.enter directory name n).modify n fun node => { node with names := node.names + 1 }

/-- A directory is another one or lies below it. -/
def isWithin (t : FileTree) (above : NodeId) : Nat → NodeId → Bool
  | 0, _ => false
  | depth + 1, n => n = above || (n != root && t.isWithin above depth (t.parent n))

/-- Moves a node from one name to another, in place of what may have that name. -/
def moveTo (t : FileTree) (directory : NodeId) (name : String) (newDirectory : NodeId)
    (newName : String) (n : NodeId) : FileTree :=
  let t := t.forget newDirectory newName
  let t := t.setChildren directory (·.filter (·.1 != name))
  let t := t.enter newDirectory newName n
  t.modify n fun node =>
    match node.content with
    | .directory children _ => { node with content := .directory children newDirectory }
    | _ => node

/-- Renames a node. -/
def move (t : FileTree) (cwd : NodeId) (text newText : String) : Except Errno FileTree := do
  match ← t.resolveName cwd text with
  | .missing .. => throw .noEntry
  | .found _ none => throw .busy
  | .found n (some (directory, name)) =>
      if !t.isDirectory n && (text.endsWith "/" || newText.endsWith "/") then throw .notDirectory
      match ← t.resolveName cwd newText with
      | .found _ none => throw .busy
      | .missing newDirectory newName =>
          if t.isDirectory n && t.isWithin n t.nodes.size newDirectory then throw .invalid
          return t.moveTo directory name newDirectory newName n
      | .found old (some (newDirectory, newName)) =>
          if old = n then return t
          if t.isDirectory n then
            if t.isWithin n t.nodes.size newDirectory then throw .invalid
            if !t.isDirectory old then throw .notDirectory
            if !(t.children old).isEmpty then throw .notEmpty
          else if t.isDirectory old then throw .isDirectory
          return t.moveTo directory name newDirectory newName n

end LineShell.Machine.FileTree
