import LineShell.Machine.FileTree.Change
import LineShell.Machine.Table

/-!
What a process can get at in an instant, without waiting for anyone: the file tree, the open files,
and what belongs to the process itself.
-/

namespace LineShell.Machine

/-- The environment variables, with their values. -/
abbrev Settings := List (String × String)

namespace Settings

/-- Gives a variable a value, in its place if it has one. -/
def assign (s : Settings) (name value : String) : Settings :=
  if s.any (·.1 = name) then s.map fun (n, v) => (n, if n = name then value else v)
  else s ++ [(name, value)]

def drop (s : Settings) (name : String) : Settings := s.filter (·.1 != name)

end Settings

/-- What belongs to one process. -/
structure Process where
  pid : Pid
  parent : Pid := 1
  table : Table := []
  cwd : NodeId := FileTree.root
  settings : Settings := []
  /-- The permission bits that new files do not get. -/
  mask : Nat := 0o022
  /-- No descriptor is as high as this. -/
  limit : Nat := 1024
  /-- The signals that do nothing to it. -/
  ignored : List Nat := []
  /-- The signals that it takes note of, and those that have come since it last looked. -/
  caught : List Nat := []
  arrived : List Nat := []

structure System where
  tree : FileTree
  files : List (Nat × OpenFile) := []
  nextFile : Nat := 0
  /-- What the pipes hold. -/
  queues : List (Nat × Bytes) := []
  nextPipe : Nat := 0
  /-- What was written on the standard output of the machine, the last part first. -/
  output : List Bytes := []
  diagnostics : List Bytes := []
  /-- Nanoseconds gone by. -/
  clock : Nat := 0
  /-- Goes up with every change to a file. -/
  stamp : Nat := 0

structure World where
  system : System
  self : Process

/-- Something done in an instant. -/
abbrev Instant := StateM World

/-- How a file is to be opened. -/
structure Opening where
  reads : Bool := false
  writes : Bool := false
  appends : Bool := false
  creates : Bool := false
  truncates : Bool := false
  /-- The file must be new. -/
  fresh : Bool := false
  /-- The descriptor is not for programs that the process comes to run. -/
  passing : Bool := false
  mode : Nat := FileTree.fileMode

namespace Opening

def forReading : Opening := { reads := true }

def forWriting : Opening := { writes := true, creates := true, truncates := true }

def forAppending : Opening := { writes := true, creates := true, appends := true }

end Opening

namespace System

def file? (s : System) (f : Nat) : Option OpenFile := s.files.lookup f

def updateFile (s : System) (f : Nat) (change : OpenFile → OpenFile) : System :=
  { s with files := s.files.map fun (n, file) => (n, if n = f then change file else file) }

/-- One more descriptor stands for an open file. -/
def hold (s : System) (f : Nat) : System :=
  s.updateFile f fun file => { file with holders := file.holders + 1 }

/-- One descriptor less stands for an open file. With the last one it is closed. -/
def release (s : System) (f : Nat) : System :=
  match s.file? f with
  | none => s
  | some file =>
      if file.holders ≤ 1 then { s with files := s.files.filter (·.1 != f) }
      else s.updateFile f fun file => { file with holders := file.holders - 1 }

def addFile (s : System) (file : OpenFile) : Nat × System :=
  (s.nextFile, { s with files := (s.nextFile, file) :: s.files, nextFile := s.nextFile + 1 })

def queue (s : System) (pipe : Nat) : Bytes := (s.queues.lookup pipe).getD []

def setQueue (s : System) (pipe : Nat) (bytes : Bytes) : System :=
  { s with queues := (pipe, bytes) :: s.queues.filter (·.1 != pipe) }

/-- Someone has an end of a pipe. -/
def isHeld (s : System) (end_ : Stream) : Bool := s.files.any (·.2.stream = end_)

def setContent (s : System) (n : NodeId) (content : Content) : System :=
  { s with tree := s.tree.setContent n content s.stamp, stamp := s.stamp + 1 }

/-- A file's bytes with others written over them from a position on. -/
def overwrite (old : Bytes) (position : Nat) (bytes : Bytes) : Bytes :=
  if position = old.length then old ++ bytes
  else
    old.take position ++ List.replicate (position - old.length) 0 ++ bytes ++
      old.drop (position + bytes.length)

end System

namespace World

/-- Gives an open file a descriptor, the lowest that is free. -/
def attach (file : OpenFile) (passing : Bool) (least : Nat) : Instant (Except Errno Descriptor) :=
  fun w =>
    match w.self.table.lowestFree? least w.self.limit with
    | none => (.error .tooManyOpen, w)
    | some d =>
        let (f, system) := w.system.addFile file
        (.ok d, ⟨system, { w.self with table := w.self.table.set d ⟨f, passing⟩ }⟩)

/-- Opens a node that there is. -/
def openNode (opening : Opening) (n : NodeId) : Instant (Except Errno Descriptor) := fun w =>
  let file (stream : Stream) : OpenFile :=
    { stream := stream, reads := opening.reads, writes := opening.writes,
      appends := opening.appends }
  let plain (stream : Stream) := attach (file stream) opening.passing 0
  match w.system.tree.content n with
  | .directory .. =>
      if opening.writes || opening.creates then (.error .isDirectory, w) else plain (.node n) w
  | .standing number =>
      match w.self.table.file? number >>= w.system.file? with
      | none => (.error .noEntry, w)
      | some old =>
          match old.stream with
          | .node n =>
              if w.system.tree.isDirectory n && opening.writes then (.error .isDirectory, w)
              else if opening.truncates then
                plain (.node n) { w with system := w.system.setContent n (.file []) }
              else plain (.node n) w
          | .reader pipe | .writer pipe =>
              plain (if opening.writes then .writer pipe else .reader pipe) w
          | stream => plain stream w
  | .file _ =>
      if opening.truncates then
        plain (.node n) { w with system := w.system.setContent n (.file []) }
      else plain (.node n) w
  | _ => plain (.node n) w

/-- Opens what the text of a path leads to. -/
def openPath (opening : Opening) (path : String) : Instant (Except Errno Descriptor) := fun w =>
  match w.system.tree.resolve (!opening.fresh) w.self.cwd path with
  | .error e => (.error e, w)
  | .ok (.found n _) =>
      if opening.fresh then (.error .alreadyExists, w) else openNode opening n w
  | .ok (.missing directory name) =>
      if !opening.creates then (.error .noEntry, w)
      else if path.endsWith "/" then (.error .isDirectory, w)
      else
        let node : Node :=
          { content := .file [], mode := opening.mode &&& (0o7777 ^^^ w.self.mask)
            stamp := w.system.stamp }
        let (n, tree) := w.system.tree.add directory name node
        openNode { opening with truncates := false } n
          { w with system := { w.system with tree := tree, stamp := w.system.stamp + 1 } }

def close (d : Descriptor) : Instant (Except Errno Unit) := fun w =>
  match w.self.table.file? d with
  | none => (.error .badDescriptor, w)
  | some f => (.ok (), ⟨w.system.release f, { w.self with table := w.self.table.remove d }⟩)

/-- Opens another descriptor, not below `least`, for the same open file. -/
def duplicate (d : Descriptor) (least : Nat) (passing : Bool) :
    Instant (Except Errno Descriptor) := fun w =>
  match w.self.table.file? d with
  | none => (.error .badDescriptor, w)
  | some f =>
      match w.self.table.lowestFree? least w.self.limit with
      | none => (.error .tooManyOpen, w)
      | some copy =>
          (.ok copy,
            ⟨w.system.hold f, { w.self with table := w.self.table.set copy ⟨f, passing⟩ }⟩)

/-- Makes the second descriptor stand for the open file of the first. -/
def replace (source target : Descriptor) : Instant (Except Errno Unit) := fun w =>
  match w.self.table.file? source with
  | none => (.error .badDescriptor, w)
  | some f =>
      if source = target then (.ok (), w)
      else
        let system := w.system.hold f
        let system := match w.self.table.file? target with
          | some old => system.release old
          | none => system
        (.ok (), ⟨system, { w.self with table := w.self.table.set target ⟨f, false⟩ }⟩)

/-- Makes a pipe and gives its reading and its writing end. -/
def pipe : Instant (Except Errno (Descriptor × Descriptor)) := do
  let w ← get
  let number := w.system.nextPipe
  match ← attach { stream := .reader number } false 0 with
  | .error e => return .error e
  | .ok reader =>
      match ← attach { stream := .writer number, reads := false, writes := true } false 0 with
      | .error e =>
          let _ ← close reader
          return .error e
      | .ok writer =>
          modify fun w => { w with system := { w.system with nextPipe := number + 1 } }
          return .ok (reader, writer)

/-- Closes whatever the process has open. -/
def closeAll : Instant Unit := modify fun w =>
  ⟨w.self.table.foldl (fun s (_, slot) => s.release slot.file) w.system,
    { w.self with table := [] }⟩

/-- Closes what is not for other programs. -/
def closePassing : Instant Unit := do
  for (d, slot) in (← get).self.table do
    if slot.passing then
      let _ ← close d

def file? (d : Descriptor) : Instant (Option OpenFile) := do
  let w ← get
  return w.self.table.file? d >>= w.system.file?

def changeDirectory (path : String) : Instant (Except Errno Unit) := fun w =>
  match w.system.tree.locate w.self.cwd path with
  | .ok n => (.ok (), { w with self := { w.self with cwd := n } })
  | .error e => (.error e, w)

/-- Makes a change to the file tree, which may fail. -/
def change (f : FileTree → NodeId → Except Errno FileTree) : Instant (Except Errno Unit) := fun w =>
  match f w.system.tree w.self.cwd with
  | .ok tree => (.ok (), { w with system := { w.system with tree := tree } })
  | .error e => (.error e, w)

/-- The bytes of a regular file from the position of a descriptor on. -/
def pending (d : Descriptor) : Instant (Except Errno Bytes) := do
  match ← file? d with
  | none => return .error .badDescriptor
  | some file =>
      match file.stream with
      | .node n =>
          match (← get).system.tree.content n with
          | .file bytes => return .ok (bytes.drop file.position)
          | .directory .. => return .error .isDirectory
          | _ => return .ok []
      | _ => return .ok []

/-- Puts the position of a descriptor elsewhere. -/
def moveTo (d : Descriptor) (position : Nat) : Instant Unit := modify fun w =>
  match w.self.table.file? d with
  | none => w
  | some f => { w with system := w.system.updateFile f ({ · with position := position }) }

/-- The size of a regular file. -/
def size (w : World) (n : NodeId) : Nat :=
  match w.system.tree.content n with
  | .file bytes => bytes.length
  | _ => 0

end World

end LineShell.Machine
