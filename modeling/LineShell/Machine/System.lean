import LineShell.Machine.Installed
import LineShell.Machine.Running

/-!
The calls of the shell, answered by a machine. Arguments are texts to the shell and bytes to the
machine. Once a signal has ended the shell, nothing that it does has an effect.
-/

namespace LineShell.Machine

/-- A name or a value as a raw text. -/
def rawName (name : SystemText) : String := Raw.ofBytes name.bytes

def ofRawName (raw : String) : SystemText := ⟨Raw.toBytes raw⟩

def setVariable (m : Machine) (name : String) (value : SystemText) : Machine :=
  { m with shell := { m.shell with
    settings := m.shell.settings.assign (Raw.encode name) (rawName value) } }

def unsetVariable (m : Machine) (name : String) : Machine :=
  { m with shell := { m.shell with settings := m.shell.settings.drop (Raw.encode name) } }

def value? (m : Machine) (name : String) : Option SystemText :=
  (m.shell.settings.lookup (Raw.encode name)).map ofRawName

/-- Does something as the shell. -/
def asShell {α : Type} (f : Instant α) : StateM Machine α := fun m =>
  let (a, w) := f ⟨m.system, m.shell⟩
  (a, { m with system := w.system, shell := w.self })

/-- Does something that names a path as the shell. -/
def withPath {α : Type} (path : SystemText) (f : String → Instant (Except Errno α)) :
    StateM Machine (Except Fault α) :=
  if path.bytes.contains 0 then return .error .nulInPath
  else do return (← asShell (f (rawName path))).mapError Fault.system

def inputSize : Nat := 65536

/-- Reads on to the end on behalf of the shell. -/
def readAll (d : Descriptor) : Nat → List Bytes → StateM Machine Bytes
  | 0, parts => return parts.reverse.flatten
  | bound + 1, parts => do
      match ← readShell Tool.ofImage d inputSize patience with
      | .error _ => return parts.reverse.flatten
      | .ok bytes =>
          if bytes.isEmpty then return parts.reverse.flatten
          readAll d bound (bytes :: parts)

/-- Writes on behalf of the shell, unless it is no more. -/
def writeAll (d : Descriptor) (bytes : Bytes) : StateM Machine (Except (Nat × Errno) Unit) :=
  fun m =>
    if m.struck.isSome || bytes.isEmpty then (.ok (), m)
    else writeShell Tool.ofImage d patience m 0 bytes

instance : Environment Machine where
  currentDirectory := do
    let m ← get
    return match m.system.tree.nameOf? m.shell.cwd with
      | some name => .ok (ofRawName name)
      | none => .error .noEntry
  changeDirectory path := withPath path World.changeDirectory
  value? name := do return (← get).value? name
  setVariable name value := modify (·.setVariable name value)
  accountHome? := return some (.ofText accountHome)
  complain text := do
    let _ ← writeAll Tool.diagnostics (Utf8.encode text)
    return ()
  readInput := readAll Descriptor.input patience []

/-- Gives a file new contents, or adds to those that it has. -/
def writeFile (opening : Opening) (path : SystemText) (bytes : Bytes) :
    StateM Machine (Except Fault Unit) := do
  if (← get).struck.isSome then return .ok ()
  match ← withPath path (World.openPath opening) with
  | .error fault => return .error fault
  | .ok d => do
      let written ← writeAll d bytes
      let _ ← asShell (World.close d)
      return written.mapError fun (_, e) => .system e

/-- Starts a child of the shell, which shares what the shell has open but for the descriptors that it
puts in the place of others or closes. -/
def launch (child : LineShell.Child) : StateM Machine Pid := fun m =>
  let self : Process := { m.shell with pid := m.nextPid, parent := m.shell.pid }
  let system := self.table.foldl (fun s (_, slot) => s.hold slot.file) m.system
  let w : World := child.bindings.foldl (fun w (source, target) =>
    let (_, w) := World.replace source target w
    w) ⟨system, self⟩
  let w : World := child.closing.foldl (fun w d =>
    let (_, w) := World.close d w
    w) w
  let process : Running := ⟨w.self, childProgram (child.argv.map Raw.encode) self.settings, none⟩
  (m.nextPid, { m with
    system := w.system, running := m.running ++ [process], nextPid := m.nextPid + 1 })

instance : Kernel Machine where
  pipe := asShell World.pipe
  close d := do
    let _ ← asShell (World.close d)
    return ()
  duplicate d := asShell (World.duplicate d 0 false)
  keep d := asShell (World.duplicate d 3 true)
  replace source target := asShell (World.replace source target)
  write d bytes := writeAll d bytes
  fork child := do
    if (← get).struck.isSome then return .error .tryAgain
    return .ok (← launch child)
  wait pid := do
    modify (runUntil Tool.ofImage (fun m => m.ended.any (·.pid = pid)) patience)
    let m ← get
    match m.ended.find? fun e => e.pid = pid && e.parent = m.shell.pid with
    | none => return [.error .noChild]
    | some e => do
        set { m with ended := m.ended.filter (·.pid != pid) }
        return [.ok (waitWord e.ending)]
  pending d := do return (← asShell (World.pending d)).mapError Fault.system
  skip d count := asShell do
    match ← World.file? d with
    | some file => World.moveTo d (file.position + count)
    | none => return ()
  openFile path := withPath path (World.openPath { reads := true, passing := true })
  openLog path := writeFile .forAppending path []
  saveFile path bytes := writeFile .forWriting path bytes

/-- What was written on the standard output of the machine. -/
def output (m : Machine) : Bytes := m.system.output.reverse.flatten

def diagnostics (m : Machine) : Bytes := m.system.diagnostics.reverse.flatten

/-- Forgets what was written. -/
def clearOutput (m : Machine) : Machine :=
  { m with system := { m.system with output := [], diagnostics := [] } }

/-- What the standard output of the machine may be instead of something that keeps what is written. -/
inductive Outlet where
  /-- A device that takes nothing. -/
  | full
  /-- A pipe that nobody reads. -/
  | broken
  deriving DecidableEq, Repr

/-- Gives the shell another standard output. -/
def redirectOutput (m : Machine) (outlet : Outlet) : Machine :=
  let stream : Option Stream := match outlet with
    | .full => (m.system.tree.find true FileTree.root "/dev/full").toOption.map .node
    | .broken => some (.writer m.system.nextPipe)
  match stream, m.shell.table.file? Descriptor.output with
  | some stream, some f =>
      let system := m.system.updateFile f fun file => { file with stream := stream }
      { m with system := { system with nextPipe := system.nextPipe + 1 } }
  | _, _ => m

/-- A machine whose shell works in the directory `cwd`, with a file as its standard input. -/
def start (tree : FileTree) (cwd : NodeId) (settings : Settings) (input : Bytes) : Machine :=
  let n := tree.nodes.size
  let node : Node := { content := .file input, mode := 0o600, names := 0 }
  let files : List (Nat × OpenFile) := [
    (0, { stream := .node n, writes := true }),
    (1, { stream := .output, reads := false, writes := true }),
    (2, { stream := .diagnostics, reads := false, writes := true })]
  { system := { tree := ⟨tree.nodes.push node⟩, files := files, nextFile := files.length }
    shell := {
      pid := 1, parent := 0, table := [(0, ⟨0, false⟩), (1, ⟨1, false⟩), (2, ⟨2, false⟩)]
      cwd := cwd, settings := settings } }

end LineShell.Machine
