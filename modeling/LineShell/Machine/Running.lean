import LineShell.Machine.Image
import LineShell.Machine.Search
import LineShell.Pipeline.Task

/-!
A machine with its processes. Each of them runs until it has to wait, and then it is the turn of
the next. The shell is a process too, but one that comes from outside: the others run when it waits.
-/

namespace LineShell

namespace Machine

/-- A process other than the shell. -/
structure Running where
  self : Process
  program : Program
  /-- When it will have slept enough. -/
  wakes : Option Nat := none

/-- A process that has ended and that nobody has waited for. -/
structure Ended where
  pid : Pid
  parent : Pid
  ending : Ending
  deriving DecidableEq, Repr

end Machine

open Machine

structure Machine where
  system : System
  shell : Process
  running : List Running := []
  ended : List Ended := []
  nextPid : Pid := 2
  /-- The signal that ended the shell. -/
  struck : Option Nat := none

namespace Machine

def pipeCapacity : Nat := 65536

def pipeSignal : Nat := 13

def lastSignal : Nat := 64

/-- Signals that nobody minds who does not ask for them. -/
def harmlessSignals : List Nat := [17, 18, 23, 28]

/-- Signals that cannot be ignored. -/
def sovereignSignals : List Nat := [9, 19]

def lastWrite (s : System) (bytes : Bytes) (stream : Stream) : System :=
  match stream with
  | .output => { s with output := bytes :: s.output }
  | .diagnostics => { s with diagnostics := bytes :: s.diagnostics }
  | _ => s

/-- Takes what a node gives at the position of an open file. -/
def readNode (s : System) (f : Nat) (file : OpenFile) (n : NodeId) (size : Nat) :
    Except Errno Bytes × System :=
  match s.tree.content n with
  | .directory .. => (.error .isDirectory, s)
  | .file bytes =>
      let part := (bytes.drop file.position).take size
      (.ok part, s.updateFile f fun file => { file with position := file.position + part.length })
  | .device .zero | .device .full => (.ok (List.replicate size 0), s)
  | _ => (.ok [], s)

/-- Writes to a node at the position of an open file. -/
def writeNode (s : System) (f : Nat) (file : OpenFile) (n : NodeId) (bytes : Bytes) :
    Option Errno × System :=
  match s.tree.content n with
  | .file old =>
      let position := if file.appends then old.length else file.position
      let s := s.setContent n (.file (System.overwrite old position bytes))
      (none, s.updateFile f fun file => { file with position := position + bytes.length })
  | .device .full => (if bytes.isEmpty then none else some .noSpace, s)
  | _ => (none, s)

/-- What comes of trying to read or write without waiting. -/
inductive Attempt (α : Type) where
  | waits
  | made (answer : α) (s : System)

def tryRead (s : System) (table : Table) (d : Descriptor) (size : Nat) :
    Attempt (Except Errno Bytes) :=
  match table.file? d with
  | none => .made (.error .badDescriptor) s
  | some f =>
      match s.file? f with
      | none => .made (.error .badDescriptor) s
      | some file =>
          if !file.reads then .made (.error .badDescriptor) s
          else match file.stream with
            | .node n =>
                let (answer, s) := readNode s f file n size
                .made answer s
            | .reader pipe =>
                let queue := s.queue pipe
                if !queue.isEmpty then .made (.ok (queue.take size)) (s.setQueue pipe (queue.drop size))
                else if s.isHeld (.writer pipe) then .waits
                else .made (.ok []) s
            | _ => .made (.ok []) s

/-- The answer to a write is how many bytes were written, or why none were. A pipe takes what it has
room for. -/
def tryWrite (s : System) (table : Table) (d : Descriptor) (bytes : Bytes) :
    Attempt (Except Errno Nat) :=
  match table.file? d with
  | none => .made (.error .badDescriptor) s
  | some f =>
      match s.file? f with
      | none => .made (.error .badDescriptor) s
      | some file =>
          if !file.writes then .made (.error .badDescriptor) s
          else match file.stream with
            | .node n =>
                match writeNode s f file n bytes with
                | (none, s) => .made (.ok bytes.length) s
                | (some e, s) => .made (.error e) s
            | .writer pipe =>
                let queue := s.queue pipe
                let room := pipeCapacity - queue.length
                if bytes.isEmpty then .made (.ok 0) s
                else if !s.isHeld (.reader pipe) then .made (.error .brokenPipe) s
                else if room = 0 then .waits
                else .made (.ok (min room bytes.length)) (s.setQueue pipe (queue ++ bytes.take room))
            | stream => .made (.ok bytes.length) (lastWrite s bytes stream)

/-! ### Processes -/

/-- Ends a process: what it had open is closed, and its parent can learn of it. -/
def finish (m : Machine) (self : Process) (ending : Ending) : Machine :=
  let (_, w) := World.closeAll ⟨m.system, self⟩
  { m with
    system := w.system
    running := m.running.filter (·.self.pid != self.pid)
    ended := m.ended ++ [⟨self.pid, self.parent, ending⟩] }

def putBack (m : Machine) (r : Running) : Machine :=
  { m with running := m.running.map fun other => if other.self.pid = r.self.pid then r else other }

/-- What a signal does to a process. -/
inductive Blow where
  | nothing
  | noted
  | deadly
  deriving DecidableEq, Repr

def blow (self : Process) (signal : Nat) : Blow :=
  if signal = 0 then .nothing
  else if sovereignSignals.contains signal then .deadly
  else if self.ignored.contains signal then .nothing
  else if self.caught.contains signal then .noted
  else if harmlessSignals.contains signal then .nothing
  else .deadly

def note (self : Process) (signal : Nat) : Process :=
  { self with arrived := self.arrived.filter (· != signal) ++ [signal] }

/-- Sends a signal to a process other than the one that sends it. -/
def strike (m : Machine) (target : Pid) (signal : Nat) : Except Errno Unit × Machine :=
  if target = m.shell.pid then
    (.ok (), if signal = 0 then m else { m with struck := m.struck.or (some signal) })
  else
    match m.running.find? (·.self.pid = target) with
    | some r =>
        match blow r.self signal with
        | .nothing => (.ok (), m)
        | .noted => (.ok (), m.putBack { r with self := note r.self signal })
        | .deadly => (.ok (), m.finish r.self (.killed signal))
    | none =>
        if m.ended.any (·.pid = target) then (.ok (), m) else (.error .noSuchProcess, m)

/-- What a process comes to by its next call. -/
inductive Step where
  | blocked (r : Running)
  | ended (self : Process) (ending : Ending)
  | moved (m : Machine) (r : Running)

/-- What becomes of a process that a signal is sent to, and what it does if it goes on. -/
def struckStep (m : Machine) (r : Running) (signal : Nat) (next : Program) : Step :=
  match blow r.self signal with
  | .nothing => .moved m { r with program := next }
  | .noted => .moved m { r with self := note r.self signal, program := next }
  | .deadly => .ended r.self (.killed signal)

def stepWrite (m : Machine) (r : Running) (d : Descriptor) (bytes : Bytes)
    (next : Option Errno → Program) : Step :=
  match tryWrite m.system r.self.table d bytes with
  | .waits => .blocked r
  | .made (.ok count) system =>
      let rest := bytes.drop count
      .moved { m with system := system }
        { r with program := if rest.isEmpty then next none else .write d rest next }
  | .made (.error e) system =>
      let m := { m with system := system }
      if e = .brokenPipe then struckStep m r pipeSignal (next (some e))
      else .moved m { r with program := next (some e) }

def stepWait (m : Machine) (r : Running) (which : Option Pid) (patience : Patience)
    (next : Waited → Program) : Step :=
  let isMeant (pid parent : Pid) : Bool := parent = r.self.pid && which.all (· = pid)
  match m.ended.find? fun e => isMeant e.pid e.parent with
  | some e =>
      .moved { m with ended := m.ended.filter (·.pid != e.pid) }
        { r with program := next (.ended e.pid e.ending) }
  | none =>
      if !m.running.any fun other => isMeant other.self.pid other.self.parent then
        .moved m { r with program := next .noChild }
      else if patience = .absent then .moved m { r with program := next .running }
      else if patience = .alert && !r.self.arrived.isEmpty then
        .moved m { r with program := next .interrupted }
      else .blocked r

def stepKill (m : Machine) (r : Running) (target : Int) (signal : Nat)
    (next : Except Errno Unit → Program) : Step :=
  if lastSignal < signal then .moved m { r with program := next (.error .invalid) }
  else if target = r.self.pid then struckStep m r signal (next (.ok ()))
  else
    let (answer, m) := m.strike target signal
    .moved m { r with program := next answer }

/-- The next call of a process, where `start` is what runs an image. -/
def step (start : Image → Program) (m : Machine) (r : Running) : Step :=
  match r.program with
  | .done ending => .ended r.self ending
  | .act f =>
      let (w, program) := f ⟨m.system, r.self⟩
      .moved { m with system := w.system } { r with self := w.self, program := program }
  | .read d size next =>
      match tryRead m.system r.self.table d size with
      | .waits => .blocked r
      | .made answer system => .moved { m with system := system } { r with program := next answer }
  | .write d bytes next => stepWrite m r d bytes next
  | .fork child next =>
      let pid := m.nextPid
      let self := { r.self with pid := pid, parent := r.self.pid, arrived := [] }
      let system := self.table.foldl (fun s (_, slot) => s.hold slot.file) m.system
      .moved { m with
          system := system, running := m.running ++ [⟨self, child, none⟩], nextPid := pid + 1 }
        { r with program := next pid }
  | .exec path argv settings next =>
      match Image.ofPath m.system.tree r.self.cwd settings path argv with
      | .error e => .moved m { r with program := next e }
      | .ok image =>
          let self := { r.self with settings := settings, caught := [], arrived := [] }
          let (_, w) := World.closePassing ⟨m.system, self⟩
          .moved { m with system := w.system } { r with self := w.self, program := start image }
  | .wait which patience next => stepWait m r which patience next
  | .sleep time next =>
      match r.wakes with
      | none => .blocked { r with wakes := some (m.system.clock + time) }
      | some wakes =>
          if wakes ≤ m.system.clock then .moved m { r with program := next (), wakes := none }
          else .blocked r
  | .kill target signal next => stepKill m r target signal next

/-- A bound on the steps of a process between two waits, which none comes to. -/
def patience : Nat := 100000000

/-- Runs a process until it waits or ends, and tells whether it did anything. -/
def runProcess (start : Image → Program) : Nat → Machine → Running → Bool → Machine × Bool
  | 0, m, r, moved => (m.putBack r, moved)
  | bound + 1, m, r, moved =>
      match step start m r with
      | .blocked r => (m.putBack r, moved)
      | .ended self ending => (m.finish self ending, true)
      | .moved m r => runProcess start bound m r true

/-- Gives every process a turn, and tells whether any of them did anything. -/
def turn (start : Image → Program) (m : Machine) : Machine × Bool :=
  (m.running.map (·.self.pid)).foldl (fun (m, moved) pid =>
    match m.running.find? (·.self.pid = pid) with
    | none => (m, moved)
    | some r =>
        let (m, one) := runProcess start patience m r false
        (m, moved || one)) (m, false)

/-- Lets the time go by until a process wakes, if one sleeps. -/
def passTime (m : Machine) : Option Machine :=
  ((m.running.filterMap (·.wakes)).min?).map fun time =>
    { m with system := { m.system with clock := max time m.system.clock } }

/-- Has the processes do something, be it to wake from sleep. There may be nothing that they can
do. -/
def advance (start : Image → Program) (m : Machine) : Option Machine :=
  match m.turn start with
  | (m, true) => some m
  | (m, false) => m.passTime

/-- Has the processes run until something has come about, or they can do no more. -/
def runUntil (start : Image → Program) (reached : Machine → Bool) : Nat → Machine → Machine
  | 0, m => m
  | bound + 1, m =>
      if reached m then m
      else match m.advance start with
        | some m => runUntil start reached bound m
        | none => m

/-- Reads on behalf of the shell. -/
def readShell (start : Image → Program) (d : Descriptor) (size : Nat) :
    Nat → Machine → Except Errno Bytes × Machine
  | 0, m => (.error .tryAgain, m)
  | bound + 1, m =>
      match tryRead m.system m.shell.table d size with
      | .made answer system => (answer, { m with system := system })
      | .waits =>
          match m.advance start with
          | some m => readShell start d size bound m
          | none => (.error .tryAgain, m)

/-- Writes on behalf of the shell, which has written so many bytes before. -/
def writeShell (start : Image → Program) (d : Descriptor) :
    Nat → Machine → Nat → Bytes → Except (Nat × Errno) Unit × Machine
  | 0, m, written, _ => (.error (written, .tryAgain), m)
  | bound + 1, m, written, bytes =>
      match tryWrite m.system m.shell.table d bytes with
      | .made (.error e) system => (.error (written, e), { m with system := system })
      | .made (.ok count) system =>
          let m := { m with system := system }
          let rest := bytes.drop count
          if rest.isEmpty then (.ok (), m)
          else writeShell start d bound m (written + count) rest
      | .waits =>
          match m.advance start with
          | some m => writeShell start d bound m written bytes
          | none => (.error (written, .tryAgain), m)

/-- What a child of the shell does: it runs the program of the command, or says why it cannot. -/
def childProgram (argv : List String) (settings : Settings) : Program :=
  (do
    let e ← Search.exec argv settings
    let (text, code) := LineShell.Child.refusal (Raw.decode (argv.headD "")) e
    let _ ← Act.write 2 (Utf8.encode text)
    Act.exit code : Act Empty) nofun

/-- The word by which a wait call tells of an ending. -/
def waitWord : Ending → Int
  | .exited code => (ExitStatus.ofCode code).word
  | .killed signal => signal

def accountHome : String := "/root"

end Machine

end LineShell
