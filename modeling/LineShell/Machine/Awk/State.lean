import LineShell.Machine.Awk.Fields
import LineShell.Machine.Awk.Value
import LineShell.Machine.Search
import LineShell.Machine.Tool

/-!
How far the work of an `awk` program has come: its values, the record that it is at, and the files and
commands that it reads from and writes to.
-/

namespace LineShell.Machine.Awk

/-- What a parameter stands for. -/
inductive Slot where
  | unset
  | value (v : Value)
  | table (id : Nat)
  /-- Nothing yet, but if it comes to be used as an array, then this one. -/
  | undecided (id : Nat)

/-- What records are read from. -/
structure Feed where
  descriptor : Descriptor
  buffer : List Char := []
  ended : Bool := false
  /-- The command whose output is read. -/
  pid : Option Pid := none

/-- What is written to. -/
structure Sink where
  name : String
  descriptor : Descriptor
  /-- What was not written yet, the last part first. -/
  pending : List Bytes := []
  size : Nat := 0
  /-- The command that reads what is written. -/
  pid : Option Pid := none

structure State where
  shared : Std.HashMap String Value := ∅
  tableIds : Std.HashMap String Nat := ∅
  tables : Array (Table Value) := #[]
  /-- What the parameters of the function stand for that is carried out. -/
  frame : Array Slot := #[]
  /-- How many parameters there are of all functions that are carried out. -/
  stacked : Nat := 0
  record : Value := .blank
  /-- The fields were changed since the record was put together. -/
  isStale : Bool := false
  fields : Option (Array Value) := some #[]
  main : Option Feed := none
  /-- The number of the operand that is read next. -/
  operand : Nat := 1
  hasRead : Bool := false
  feeds : List (String × Feed) := []
  sinks : List Sink := []
  functions : List Function := []
  /-- The rules between whose records the program is. -/
  within : List Nat := []
  regexes : Std.HashMap String Regex := ∅
  separators : Std.HashMap String Separator := ∅
  code : Int := 0
  seed : Float := 0
  random : Nat := 0

/-- What ends the work on a record or the whole work. -/
inductive Leap where
  | next
  | nextFile
  | exit
  deriving DecidableEq, Repr

abbrev Run := ExceptT Leap (StateT State Tool)

namespace Run

variable {α : Type}

def tool (t : Tool α) : Run α := ExceptT.lift (StateT.lift t)

def instant (f : Instant α) : Run α := tool (Tool.instant f)

/-- Lets others work in between. -/
def pause : Run Unit := instant (pure ())

/-! ### Values that all of the program shares -/

/-- The value of a name, but for the number of fields. -/
def setting (name : String) : Run Value := do return ((← get).shared[name]?).getD .blank

def formatText (name : String) : Run String := do
  match ← setting name with
  | .text s | .input s => return s
  | _ => return "%.6g"

def textOf (v : Value) : Run String := do return v.toText (← formatText "CONVFMT")

def settingText (name : String) : Run String := do textOf (← setting name)

def set (name : String) (v : Value) : Run Unit :=
  modify fun s => { s with shared := s.shared.insert name v }

/-- Adds one to a number. -/
def countUp (name : String) : Run Unit := do
  set name (.number ((← setting name).toNumber + 1))

/-! ### Complaints -/

/-- Says something at once. -/
def say (text : String) : Run Unit := tool do
  let name := (← read).name
  let _ ← Tool.writeTo Tool.diagnostics (Raw.toBytes (name ++ ": " ++ text ++ "\n"))

def pathReason (e : Errno) : String := " (" ++ e.sentence ++ ")"

/-! ### Output -/

/-- Writes to a descriptor what is kept for it. -/
def flushSink (k : Sink) : Run (Sink × Option Errno) := do
  if k.size = 0 then return (k, none)
  let e ← tool (Tool.writeTo k.descriptor k.pending.reverse.flatten)
  return ({ k with pending := [], size := 0 }, e)

def flushSinks : List Sink → Run (List Sink)
  | [] => return []
  | k :: rest => do
      let (k, _) ← flushSink k
      return k :: (← flushSinks rest)

/-- Writes all that is kept. -/
def flushAll : Run Unit := do
  tool Tool.flush
  let sinks ← flushSinks (← get).sinks
  modify fun s => { s with sinks := sinks }

/-- A child that was killed comes to more than every code. -/
def killedCode : Int := 256

/-- Waits for a child, and tells the code that it comes to. -/
def await (pid : Option Pid) : Run Int := do
  match pid with
  | none => return 0
  | some pid =>
      match ← tool (Tool.act (.wait (some pid) .endless)) with
      | .ended _ (.exited code) => return code
      | .ended _ (.killed signal) => return killedCode + signal
      | _ => return -1

/-- Writes the rest and closes, which must not fail. -/
def closeSink (k : Sink) : Run Int := do
  let (k, e) ← flushSink k
  let _ ← instant (World.close k.descriptor)
  if let some e := e then
    say ("close failed on file \"" ++ k.name ++ "\"" ++ pathReason e)
    tool (Tool.exit 2)
  await k.pid

def closeSinks : List Sink → Run Unit
  | [] => return ()
  | k :: rest => do
      let _ ← closeSink k
      closeSinks rest

/-- Closes all that was written to, and ends the work. -/
def leave (code : Int) : Run α := do
  let sinks := (← get).sinks
  modify fun s => { s with sinks := [] }
  closeSinks sinks
  tool (Tool.exit code)

/-- Ends the work because it cannot go on. -/
def stop (text : String) : Run α := do
  say text
  leave 2

/-- Ends the work because of what the program does. -/
def failRun (text : String) : Run α := do
  let file ← settingText "FILENAME"
  let count ← settingText "FNR"
  let total ← settingText "NR"
  stop ("run time error: " ++ text ++ "\n\tFILENAME=\"" ++ file ++ "\" FNR=" ++ count ++ " NR=" ++
    total)

/-! ### Commands -/

def shellPath : String := "/bin/sh"

/-- Starts a command, from whose output or to whose input there is a pipe. -/
def start (command : String) (writes : Bool) : Run (Descriptor × Pid) := do
  flushAll
  match ← instant World.pipe with
  | .error e => stop ("cannot open pipe \"" ++ command ++ "\"" ++ pathReason e)
  | .ok (reader, writer) => do
      let mine := if writes then writer else reader
      let theirs := if writes then reader else writer
      let kept ← instant (World.duplicate mine 3 true)
      let settings := (← tool Tool.world).self.settings
      let prepare : Instant Unit := do
        let target := if writes then Descriptor.input else Descriptor.output
        let _ ← World.replace theirs target
        if theirs != target then
          let _ ← World.close theirs
        if mine != target then
          let _ ← World.close mine
      let child : Program := (do
        Act.instant prepare
        let _ ← Search.execFile shellPath [shellPath, "-c", command] settings
        Act.exit 127 : Act Empty) nofun
      let pid ← tool (Tool.act (.fork child))
      let _ ← instant (World.close reader)
      let _ ← instant (World.close writer)
      return (kept.toOption.getD mine, pid)

/-- Carries out a command, and tells the code that it comes to. -/
def system (command : String) : Run Int := do
  flushAll
  let settings := (← tool Tool.world).self.settings
  let child : Program := (do
    let _ ← Search.execFile shellPath ["sh", "-c", command] settings
    Act.exit 127 : Act Empty) nofun
  await (some (← tool (Tool.act (.fork child))))

/-! ### Files that are written -/

/-- Takes what is known under a name out of a list. -/
def pick (name : String) (sinks : List Sink) : Option Sink × List Sink :=
  (sinks.find? (·.name = name), sinks.filter (·.name != name))

/-- The file or command that a name stands for, which is opened if it is not. -/
def sinkFor (route : Route) (name : String) : Run Sink := do
  let (found, rest) := pick name (← get).sinks
  modify fun s => { s with sinks := rest }
  match found with
  | some k => return k
  | none =>
      match route with
      | .pipe => do
          let (d, pid) ← start name true
          return { name := name, descriptor := d, pid := some pid }
      | _ => do
          let opening := if route = .append then Opening.forAppending else Opening.forWriting
          match ← instant (World.openPath { opening with passing := true } name) with
          | .ok d => return { name := name, descriptor := d }
          | .error e => stop ("cannot open \"" ++ name ++ "\" for output" ++ pathReason e)

/-- Writes to where a print goes. -/
def emit (sink : Option (Route × String)) (text : String) : Run Unit := do
  match sink with
  | none | some (.file, "/dev/stdout") | some (.append, "/dev/stdout") => tool (Tool.putText text)
  | some (.file, "/dev/stderr") | some (.append, "/dev/stderr") => tool do
      let _ ← Tool.writeTo Tool.diagnostics (Raw.toBytes text)
  | some (route, name) => do
      let k ← sinkFor route name
      let bytes := Raw.toBytes text
      let k := { k with pending := bytes :: k.pending, size := k.size + bytes.length }
      let k ← if k.size < Tool.printSize then pure k else do
        let (k, e) ← flushSink k
        if let some e := e then
          stop ("close failed on file \"" ++ k.name ++ "\"" ++ pathReason e)
        pure k
      modify fun s => { s with sinks := k :: s.sinks }

/-! ### Records that are read -/

/-- So much is read before the first record is looked at. -/
def chunkSize : Nat := 262144

def readOn (d : Descriptor) : Nat → Nat → List Bytes → Run (List Bytes × Bool)
  | 0, _, found => return (found, true)
  | bound + 1, left, found => do
      if left = 0 then return (found, false)
      match ← tool (Tool.act (.read d left)) with
      | .error e => stop ("read error" ++ pathReason e)
      | .ok bytes =>
          if bytes.isEmpty then return (found, true)
          readOn d bound (left - bytes.length) (bytes :: found)

/-- Reads on as far as the size goes. -/
def Feed.fill (f : Feed) (size : Nat) : Run Feed := do
  if f.ended then return f
  let (found, ended) ← readOn f.descriptor Tool.patience size []
  let cs := found.reverse.flatten.map fun b => Char.ofNat b.toNat
  return { f with buffer := f.buffer ++ cs, ended := ended }

/-- The text up to the end of a paragraph, and what is left behind it. -/
def paragraph : List Char → List Char → List Char × List Char
  | found, '\n' :: '\n' :: rest => (found.reverse, rest.dropWhile (· = '\n'))
  | found, ['\n'] => (found.reverse, [])
  | found, c :: rest => paragraph (c :: found) rest
  | found, [] => (found.reverse, [])

def findRegex (source : String) : Run Regex := do
  match (← get).regexes[source]? with
  | some r => return r
  | none =>
      match Pattern.parse source.toList with
      | .ok r => do
          modify fun s => { s with regexes := s.regexes.insert source r }
          return r
      | .error e => failRun ("regular expression compile failed (" ++ e ++ ")\n" ++ source)

def findSeparator (source : String) : Run Separator := do
  match (← get).separators[source]? with
  | some r => return r
  | none =>
      match Separator.ofText source with
      | .ok r => do
          modify fun s => { s with separators := s.separators.insert source r }
          return r
      | .error e => failRun ("regular expression compile failed (" ++ e ++ ")\n" ++ source)

/-- The first record of what is left, where records end with a character. -/
def takeLine (ending : Char) : Nat → Feed → Run (Option (List Char) × Feed)
  | 0, f => return (none, f)
  | bound + 1, f => do
      let line := f.buffer.takeWhile (· != ending)
      match f.buffer.drop line.length with
      | _ :: rest => return (some line, { f with buffer := rest })
      | [] =>
          if !f.ended then takeLine ending bound (← Feed.fill f chunkSize)
          else if line.isEmpty then return (none, f)
          else return (some line, { f with buffer := [] })

/-- The first record of what is left. -/
def Feed.record (f : Feed) : Run (Option String × Feed) := do
  let separator ← settingText "RS"
  match separator.toList with
  | [ending] => do
      let (line, f) ← takeLine ending Tool.patience f
      return (line.map String.ofList, f)
  | [] => do
      let f ← Feed.fill f Tool.patience
      match f.buffer.dropWhile (· = '\n') with
      | [] => return (none, { f with buffer := [] })
      | text =>
          let (found, rest) := paragraph [] text
          return (some (String.ofList found), { f with buffer := rest })
  | _ => do
      let f ← Feed.fill f Tool.patience
      let r ← findRegex separator
      if f.buffer.isEmpty then return (none, f)
      match Regex.search? { text := f.buffer } r 0 with
      | some m =>
          if m.start = m.stop then
            return (some (String.ofList f.buffer), { f with buffer := [] })
          else
            return (some (String.ofList (f.buffer.take m.start)),
              { f with buffer := f.buffer.drop m.stop })
      | none => return (some (String.ofList f.buffer), { f with buffer := [] })

/-! ### Arrays -/

def freshTable : Run Nat := modifyGet fun s =>
  (s.tables.size, { s with tables := s.tables.push Table.empty })

/-- The array that a name stands for. -/
def tableId (n : Name) : Run Nat := do
  let s ← get
  match n with
  | .shared name =>
      match s.tableIds[name]? with
      | some id => return id
      | none => do
          let id ← freshTable
          modify fun s => { s with tableIds := s.tableIds.insert name id }
          return id
  | .own index =>
      match s.frame.getD index .unset with
      | .table id | .undecided id => return id
      | _ => do
          let id ← freshTable
          modify fun s => { s with frame := s.frame.setIfInBounds index (.table id) }
          return id

def table (id : Nat) : Run (Table Value) := do return (← get).tables.getD id Table.empty

def changeTable (id : Nat) (f : Table Value → Table Value) : Run Unit :=
  modify fun s => { s with tables := s.tables.modify id f }

/-- The value of an element, if there is one. -/
def element? (id : Nat) (key : Key) : Run (Option Value) := do
  let found := (← table id).find? key
  changeTable id (·.asked key)
  return found

/-- The value of an element, which comes to be by being asked for. -/
def element (id : Nat) (key : Key) : Run Value := do
  match ← element? id key with
  | some v => return v
  | none => do
      changeTable id (·.insert key .blank)
      return .blank

def setElement (id : Nat) (key : Key) (v : Value) : Run Unit := changeTable id (·.insert key v)

/-- The keys of an array, in their order. -/
def keysOf (id : Nat) : Run (List String) := do
  changeTable id Table.tell
  return (← table id).keys

/-! ### The record and its fields -/

def setRecord (v : Value) : Run Unit :=
  modify fun s => { s with record := v, isStale := false, fields := none }

/-- The fields of the record. -/
def fields : Run (Array Value) := do
  let s ← get
  match s.fields with
  | some fields => return fields
  | none => do
      let separator ← findSeparator (← settingText "FS")
      let text ← textOf s.record
      let fields := ((separator.fields text.toList).map fun cs =>
        Value.input (String.ofList cs)).toArray
      modify fun s => { s with fields := some fields }
      return fields

/-- The record, put together again if its fields were changed. -/
def record : Run Value := do
  let s ← get
  if s.isStale then
    let separator ← settingText "OFS"
    let texts ← (← fields).toList.mapM textOf
    let v := Value.input (separator.intercalate texts)
    modify fun s => { s with record := v, isStale := false }
    return v
  else return s.record

def field (index : Nat) : Run Value := do
  if index = 0 then record else return (← fields).getD (index - 1) .blank

/-- Makes the record have so many fields. -/
def resize (count : Nat) : Run Unit := do
  let old ← fields
  let news := old.take count ++ Array.replicate (count - old.size) (.text "")
  modify fun s => { s with fields := some news, isStale := true }

def setField (index : Nat) (v : Value) : Run Unit := do
  if index = 0 then setRecord v
  else
    if (← fields).size < index then resize index
    let old ← fields
    modify fun s => { s with fields := some (old.setIfInBounds (index - 1) v), isStale := true }

/-- Reads the value of a name. -/
def value (n : Name) : Run Value := do
  match n with
  | .shared "NF" => return .ofNat (← fields).size
  | .shared name => setting name
  | .own index =>
      match (← get).frame.getD index .unset with
      | .value v => return v
      | _ => return .blank

/-- The greatest number that a field may have. -/
def mostFields : Int := 2147483647

def setValue (n : Name) (v : Value) : Run Unit := do
  match n with
  | .shared "NF" => do
      let count := Number.truncate (-mostFields) mostFields v.toNumber
      if count < 0 then failRun "negative value assigned to NF"
      resize count.toNat
  | .shared name => do
      set name v
      if name = "FS" || name = "RS" then
        let _ ← findSeparator (← textOf v)
  | .own index => modify fun s => { s with frame := s.frame.setIfInBounds index (.value v) }

/-! ### Operands -/

/-- The text of an assignment, in which backslashes may stand before the names of characters. -/
def unescape : Nat → List Char → List Char
  | 0, text => text
  | _, [] => []
  | bound + 1, '\\' :: c :: rest =>
      if c = '"' || c = '\\' then c :: unescape bound rest
      else match Pattern.escaped? (c :: rest) with
        | some (d, rest) => d :: unescape bound rest
        | none => '\\' :: c :: unescape bound rest
  | bound + 1, c :: rest => c :: unescape bound rest

/-- The name and the value that an operand assigns. -/
def assignment? (text : String) : Option (String × String) :=
  let cs := text.toList
  let name := cs.takeWhile fun c => c.isAlphanum || c = '_'
  match name, cs.drop name.length with
  | first :: _, '=' :: rest =>
      if first.isDigit then none
      else some (String.ofList name, String.ofList (unescape (rest.length + 1) rest))
  | _, _ => none

def isWord (s : State) (name : String) : Bool :=
  s.tableIds.contains name || s.functions.any (·.name = name)

/-- Carries out an assignment of the command line. -/
def assign (name text : String) : Run Unit := do
  if isWord (← get) name then
    failRun ("cannot command line assign to " ++ name ++ "\n\ttype clash or keyword")
  setValue (.shared name) (.input text)

/-- Opens what the next operand names, if there is one. -/
def openNext : Nat → Run (Option Feed)
  | 0 => return none
  | bound + 1 => do
      let s ← get
      let count ← value (.shared "ARGC")
      let isInput (name : String) : Bool := name = "-" || name = "/dev/stdin"
      if count.toNumber ≤ Float.ofNat s.operand then
        if s.hasRead then return none
        modify fun s => { s with hasRead := true }
        set "FILENAME" (.text "-")
        return some { descriptor := Descriptor.input }
      else
        modify fun s => { s with operand := s.operand + 1 }
        let found ← element? (← tableId (.shared "ARGV")) (.number s.operand)
        let name ← textOf (found.getD .blank)
        if name.isEmpty then openNext bound
        else match assignment? name with
          | some (name, text) => do
              assign name text
              openNext bound
          | none => do
              modify fun s => { s with hasRead := true }
              let opened ← if isInput name then pure (.ok Descriptor.input) else
                instant (World.openPath { Opening.forReading with passing := true } name)
              match opened with
              | .ok d => do
                  set "FILENAME" (.text name)
                  set "FNR" (.number 0)
                  return some { descriptor := d }
              | .error e => stop ("cannot open \"" ++ name ++ "\"" ++ pathReason e)

/-- The next record of the operands. -/
def nextRecord : Nat → Run (Option String)
  | 0 => return none
  | bound + 1 => do
      match (← get).main with
      | none =>
          match ← openNext Tool.patience with
          | none => return none
          | some f => do
              modify fun s => { s with main := some f }
              nextRecord bound
      | some f =>
          match ← Feed.record f with
          | (some text, f) => do
              modify fun s => { s with main := some f }
              countUp "NR"
              countUp "FNR"
              return some text
          | (none, f) => do
              if f.descriptor != Descriptor.input then
                let _ ← instant (World.close f.descriptor)
              modify fun s => { s with main := none }
              nextRecord bound

/-- Goes on with the operand after the one that is read. -/
def skipFile : Run Unit := do
  if let some f := (← get).main then
    if f.descriptor != Descriptor.input then
      let _ ← instant (World.close f.descriptor)
  modify fun s => { s with main := none }

/-- The next record of a file or a command, or none at its end. It may be that it cannot be opened. -/
def recordOf (route : Route) (name : String) : Run (Option (Option String)) := do
  let known := (← get).feeds.lookup name
  let feed ← match known with
    | some f => pure (some f)
    | none =>
        match route with
        | .pipe => do
            let (d, pid) ← start name false
            pure (some { descriptor := d, pid := some pid })
        | _ => do
            if name = "-" || name = "/dev/stdin" then pure (some { descriptor := Descriptor.input })
            else
              match ← instant (World.openPath { Opening.forReading with passing := true } name) with
              | .ok d => pure (some { descriptor := d })
              | .error _ => pure none
  match feed with
  | none => return none
  | some f => do
      let (text, f) ← Feed.record f
      modify fun s => { s with feeds := (name, f) :: s.feeds.filter (·.1 != name) }
      return some text

/-- Closes what is open under a name, and tells the code that it comes to. -/
def close (name : String) : Run Int := do
  let s ← get
  let (sink, sinks) := pick name s.sinks
  let feed := s.feeds.lookup name
  modify fun s => { s with sinks := sinks, feeds := s.feeds.filter (·.1 != name) }
  let code ← match sink with
    | some k => closeSink k
    | none => pure (-1)
  match feed with
  | some f => do
      let _ ← instant (World.close f.descriptor)
      await f.pid
  | none => return code

end Run

end LineShell.Machine.Awk
