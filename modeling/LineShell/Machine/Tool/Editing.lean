import LineShell.Machine.Edit.Script
import LineShell.Machine.Quoting
import LineShell.Machine.Stat
import LineShell.Machine.Tool.Copying

/-!
A tool that edits texts line by line, as a script tells it.
-/

namespace LineShell.Machine.Tool

namespace Editor

open Edit

/-- How the tool was called. -/
structure Setup where
  script : Script
  silent : Bool
  separate : Bool
  /-- Files are changed in their places, and what is added to their names for copies. -/
  inPlace : Option String
  width : Nat
  ending : UInt8

/-- The file that lines come from. -/
structure Feed where
  name : String
  descriptor : Descriptor
  lines : List Bytes := []
  /-- The start of a line. -/
  part : Bytes := []
  ended : Bool := false

/-- What is to be shown at the end of a cycle. -/
inductive Addition where
  | text (cs : List Char)
  | file (name : String)
  deriving DecidableEq, Repr

/-- A file that is written to. -/
structure Target where
  name : String
  descriptor : Descriptor
  /-- The last line that was written lacks its newline. -/
  lacks : Bool := false

structure State where
  space : List Char := []
  /-- The line that was read had a newline. -/
  ended : Bool := true
  held : List Char := []
  /-- The line that is held had a newline. -/
  heldEnded : Bool := true
  line : Nat := 0
  files : List String
  feed : Option Feed := none
  /-- The steps within whose ranges the lines are, with the last line if it is known. -/
  ranges : List (Nat × Option Nat) := []
  additions : List Addition := []
  changed : Bool := false
  last : Option Regex := none
  targets : List Target := []
  /-- The lines that are left of files that are read line by line. -/
  sources : List (String × List Bytes) := []
  lacks : Bool := false
  /-- What takes the place of the file that is edited, the last part first. -/
  edited : List Bytes := []

abbrev Run := ReaderT Setup (StateT State Tool)

variable {α : Type}

def tool (t : Tool α) : Run α := fun _ => StateT.lift t

def update (f : State → State) : Run Unit := fun _ => modifyGet fun s => ((), f s)

def state : Run State := fun _ => get

/-! ### Output -/

def emit (bytes : Bytes) : Run Unit := do
  if (← read).inPlace.isSome then update fun s => { s with edited := bytes :: s.edited }
  else tool (put bytes)

/-- Adds the newline that the last line lacked. -/
def completeLine : Run Unit := do
  if (← state).lacks then
    emit [(← read).ending]
    update ({ · with lacks := false })

def bytesOf (cs : List Char) : Bytes := Raw.toBytes (String.ofList cs)

/-- Shows a text as a line, or as one without a newline. -/
def showLine (cs : List Char) (ended : Bool) : Run Unit := do
  completeLine
  emit (bytesOf cs)
  if ended then emit [(← read).ending] else update ({ · with lacks := true })

def showText (cs : List Char) : Run Unit := do
  completeLine
  emit (bytesOf cs)

def showSpace : Run Unit := do
  let s ← state
  showLine s.space s.ended

/-- Writes a line to a file, which was opened at the start. -/
def writeTo (name : String) (cs : List Char) (ended : Bool) : Run Unit := do
  match (← state).targets.find? (·.name = name) with
  | none => return ()
  | some t => do
      let ending := (← read).ending
      let bytes := (if t.lacks then [ending] else []) ++ bytesOf cs ++
        (if ended then [ending] else [])
      if t.descriptor = Descriptor.output then tool (put bytes)
      else
        let _ ← tool do
          flush
          Tool.writeTo t.descriptor bytes
      update fun s => { s with targets := s.targets.map fun other =>
        if other.name = name then { other with lacks := !ended } else other }

/-! ### Input -/

def panic {α : Type} (text : String) : Run α := tool (fail 4 text)

/-- Reads on until there is a line, or no more comes. -/
def fill : Nat → Feed → Run Feed
  | 0, f => return f
  | bound + 1, f => do
      if f.ended || !f.lines.isEmpty then return f
      match ← tool (block f.descriptor) with
      | .error e => panic ("read error on " ++ f.name ++ ": " ++ e.sentence)
      | .ok bytes =>
          if bytes.isEmpty then return { f with ended := true }
          let (lines, part) := cutLines (← read).ending (f.part ++ bytes)
          fill bound { f with lines := lines, part := part }

/-- What becomes of the file that was edited in its place. -/
def saveEdited (name backup : String) : Run Unit := do
  let s ← state
  let bytes := s.edited.reverse.flatten
  update ({ · with edited := [], lacks := false })
  tool do
    if !backup.isEmpty then
      let last := (Path.names name).getLast?.getD ""
      let other := if backup.contains '*' then
          String.join (backup.toList.map fun c => if c = '*' then last else String.singleton c)
        else last ++ backup
      let path := if other.contains '/' then other
        else String.ofList (name.toList.take (name.length - last.length)) ++ other
      let _ ← instant (World.change fun t cwd => t.move cwd name path)
    let mode ← match ← instant (Stat.ofPath true name) with
      | .ok s => pure s.mode
      | .error _ => pure FileTree.fileMode
    match ← instant (World.openPath { Opening.forWriting with mode := mode } name) with
    | .error _ => return ()
    | .ok d => do
        let _ ← Tool.writeTo d bytes
        close d

/-- Ends the work on a file. -/
def closeFeed (f : Feed) : Run Unit := do
  if f.descriptor != Descriptor.input then tool (close f.descriptor)
  if let some backup := (← read).inPlace then saveEdited f.name backup
  update ({ · with feed := none })

/-- Opens the next file that can be read, and tells if there is one. -/
def openNext : Nat → Run Bool
  | 0 => return false
  | bound + 1 => do
      match (← state).files with
      | [] => return false
      | name :: rest => do
          update ({ · with files := rest })
          let inPlace := (← read).inPlace.isSome
          if name = "-" && !inPlace then
            update ({ · with feed := some { name := "-", descriptor := Descriptor.input } })
            return true
          let isPlain ← tool (instant (testPath 'f' name))
          if inPlace && !isPlain && (← tool (instant (testPath 'e' name))) then
            tool do
              warn ("couldn't edit " ++ name ++ ": not a regular file")
              blame 4
            openNext bound
          else
            match ← tool (openInput name) with
            | .error e => do
                tool do
                  warn ("can't read " ++ name ++ ": " ++ e.sentence)
                  blame 2
                openNext bound
            | .ok d => do
                update ({ · with feed := some { name := name, descriptor := d } })
                return true

/-- Makes sure that a line can be read, and tells if it can. With `crossing` the line may come from
another file. -/
def ready (crossing : Bool) : Nat → Run Bool
  | 0 => return false
  | bound + 1 => do
      match (← state).feed with
      | none =>
          if !crossing then return false
          let fresh ← openNext patience
          if !fresh then return false
          if (← read).separate then update ({ · with line := 0, ranges := [] })
          ready crossing bound
      | some f => do
          let f ← fill patience f
          update ({ · with feed := some f })
          if !f.lines.isEmpty || !f.part.isEmpty then return true
          if !crossing then return false
          closeFeed f
          ready crossing bound

/-- The line that was read is the last one. -/
def isLast : Run Bool := do
  if (← read).separate then return !(← ready false patience)
  if ← ready false patience then return false
  /- A file that has been read to its end is left as it is, for its name may be asked for. -/
  let s ← state
  match s.feed with
  | none => return !(← ready true patience)
  | some f =>
      if s.files.isEmpty then return true
      update ({ · with feed := none })
      let more ← ready true patience
      if more then
        if f.descriptor != Descriptor.input then tool (close f.descriptor)
      else update ({ · with feed := some f })
      return !more

/-- Takes the next line, if there is one. -/
def takeLine : Run (Option (List Char)) := do
  if !(← ready true patience) then return none
  match (← state).feed with
  | none => return none
  | some f =>
      let text (bytes : Bytes) : List Char := (Raw.ofBytes bytes).toList
      match f.lines with
      | line :: rest => do
          update fun s => { s with
            feed := some { f with lines := rest }, line := s.line + 1, ended := true }
          return some (text line)
      | [] => do
          update fun s => { s with
            feed := some { f with part := [] }, line := s.line + 1, ended := false }
          return some (text f.part)

/-- Gives back what was read of the standard input and not used. -/
def leaveInput : Run Unit := do
  match (← state).feed with
  | some f =>
      let left := f.lines.foldl (fun n l => n + l.length + 1) f.part.length
      if f.descriptor = Descriptor.input && 0 < left then tool (giveBack f.descriptor left)
  | none => return ()

/-- Shows what was put off to the end of a cycle. -/
def showAdditions : Run Unit := do
  let additions := (← state).additions
  update ({ · with additions := [] })
  for a in additions do
    match a with
    | .text cs => showText cs
    | .file name => do
        completeLine
        let bytes ← tool do
          match ← openInput name with
          | .error _ => return []
          | .ok d => do
              let bytes ← everything d
              if name != "/dev/stdin" then close d
              return bytes.toOption.getD []
        emit bytes

/-! ### Lines that are meant -/

/-- The expression of a pattern, which is kept as the one that was used last. -/
def regexOf (p : Pattern) : Run Regex := do
  match p.regex with
  | some r => do
      update ({ · with last := some r })
      return r
  | none =>
      match (← state).last with
      | some r => return r
      | none => do
          tool (fail 1 "-e expression #1, char 0: no previous regular expression")

def subject (p : Pattern) (space : List Char) : Regex.Subject :=
  { text := space, folds := p.folds, lines := p.lines }

def meets : Address → Run Bool
  | .line n => return (← state).line = n
  | .every first step => do
      let line := (← state).line
      return first ≤ line && (line - first) % step = 0
  | .last => isLast
  | .pattern p => do
      let r ← regexOf p
      return (Regex.search? (subject p (← state).space) r 0).isSome

def inRange (index : Nat) : Run Bool := return (← state).ranges.any (·.1 = index)

def enterRange (index : Nat) (stop : Option Nat) : Run Unit :=
  update fun s => { s with ranges := (index, stop) :: s.ranges }

def leaveRange (index : Nat) : Run Unit :=
  update fun s => { s with ranges := s.ranges.filter (·.1 != index) }

/-- A step is for the line. -/
def selects (index : Nat) (step : Step) : Run Bool := do
  match step.start, step.stop with
  | none, _ => return true
  | some start, none => meets start
  | some start, some stop => do
      let line := (← state).line
      let fixed ← if ← inRange index then
          pure ((← state).ranges.lookup index).join
        else pure none
      if ← inRange index then
        match fixed, stop with
        | some last, _ => do
            if last ≤ line then leaveRange index
            return line ≤ last
        | none, .at a => do
            if ← meets a then leaveRange index
            return true
        | none, _ => return true
      else if !(← meets start) then return false
      else
        let last := match stop with
          | .at (.line n) => some n
          | .at _ => none
          | .after n => some (line + n)
          | .multiple n => some (if n = 0 then line else (line + n - 1) / n * n)
        if last.all (line < ·) then enterRange index last
        return true

/-! ### Changes -/

/-- How the letters of a replacement are changed. -/
structure Lettering where
  mode : Option Char := none
  once : Option Char := none

def cased (l : Lettering) (cs : List Char) : List Char × Lettering :=
  let change (mode : Option Char) (c : Char) : Char := match mode with
    | some 'U' | some 'u' => c.toUpper
    | some 'L' | some 'l' => c.toLower
    | _ => c
  match cs with
  | [] => ([], l)
  | c :: rest =>
      let first := if l.once.isSome then change l.once c else change l.mode c
      (first :: rest.map (change l.mode), { l with once := none })

/-- What is put in the place of a match. -/
def expand (s : Regex.Subject) (m : Regex.Match) (pieces : List Piece) : List Char :=
  let (out, _) := pieces.foldl (fun (out, l) piece =>
    match piece with
    | .text cs =>
        let (cs, l) := cased l cs
        (cs :: out, l)
    | .group n =>
        let (cs, l) := cased l (m.text s n)
        (cs :: out, l)
    | .letters c =>
        (out, if c = 'E' then {} else if c = 'u' || c = 'l' then { l with once := some c }
          else { l with mode := some c })) (([] : List (List Char)), ({} : Lettering))
  out.reverse.flatten

/-- Replaces matches from a cursor on, of which `count` have been passed and the last one ended at
`before`. What has come so far stands in `out`, the last part first. -/
def replaceFrom (s : Regex.Subject) (r : Regex) (sub : Substitution) :
    Nat → Regex.Cursor → Nat → Option Nat → List (List Char) → Option (List Char)
  | 0, _, _, _, _ => none
  | bound + 1, c, count, before, out =>
      let finish (out : List (List Char)) (rest : List Char) (changed : Bool) :
          Option (List Char) :=
        if changed then some (rest :: out).reverse.flatten else none
      let changed : Bool := sub.first ≤ count
      match Regex.find? s r (fun _ _ => true) c.rest c with
      | none => finish out c.rest changed
      | some m =>
          let skipped := c.rest.take (m.start - c.position)
          let here := c.skip (m.start - c.position)
          let isEmpty : Bool := m.stop = m.start
          let isStale : Bool := isEmpty && before = some m.start
          let count := if isStale then count else count + 1
          let replaces : Bool := !isStale && sub.first ≤ count
          let matched := here.rest.take (m.stop - m.start)
          let shown := if replaces then expand s m sub.pieces else matched
          let out := shown :: skipped :: out
          let after := here.skip (m.stop - m.start)
          if replaces && !sub.everywhere then finish out after.rest true
          else if isEmpty then
            match after.rest with
            | [] => finish out [] (sub.first ≤ count)
            | first :: rest =>
                replaceFrom s r sub bound (after.step first rest) count none ([first] :: out)
          else replaceFrom s r sub bound after count (some m.stop) out

/-- The line with its matches replaced, if there are any. -/
def substituted (sub : Substitution) : Run (Option (List Char)) := do
  let r ← regexOf sub.pattern
  let s := subject sub.pattern (← state).space
  return replaceFrom s r sub (2 * s.text.length + 2) (Regex.start s) 0 none []

/-- A character as it is listed. -/
def listed (c : Char) : List Char :=
  if c = '\\' then ['\\', '\\']
  else if Class.isPrintable c then [c]
  else Quoting.escape c

/-- A text with its characters listed, in lines of a width. -/
def listing (width : Nat) : List Char → Nat → List Char
  | [], _ => ['$', '\n']
  | c :: rest, column =>
      let shown := listed c
      if 0 < width && width - 1 < column + shown.length then
        '\\' :: '\n' :: shown ++ listing width rest shown.length
      else shown ++ listing width rest (column + shown.length)

/-! ### Steps -/

/-- What comes after a step. -/
inductive Course where
  | goOn (index : Nat)
  /-- The cycle is over, and the line is shown unless that is not wanted. -/
  | ended (shows : Bool)
  /-- The cycle starts again with what is left of the line. -/
  | again
  | quit (code : Nat)

def lineFor (name : String) : Run (Option Bytes) := do
  let s ← state
  let lines ← match s.sources.lookup name with
    | some lines => pure lines
    | none => tool do
        match ← openInput name with
        | .error _ => return []
        | .ok d => do
            let bytes ← everything d
            close d
            return linesOf 10 (bytes.toOption.getD [])
  update fun s => { s with sources := (name, lines.drop 1) :: s.sources.filter (·.1 != name) }
  return lines.head?

def plain (letter : Char) (index : Nat) : Run Course := do
  let s ← state
  let goOn : Run Course := return .goOn (index + 1)
  match letter with
  | '=' => do
      showText ((toString s.line).toList ++ ['\n'])
      goOn
  | 'F' => do
      showText (((s.feed.map (·.name)).getD "-").toList ++ ['\n'])
      goOn
  | 'd' => return .ended false
  | 'D' =>
      if s.space.contains '\n' then
        update ({ · with space := (s.space.dropWhile (· != '\n')).drop 1 })
        return .again
      else return .ended false
  | 'g' => do
      update ({ · with space := s.held, ended := s.heldEnded })
      goOn
  | 'G' => do
      update ({ · with space := s.space ++ '\n' :: s.held, ended := s.heldEnded })
      goOn
  | 'h' => do
      update ({ · with held := s.space, heldEnded := s.ended })
      goOn
  | 'H' => do
      update ({ · with held := s.held ++ '\n' :: s.space, heldEnded := s.ended })
      goOn
  | 'x' => do
      update ({ · with
        held := s.space, heldEnded := s.ended, space := s.held, ended := s.heldEnded })
      goOn
  | 'n' =>
      if ← isLast then
        if (← read).separate && !s.files.isEmpty then pure () else return .ended true
      if !(← read).silent then showSpace
      showAdditions
      match ← takeLine with
      | some line => do
          update ({ · with space := line })
          goOn
      | none => return .ended false
  | 'N' =>
      if ← isLast then
        if (← read).separate && !s.files.isEmpty then pure () else return .ended true
      showAdditions
      let before := (← state).space
      match ← takeLine with
      | some line => do
          update ({ · with space := before ++ '\n' :: line })
          goOn
      | none => return .ended true
  | 'p' => do
      showSpace
      goOn
  | 'P' => do
      showLine (s.space.takeWhile (· != '\n')) (s.ended || s.space.contains '\n')
      goOn
  | _ => do
      update ({ · with space := [] })
      goOn

/-- Does one step. -/
def perform (index : Nat) (step : Step) : Run Course := do
  let goOn : Run Course := return .goOn (index + 1)
  match step.verb with
  | .opening _ | .closing | .label _ => goOn
  | .jump letter name => do
      let s ← state
      let jumps := letter = 'b' || s.changed = (letter = 't')
      if letter != 'b' then update ({ · with changed := false })
      if !jumps then goOn
      else if name.isEmpty then return .ended true
      else return .goOn ((← read).script.place name)
  | .text 'a' text => do
      update fun s => { s with additions := s.additions ++ [.text text] }
      goOn
  | .text 'i' text => do
      showText text
      goOn
  | .text _ text => do
      if !(← inRange index) then showText text
      return .ended false
  | .quit prints code => do
      if prints then
        if !(← read).silent then showSpace
        showAdditions
      return .quit code
  | .list width => do
      completeLine
      let width := width.getD (← read).width
      emit (bytesOf (listing width (← state).space 0))
      goOn
  | .substitute sub => do
      match ← substituted sub with
      | none => goOn
      | some space => do
          update ({ · with space := space, changed := true })
          if sub.prints then showSpace
          if let some name := sub.file then writeTo name space (← state).ended
          goOn
  | .translate table => do
      update fun s => { s with space := s.space.map fun c => (table.lookup c).getD c }
      goOn
  | .file 'r' name => do
      update fun s => { s with additions := s.additions ++ [.file name] }
      goOn
  | .file 'R' name => do
      if let some line ← lineFor name then
        let text := (Raw.ofBytes line).toList ++ ['\n']
        update fun s => { s with additions := s.additions ++ [.text text] }
      goOn
  | .file 'w' name => do
      let s ← state
      writeTo name s.space s.ended
      goOn
  | .file _ name => do
      let s ← state
      writeTo name (s.space.takeWhile (· != '\n')) (s.ended || s.space.contains '\n')
      goOn
  | .plain letter => plain letter index

/-- Does the steps from one on, up to the end of the cycle. -/
def cycle : Nat → Nat → Run Course
  | 0, _ => return .ended true
  | bound + 1, index => do
      match (← read).script.steps[index]? with
      | none => return .ended true
      | some step => do
          let selected := (← selects index step) != step.negated
          let course ← match step.verb, selected with
            | .opening close, false => pure (.goOn (close + 1))
            | _, false => pure (.goOn (index + 1))
            | _, true => perform index step
          match course with
          | .goOn index => cycle bound index
          | course => return course

/-- Edits lines until there are no more, and gives the exit code that the script asks for. -/
def cycles : Nat → Bool → Run Nat
  | 0, _ => return 0
  | bound + 1, fresh => do
      if fresh then
        match ← takeLine with
        | none => return 0
        | some line => update ({ · with space := line })
      match ← cycle patience 0 with
      | .goOn _ | .ended true => do
          if !(← read).silent then showSpace
          showAdditions
          cycles bound true
      | .ended false => do
          showAdditions
          cycles bound true
      | .again => do
          showAdditions
          cycles bound false
      | .quit code => do
          leaveInput
          if (← read).inPlace.isSome then
            if let some f := (← state).feed then closeFeed f
          return code

/-- The files that a script writes to. -/
def writtenFiles (script : Script) : List String :=
  let names := script.steps.toList.filterMap fun step => match step.verb with
    | .file 'w' name | .file 'W' name => some name
    | .substitute { file := some name, .. } => some name
    | _ => none
  names.foldl (fun found name => if found.contains name then found else found ++ [name]) []

end Editor

def sedLetters : String := "bsnrzuEe:f:l:i::V:s"

def sedWords : String :=
  ("binary=b regexp-extended=r debug expression:=e file:=f in-place::=i line-length:=l " ++
      "null-data=z zero-terminated=z quiet=n posix=p silent=n sandbox separate=s unbuffered=u " ++
      "version help follow-symlinks")

def sedUsage : Tool Unit := do
  say ("Usage: " ++ (← read).name ++
    " [OPTION]... \x7bscript-only-if-no-other-script\x7d [input-file]...\n")
  exit 1

/-- The parts of the script that the options and operands give, and the operands that are left. -/
def sedScript (o : Options) : Tool (List (Edit.Origin × List Char) × List String) := do
  let given := o.given.filter fun (key, _) => key = "e" || key = "f"
  if given.isEmpty then
    match o.operands with
    | [] => do
        sedUsage
        return ([], [])
    | text :: rest => return ([(.expression 1, text.toList)], rest)
  else
    let counted : List ((String × String) × Nat) := given.zipIdx.map fun (item, i) =>
      (item, (given.take (i + 1)).countP fun (key, _) => key = "e")
    let parts ← counted.mapM fun ((key, value), number) => do
      if key = "e" then return (Edit.Origin.expression number, value.toList)
      withInput value
        (fun e => fail 4 ("couldn't open file " ++ value ++ ": " ++ e.sentence)) fun d => do
          match ← everything d with
          | .error e => fail 4 ("couldn't read " ++ value ++ ": " ++ e.sentence)
          | .ok bytes =>
              let text := (Raw.ofBytes bytes).toList
              let text := if text.getLast? = some '\n' then text.dropLast else text
              return (.file value, text)
    return (parts, o.operands)

def sed : Tool Unit := do
  let (o, trouble) := Options.parse (Options.known sedLetters sedWords) (← read).arguments
  if let some e := trouble then
    warn e
    sedUsage
  let (texts, operands) ← sedScript o
  let extended := o.isSet "E" || o.isSet "r"
  let script ← match Edit.Script.ofTexts extended texts with
    | .ok script => pure script
    | .error e =>
        if e.endsWith Regex.Message.bareClass then fail 4 Regex.Message.bareClass else fail 1 e
  if let some label := script.lost? then
    fail 4 ("can't find label for jump to \x60" ++ label ++ "'")
  let width ← match o.value? "l" with
    | none => pure 70
    | some text => match count? text with
      | some n => pure n
      | none => fail 1 ("invalid line length: " ++ text)
  let targets ← (Editor.writtenFiles script).filterMapM fun name => do
    if name = "/dev/stdout" then
      return some ({ name := name, descriptor := Descriptor.output } : Editor.Target)
    if name = "/dev/stderr" then
      return some ({ name := name, descriptor := diagnostics } : Editor.Target)
    match ← instant (World.openPath .forWriting name) with
    | .ok d => return some ({ name := name, descriptor := d } : Editor.Target)
    | .error e => fail 4 ("couldn't open file " ++ name ++ ": " ++ e.sentence)
  let setup : Editor.Setup := {
    script := script, silent := script.silent || o.isSet "n"
    separate := o.isSet "s" || o.isSet "i", inPlace := o.value? "i", width := width
    ending := ending o }
  let start : Editor.State := {
    files := if operands.isEmpty then ["-"] else operands, targets := targets
    ranges := script.steps.toList.zipIdx.filterMap fun (step, i) => match step.start with
      | some (.line 0) => some (i, none)
      | _ => none }
  let (code, _) ← (Editor.cycles patience true setup).run start
  blame code

end LineShell.Machine.Tool
