import LineShell.Machine.Script.Finding
import LineShell.Machine.Script.Judging
import LineShell.Machine.Script.Places
import LineShell.Machine.Script.Signalling
import LineShell.Machine.Script.Source
import LineShell.Machine.Script.Variables

/-!
Running commands. Each one is run by running its parts, which the shell as a whole knows how to do.
-/

namespace LineShell.Machine.Script.Running

open Sh

def tested : Mode := { isTested := true }

def isOption (letter : Char) (s : State) : Bool := s.options.contains letter

/-- The shell has something to do when a signal comes. -/
def hasTraps (s : State) : Bool := s.traps.any (!·.2.isEmpty)

def Mode.inner (mode : Mode) : Mode := { isTested := mode.isTested }

/-! ### Signals -/

/-- Does what is to be done for signals, which must not change the status. -/
def answer : List Nat → Sh Unit
  | [] => return ()
  | signal :: rest => do
      match (← state).traps.lookup signal with
      | none => answer rest
      | some text => do
          let status := (← state).status
          let (flow, _) ← runText text {}
          if flow != .returning then setStatus status
          answer rest

/-- Does what is to be done for the signals that have come. -/
def answerAll : Sh Unit := do
  if hasTraps (← state) then
    let arrived ← instant (modifyGet fun w =>
      (w.self.arrived, { w with self := { w.self with arrived := [] } }))
    answer (arrived.mergeSort fun a b => decide (a ≤ b))

/-! ### Programs -/

def noPermission : Int := 126

/-- The exit status for a program that cannot be run. -/
def refusal (e : Errno) : Int :=
  if [Errno.linkLoop, .nameTooLong, .noEntry, .notDirectory].contains e then 127 else noPermission

/-- Tries to run the programs of some paths, and gives why none of them could be run. -/
def tryPaths (argv : List String) (settings : Settings) (e : Errno) : List String → Sh Errno
  | [] => return e
  | path :: rest => do
      let f ← act (Search.execFile path argv settings)
      tryPaths argv settings (if f = .noEntry || f = .notDirectory then e else f) rest

/-- Runs a program in the place of this process. -/
def replace {α : Type} (paths argv : List String) : Sh α := do
  let settings ← environment
  let e ← tryPaths argv settings .noEntry paths
  warn (argv.headD "" ++ ": " ++ Redirecting.reason e Finding.notFound)
  setStatus (refusal e)
  leave

def program (mode : Mode) (paths argv : List String) : Sh Unit := do
  if mode.isLast && !hasTraps (← state) then replace paths argv
  else
    let pid ← Children.fork (replace paths argv)
    setStatus (← Children.await [pid])

/-! ### Builtin commands -/

def plainBuiltins : List (String × Builtin) := [
  (":", fun _ => return 0), ("[", Judging.bracket), ("alias", Variables.alias_),
  ("bg", Signalling.control), ("cd", Places.cd), ("chdir", Places.cd),
  ("command", Finding.command), ("echo", Printing.echo), ("export", Variables.export_),
  ("false", fun _ => return 1), ("fg", Signalling.control),
  ("getopts", Variables.getopts), ("hash", Finding.hash), ("jobs", Signalling.jobs),
  ("kill", Signalling.kill), ("local", Variables.local_), ("printf", Printing.printf),
  ("pwd", Places.pwd), ("read", Variables.read), ("readonly", Variables.readonly),
  ("set", Variables.set_), ("shift", Variables.shift), ("test", Judging.test),
  ("times", Signalling.times), ("trap", Signalling.trap), ("true", fun _ => return 0),
  ("type", Finding.type), ("ulimit", Signalling.ulimit), ("umask", Places.umask),
  ("unalias", Variables.unalias), ("unset", Variables.unset), ("wait", Signalling.wait)]

/-- Leaves loops, or goes on with their next round. -/
def breaking (flow : Nat → Flow) (args : List String) : Sh Flow := do
  let count ← match args with
    | [] => pure 1
    | text :: _ => do
        let n ← Arguments.number text
        if n = 0 then Arguments.illegal text
        pure n
  setStatus 0
  let count := min count (← state).loops
  return if count = 0 then .on else flow count

def returning (args : List String) : Sh Flow := do
  if let text :: _ := args then setStatus (← Arguments.number text)
  return .returning

/-- Ends the shell, with the status of its last command if no other is given. -/
def exit (args : List String) : Sh Flow := do
  let s ← state
  match args with
  | [] => setStatus (s.leaving.getD s.status)
  | text :: _ => setStatus (← Arguments.number text)
  leave

def eval (mode : Mode) (args : List String) : Sh Flow := do
  let (flow, status) ← runText (" ".intercalate args) (Mode.inner mode)
  setStatus status
  return flow

/-- The file of a script that is run by its name. -/
def scriptFile (name : String) : Sh String := do
  if name.contains '/' then return name
  match ← (Finding.candidates (← Finding.searchPath) name).findM? fun path =>
      instant (testPath 'f' path) with
  | some path => return path
  | none => fail (name ++ ": not found")

/-- Opens the file of a script, out of the way of other descriptors. -/
def openScript (path : String) : Sh Descriptor := do
  let d ← Redirecting.openFile path .forReading "open" "No such file"
  match ← instant (World.duplicate d Redirecting.keptFrom true) with
  | .ok copy => do
      let _ ← instant (World.close d)
      return copy
  | .error _ => return d

def dot (args : List String) : Sh Flow := do
  match ← withoutOptions args with
  | [] => do
      setStatus 0
      return .on
  | name :: _ => do
      let path ← scriptFile name
      let d ← openScript path
      update ({ · with command := path })
      let (flow, status) ← Source.run {} 0 Children.patience (.ofDescriptor d)
      let _ ← instant (World.close d)
      setStatus status
      return if flow = .returning then .on else flow

def exec (args : List String) : Sh Flow := do
  match ← withoutOptions args with
  | [] => do
      setStatus 0
      return .on
  | name :: rest => do
      let path ← Finding.searchPath
      let paths := if name.contains '/' then [name] else Finding.candidates path name
      replace paths (name :: rest)

def carryOut (mode : Mode) (name : String) (args : List String) : Sh Flow := do
  match name with
  | "break" => breaking .breaking args
  | "continue" => breaking .continuing args
  | "return" => returning args
  | "exit" => exit args
  | "eval" => eval mode args
  | "." => dot args
  | "exec" => exec args
  | name => do
      match plainBuiltins.lookup name with
      | some builtin => setStatus (← builtin args)
      | none => setStatus 0
      return .on

/-- Carries out a builtin command, in which an error may end the script. -/
def builtin (mode : Mode) (isFatal : Bool) (name : String) (args : List String) : Sh Flow := do
  let outer := (← state).command
  update ({ · with command := name })
  let result ← attempt (carryOut mode name args)
  update ({ · with command := outer })
  match result with
  | some flow => return flow
  | none => if isFatal then throw () else return .on

/-! ### Functions -/

def function (mode : Mode) (body : Tree) (args : List String) : Sh Flow := do
  let s ← state
  update ({ · with arguments := args, loops := 0, optionOffset := 0 })
  let flow ← run body (Mode.inner mode)
  update ({ · with arguments := s.arguments, loops := s.loops, optionOffset := s.optionOffset })
  return if flow = .returning then .on else flow

/-! ### Simple commands -/

/-- The words of a command behind the builtin command `command`, and whether it was there. -/
structure Head where
  words : List String
  isWrapped : Bool := false
  /-- Programs are looked for in the standard places. -/
  isStandard : Bool := false

/-- Takes off options that say only where to look for programs. With any others, `command` itself is
run. -/
def dropOptions : List String → Bool → Option (List String × Bool)
  | [], _ => none
  | arg :: rest, isStandard =>
      if arg = "--" then (if rest.isEmpty then none else some (rest, isStandard))
      else match arg.toList with
        | '-' :: c :: more =>
            if (c :: more).all (· = 'p') then dropOptions rest true else none
        | _ => some (arg :: rest, isStandard)

def unwrap : Nat → Head → Head
  | 0, h => h
  | bound + 1, h =>
      match h.words with
      | "command" :: rest =>
          match dropOptions rest h.isStandard with
          | some (words, isStandard) => unwrap bound ⟨words, true, isStandard⟩
          | none => h
      | _ => h

/-- The words of a command, and what it is behind the builtin command `command`. -/
def head (s : State) (words : List String) : Head :=
  if (s.functions.lookup "command").isSome then { words := words }
  else unwrap (words.length + 1) { words := words }

/-- Expands the words of a command, the fields so far being `done`. Where assignments may be given,
they are taken as such. -/
def expand (done : List String) : List Word → Sh (List String)
  | [] => return done
  | word :: rest => do
      let h := head (← state) done
      let name := h.words.headD ""
      let takesAssignments := Finding.assigning.contains name &&
        (h.isWrapped || ((← state).functions.lookup name).isNone)
      let fields ←
        match if takesAssignments then Grammar.assignment? word else none with
        | some (name, value) => pure [name ++ "=" ++ (← Expansion.assigned value)]
        | none => Expansion.fields word
      expand (done ++ fields) rest

/-- What is shown before a command: a text in which parameters may stand. -/
def traceLead : Sh String := do
  let text := (← value? "PS4").getD ""
  match (Reader.partsOf Grammar.standard .document (← state).line text).run { rest := [] } with
  | .ok (word, _) => Expansion.document word
  | .error _ => return text

/-- Shows a command before it is run. -/
def trace (kept : List Kept) (assignments : List (String × String)) (words : List String) :
    Sh Unit := do
  if ← hasOption 'x' then
    let d := ((kept.find? (·.target = diagnostics)).bind Kept.copy).getD diagnostics
    let lead ← traceLead
    let texts := (assignments.map fun (name, value) => name ++ "=" ++ value) ++ words
    let _ ← write d (lead ++ " ".intercalate texts ++ "\n")

def assignAll (isTemporary isExported : Bool) :
    List (String × Word) → List (String × String) → Sh (List (String × String))
  | [], done => return done
  | (name, word) :: rest, done => do
      let value ← Expansion.assigned word
      if isTemporary then Variables.makeLocal name (some value) true
      else
        assign name value
        if isExported then Variables.mark ({ · with exported := true }) [name]
      assignAll isTemporary isExported rest (done ++ [(name, value)])

/-- Runs a command whose words have been expanded and whose redirections have been made. -/
def launch (mode : Mode) (isFatal : Bool) (h : Head) : Sh Flow := do
  match h.words with
  | [] => do
      setStatus (← state).substituted
      return .on
  | name :: args => do
      let path ← if h.isStandard then pure (some Finding.standardPath) else Finding.searchPath
      match ← Finding.find (!h.isWrapped) path name with
      | .builtin => builtin mode isFatal name args
      | .function body => function mode body args
      | .program => do
          program mode [name] h.words
          return .on
      | .onPath paths => do
          if !h.isStandard then Finding.remember name
          program mode paths h.words
          return .on
      | .nothing e => do
          warn (name ++ ": " ++ Redirecting.reason e Finding.notFound)
          setStatus 127
          return .on

def simple (mode : Mode) (line : Nat) (assignments : List (String × Word)) (words : List Word)
    (redirections : List Redirection) : Sh Flow := do
  update ({ · with line := line, substituted := 0 })
  let fields ← expand [] words
  let s ← state
  let h := head s fields
  let first := fields.headD ""
  let isFatal := Finding.special.contains first
  let isExec := h.words.headD "" = "exec"
  let ready ← redirections.mapM Redirecting.prepare
  match ← attempt (Redirecting.redirect true [] ready) with
  | none => if isFatal then throw () else return .on
  | some kept => do
      let isTemporary := !fields.isEmpty && !isFatal
      if isTemporary then Variables.openFrame
      let given ← assignAll isTemporary (isExec && 1 < fields.length) assignments []
      trace kept given fields
      let flow ← launch mode isFatal h
      if isExec then Redirecting.settle kept else Redirecting.restore kept
      if isTemporary then Variables.closeFrame
      return flow

/-! ### Compound commands -/

/-- Runs the stages of a pipeline in processes of their own, from the one on that reads from
`input`. -/
def startStages (mode : Mode) (isBackground : Bool) (input : Option Descriptor) :
    List Tree → List Pid → Sh (List Pid)
  | [], pids => return pids
  | stage :: rest, pids => do
      let output ← if rest.isEmpty then pure none else
        match ← instant World.pipe with
        | .ok ends => pure (some ends)
        | .error _ => fail "Pipe call failed"
      let pid ← Children.fork do
        if isBackground then Children.retire pids.isEmpty
        if let some (reader, _) := output then
          let _ ← instant (World.close reader)
        if let some d := input then
          let _ ← instant (World.replace d Descriptor.input)
          if d != Descriptor.input then
            let _ ← instant (World.close d)
        if let some (_, writer) := output then
          if writer != Descriptor.output then
            let _ ← instant (World.replace writer Descriptor.output)
            let _ ← instant (World.close writer)
        let _ ← run stage { mode with isLast := true }
      if let some d := input then
        let _ ← instant (World.close d)
      if let some (_, writer) := output then
        let _ ← instant (World.close writer)
      startStages mode isBackground (output.map (·.1)) rest (pids ++ [pid])

def pipeline (mode : Mode) (stages : List Tree) : Sh Flow := do
  let pids ← startStages (Mode.inner mode) false none stages []
  setStatus (← Children.await pids)
  return .on

def background (command : Tree) : Sh Flow := do
  let pids ← match command with
    | .pipeline _ stages => startStages {} true none stages []
    | command => do
        let pid ← Children.fork do
          Children.retire true
          let _ ← run command { isLast := true }
        pure [pid]
  Children.keep pids
  setStatus 0
  return .on

def subshell (mode : Mode) (body : Tree) (redirections : List Redirection) : Sh Flow := do
  let ready ← redirections.mapM Redirecting.prepare
  let child : Sh Unit := do
    let _ ← Redirecting.redirect false [] ready
    let _ ← run body { mode with isLast := true }
  if mode.isLast && !hasTraps (← state) then
    child
    leave
  else
    let pid ← Children.fork child
    setStatus (← Children.await [pid])
    return .on

def redirected (mode : Mode) (body : Tree) (redirections : List Redirection) : Sh Flow := do
  let ready ← redirections.mapM Redirecting.prepare
  match ← attempt (Redirecting.redirect true [] ready) with
  | none => return .on
  | some kept => do
      let flow ← run body (Mode.inner mode)
      Redirecting.restore kept
      return flow

/-- Runs commands one after another. -/
def sequence (mode : Mode) : List Tree → Sh Flow
  | [] => return .on
  | [tree] => run tree mode
  | tree :: rest => do
      let flow ← run tree (Mode.inner mode)
      if flow = .on then sequence mode rest else return flow

/-- What a loop does after a part of it: whether it goes on, and where the script goes on after it if
not. -/
def afterPart : Flow → Bool × Flow
  | .on => (true, .on)
  | .breaking n => (false, if n ≤ 1 then .on else .breaking (n - 1))
  | .continuing n => if n ≤ 1 then (true, .on) else (false, .continuing (n - 1))
  | .returning => (false, .returning)

def loopFrom (mode : Mode) (until_ : Bool) (test body : Tree) : Nat → Int → Sh (Flow × Int)
  | 0, status => return (.on, status)
  | bound + 1, status => do
      let flow ← run test tested
      let code := (← state).status
      if flow != .on then
        let (goesOn, flow) := afterPart flow
        let status := if flow = .returning then code else status
        if goesOn then loopFrom mode until_ test body bound status else return (flow, status)
      else if (code = 0) = until_ then return (.on, status)
      else
        let (goesOn, flow) := afterPart (← run body mode)
        let status := (← state).status
        if goesOn then loopFrom mode until_ test body bound status else return (flow, status)

def eachFrom (mode : Mode) (name : String) (body : Tree) : List String → Int → Sh (Flow × Int)
  | [], status => return (.on, status)
  | value :: rest, _ => do
      assign name value
      let (goesOn, flow) := afterPart (← run body mode)
      let status := (← state).status
      if goesOn then eachFrom mode name body rest status else return (flow, status)

/-- Does something as a loop. -/
def looping (a : Sh (Flow × Int)) : Sh Flow := do
  update fun s => { s with loops := s.loops + 1 }
  let (flow, status) ← a
  update fun s => { s with loops := s.loops - 1, status := status }
  return flow

def matchesAny (text : String) : List Word → Sh Bool
  | [] => return false
  | word :: rest => do
      if Glob.matchesAll (← Expansion.pattern word) text.toList then return true
      else matchesAny text rest

def select (mode : Mode) (text : String) : List (List Word × Option Tree) → Sh Flow
  | [] => do
      setStatus 0
      return .on
  | (patterns, body) :: rest => do
      if ← matchesAny text patterns then
        match body with
        | some body => run body mode
        | none => do
            setStatus 0
            return .on
      else select mode text rest

/-- Runs a command, and tells whether it counts if it fails. -/
def step (tree : Tree) (mode : Mode) : Sh (Flow × Bool) := do
  match tree with
  | .simple line assignments words redirections =>
      return (← simple mode line assignments words redirections, true)
  | .pipeline _ stages => return (← pipeline mode stages, true)
  | .background line command => do
      update ({ · with line := line })
      return (← background command, true)
  | .subshell line body redirections => do
      update ({ · with line := line })
      return (← subshell mode body redirections, true)
  | .redirected line body redirections => do
      update ({ · with line := line })
      return (← redirected mode body redirections, false)
  | .both first second => do
      let flow ← run first tested
      if flow != .on || (← state).status != 0 then return (flow, false)
      return (← run second mode, false)
  | .either first second => do
      let flow ← run first tested
      if flow != .on || (← state).status = 0 then return (flow, false)
      return (← run second mode, false)
  | .negation command => do
      let flow ← run command tested
      setStatus (if (← state).status = 0 then 1 else 0)
      return (flow, false)
  | .sequence commands => return (← sequence mode commands, false)
  | .choice test body otherwise => do
      let flow ← run test tested
      if flow != .on then return (flow, false)
      if (← state).status = 0 then return (← run body mode, false)
      match otherwise with
      | some tree => return (← run tree mode, false)
      | none => do
          setStatus 0
          return (.on, false)
  | .loop until_ test body =>
      return (← looping (loopFrom (Mode.inner mode) until_ test body Children.patience 0), false)
  | .each line name words body => do
      update ({ · with line := line })
      let values := (← words.mapM Expansion.fields).flatten
      return (← looping (eachFrom (Mode.inner mode) name body values 0), false)
  | .select line subject clauses => do
      update ({ · with line := line })
      return (← select mode (← Expansion.text subject) clauses, false)
  | .define _ name body => do
      update fun s => { s with
        functions := (name, body) :: s.functions.filter (·.1 != name), status := 0 }
      return (.on, false)

/-- Runs a command. -/
def command (tree : Tree) (mode : Mode) : Sh Flow := do
  if ← hasOption 'n' then return .on
  answerAll
  let (flow, counts) ← step tree mode
  answerAll
  let s ← state
  if counts && !mode.isTested && s.status != 0 && isOption 'e' s then leave
  if mode.isLast then leave
  return flow

end LineShell.Machine.Script.Running
