import LineShell.Kernel

/-!
Builtin commands and the list in which a shell looks them up. A name means the first command that
was listed under it; later ones are shown by `help` but never run.
-/

namespace LineShell

/-- Where the output of a command goes. -/
structure Sink (σ : Type) where
  write : Bytes → StateM σ (Except Fault Unit)
  flush : StateM σ (Except Fault Unit)

namespace Sink

variable {σ : Type}

/-- Writes texts one after another, up to the first that fails. -/
def writeAll (sink : Sink σ) : List String → StateM σ (Except Fault Unit)
  | [] => return .ok ()
  | text :: rest => do
      match ← sink.write (Utf8.encode text) with
      | .ok () => sink.writeAll rest
      | .error fault => return .error fault

end Sink

/-- What `help` tells of a command. -/
structure Topic where
  name : String
  description : String
  help : String
  deriving DecidableEq, Repr

/-- The first line of a text, without the carriage return that may stand before its newline. -/
def firstLine (text : String) : String :=
  let line := text.toList.takeWhile (· != '\n')
  if text.contains '\n' ∧ line.getLast? = some '\r' then String.ofList line.dropLast
  else String.ofList line

/-- The line that shows how the command is called. -/
def Topic.usage (t : Topic) : String := firstLine t.help

/-- What a command is given when it is run. -/
structure Invocation (σ : Type) where
  /-- All commands of the shell, in the order of the list. -/
  topics : List Topic
  /-- The name of the command and its arguments. -/
  argv : List String
  sink : Sink σ
  /-- Runs the arguments as a command of their own; `none` if there is none of that name. -/
  onward : StateM σ (Option Status)

structure Command (σ : Type) extends Topic where
  body : Invocation σ → StateM σ (Except Error Status)

/-- The builtin commands of a shell, in the order in which they were listed. -/
structure Registry (σ : Type) where
  commands : List (Command σ) := []

namespace Registry

variable {σ : Type}

def add (r : Registry σ) (c : Command σ) : Registry σ := ⟨r.commands ++ [c]⟩

def find? (r : Registry σ) (name : String) : Option (Command σ) :=
  r.commands.find? (·.name = name)

def isBuiltin (r : Registry σ) (name : String) : Bool := (r.find? name).isSome

def topics (r : Registry σ) : List Topic := r.commands.map Command.toTopic

def names (r : Registry σ) : List String := r.commands.map (·.name)

/-- The status a command comes to. A failure is reported here and goes no further. -/
def conclude [Environment σ] : Except Error Status → StateM σ Status
  | .ok status => return status
  | .error e => do
      Environment.reportError e
      return .proceed (.ofCode e.exitCode)

/-- Runs the command that the first argument names, if there is one. -/
def run [Environment σ] (r : Registry σ) (sink : Sink σ) :
    List String → StateM σ (Option Status)
  | [] => return none
  | name :: args =>
      match r.find? name with
      | none => return none
      | some command => do
          let result ← command.body
            { topics := r.topics, argv := name :: args, sink := sink, onward := r.run sink args }
          let _ ← sink.flush
          return some (← conclude result)

end Registry

end LineShell
