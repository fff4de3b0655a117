import LineShell.Command

/-!
Commands that are told step by step what to do: read the input, write, hand on to another command,
fail or give a status. They serve to put a shell through its paces.
-/

namespace LineShell.Builtin

structure Scripted extends Topic where
  /-- Reads the input to its end, and writes its length and the bytes themselves. -/
  slurps : Bool := false
  /-- A text to write. -/
  out : Option String := none
  /-- Writes the arguments, joined by unit separators. -/
  showsArguments : Bool := false
  /-- Runs the arguments as a command, and takes its status if there is one. -/
  delegates : Bool := false
  failure : Option Error := none
  result : Status := .success

namespace Scripted

variable {σ : Type}

def argumentSeparator : String := "\x1f"

/-- The bytes that the command writes before it hands on. -/
def output (script : Scripted) (argv : List String) (input : Bytes) : List Bytes :=
  (if script.slurps then [Utf8.encode ("<" ++ toString input.length ++ ">\n"), input] else []) ++
  (script.out.toList.map Utf8.encode) ++
  (if script.showsArguments then
    [Utf8.encode (argumentSeparator.intercalate (argv.drop 1) ++ "\n")] else [])

def writeBytes (sink : Sink σ) : List Bytes → StateM σ (Except Fault Unit)
  | [] => return .ok ()
  | bytes :: rest => do
      match ← sink.write bytes with
      | .ok () => writeBytes sink rest
      | .error fault => return .error fault

def conclude (script : Scripted) : Except Error Status :=
  match script.failure with
  | some e => .error e
  | none => .ok script.result

def body [Environment σ] (script : Scripted) (call : Invocation σ) :
    StateM σ (Except Error Status) := do
  let input ← if script.slurps then Environment.readInput else pure []
  match ← writeBytes call.sink (script.output call.argv input) with
  | .error fault => return .error (.stream fault)
  | .ok () =>
      let handed ← if script.delegates then call.onward else pure none
      match handed with
      | some status => return .ok status
      | none => return script.conclude

def command [Environment σ] (script : Scripted) : Command σ :=
  { script.toTopic with body := script.body }

end Scripted

end LineShell.Builtin
