import LineShell.Command

/-!
The command `help`: an overview of all commands, or the help texts of those asked for.
-/

namespace LineShell.Builtin.Help

variable {σ : Type}

def version : String := "0.1.0"

def topic : Topic where
  name := "help"
  description := "display useful information"
  help := "help: help [command ...]\n    Display helpful information about builtin commands. " ++
    "If COMMAND is specified,\n    gives detailed help on all commands matching COMMAND, " ++
    "otherwise a list of the\n    builtins is printed."

/-- The lines of the overview, each as the texts it is written in. -/
def overview (topics : List Topic) : List (List String) :=
  [["koiSh v" ++ version ++ "\n"],
    ["----------\n"],
    ["Execute a program by entering its name.\n"],
    ["Otherwise, the following commands are built-in:\n"],
    ["\n"]] ++
  topics.map (fun t => ["  ", t.name, "\t\t", t.description, "\n"]) ++
  [["\n"],
    ["You can also use `man <program_name>` for specific information on a program.\n"]]

/-- The topics that have some of the names, in the order of the names. -/
def select (topics : List Topic) (names : List String) : List Topic :=
  names.filterMap fun name => topics.find? (·.name = name)

/-- All that is written when the arguments are `names`. -/
def output (topics : List Topic) (names : List String) : List String :=
  if names.isEmpty then (overview topics).flatten
  else (select topics names).flatMap fun t => [t.help, "\n"]

/-- The error, if there is nothing to tell about any of the names. -/
def missing? (topics : List Topic) (names : List String) : Option Error :=
  match names.getLast? with
  | none => none
  | some last =>
      if (select topics names).isEmpty then
        some (.command ("help: no help topics match " ++ last) 1)
      else none

def body (call : Invocation σ) : StateM σ (Except Error Status) := do
  let names := call.argv.drop 1
  match ← call.sink.writeAll (output call.topics names) with
  | .error fault => return .error (.stream fault)
  | .ok () =>
      match missing? call.topics names with
      | some e => return .error e
      | none => return .ok .success

def command : Command σ := { topic with body := body }

end LineShell.Builtin.Help
