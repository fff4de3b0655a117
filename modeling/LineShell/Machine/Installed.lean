import LineShell.Machine.Image
import LineShell.Machine.Script.Calling
import LineShell.Machine.Tool.Comparing
import LineShell.Machine.Tool.Copying
import LineShell.Machine.Tool.Counting
import LineShell.Machine.Tool.Cutting
import LineShell.Machine.Tool.Dumping
import LineShell.Machine.Tool.Editing
import LineShell.Machine.Tool.Judging
import LineShell.Machine.Tool.Listing
import LineShell.Machine.Tool.Mapping
import LineShell.Machine.Tool.Moving
import LineShell.Machine.Tool.Numbering
import LineShell.Machine.Tool.Printing
import LineShell.Machine.Tool.Reporting
import LineShell.Machine.Tool.Reversing
import LineShell.Machine.Tool.Searching
import LineShell.Machine.Tool.Sorting
import LineShell.Machine.Tool.Spacing
import LineShell.Machine.Tool.Starting
import LineShell.Machine.Tool.Walking

/-!
What is installed on a machine: its tools, and the file tree they lie in.
-/

namespace LineShell.Machine

namespace Tool

/-- A tool that a machine has. -/
structure Equipment where
  name : String
  tool : Tool Unit
  /-- The exit code if its output cannot be written, and what is said then. -/
  outputFailure : Int := 1
  outputComplaint : Errno → String := fun e => "write error: " ++ e.sentence

def bareComplaint : Errno → String := fun _ => "write error"

def closeComplaint : Errno → String := fun e =>
  "close failed on file \"/dev/stdout\" (" ++ e.sentence ++ ")"

def table : List Equipment := [
  { name := "true", tool := pure () },
  { name := "false", tool := exit 1 },
  { name := "cat", tool := cat },
  { name := "head", tool := head },
  { name := "tail", tool := tail },
  { name := "tee", tool := tee },
  { name := "yes", tool := yes },
  { name := "echo", tool := echo },
  { name := "printf", tool := printf },
  { name := "basename", tool := basename },
  { name := "dirname", tool := dirname },
  { name := "printenv", tool := printenv, outputFailure := 2 },
  { name := "pwd", tool := pwd },
  { name := "seq", tool := seq },
  { name := "wc", tool := wc, outputComplaint := bareComplaint },
  { name := "cut", tool := cut },
  { name := "paste", tool := paste },
  { name := "tac", tool := tac },
  { name := "rev", tool := rev },
  { name := "nl", tool := nl },
  { name := "fold", tool := fold },
  { name := "expand", tool := expand },
  { name := "unexpand", tool := unexpand },
  { name := "od", tool := od },
  { name := "tr", tool := tr },
  { name := "sort", tool := sort, outputFailure := 2, outputComplaint := sortTrouble },
  { name := "uniq", tool := uniq },
  { name := "comm", tool := comm },
  { name := "grep", tool := grep, outputFailure := 2 },
  { name := "test", tool := test, outputFailure := 2 },
  { name := "[", tool := bracketTest, outputFailure := 2 },
  { name := "expr", tool := expr, outputFailure := 3 },
  { name := "rm", tool := rm },
  { name := "rmdir", tool := rmdir },
  { name := "unlink", tool := unlink },
  { name := "mkdir", tool := mkdir },
  { name := "touch", tool := touch },
  { name := "mktemp", tool := mktemp },
  { name := "ln", tool := ln },
  { name := "link", tool := link },
  { name := "chmod", tool := chmod },
  { name := "cp", tool := cp },
  { name := "mv", tool := mv },
  { name := "ls", tool := ls, outputFailure := 2 },
  { name := "egrep", tool := grepOlder "E", outputFailure := 2 },
  { name := "fgrep", tool := grepOlder "F", outputFailure := 2 },
  { name := "env", tool := env, outputFailure := 125 },
  { name := "nohup", tool := nohup, outputFailure := 125 },
  { name := "nice", tool := nice, outputFailure := 125 },
  { name := "sleep", tool := sleep },
  { name := "timeout", tool := timeout, outputFailure := 125 },
  { name := "kill", tool := kill },
  { name := "which", tool := which },
  { name := "xargs", tool := xargs },
  { name := "find", tool := find },
  { name := "sed", tool := sed, outputFailure := 4
    outputComplaint := fun e => "couldn't flush stdout: " ++ e.sentence },
  { name := "awk", tool := awk, outputFailure := 2, outputComplaint := closeComplaint },
  { name := "mawk", tool := awk, outputFailure := 2, outputComplaint := closeComplaint }]

/-- The names of the script shell. -/
def shells : List String := ["sh", "dash"]

/-- What a process does that runs an image. -/
def ofImage (image : Image) : Program :=
  if shells.contains image.program then Script.Calling.program image.argv
  else
    match table.find? (·.name = image.program) with
    | none => .done (.exited 126)
    | some e =>
        e.tool.toProgram {
          name := image.argv.headD "", arguments := image.argv.drop 1
          outputFailure := e.outputFailure, outputComplaint := e.outputComplaint }

end Tool

namespace FileTree

def empty : FileTree := ⟨#[rootNode]⟩

/-- The tree of a machine on which nobody has worked. -/
def installed : FileTree :=
  let tree := (Tool.shells ++ Tool.table.map (·.name)).foldl (fun t name =>
    t.install ["usr", "bin", name] { content := .program name, mode := 0o755 }) empty
  let links := [("bin", "usr/bin"), ("sbin", "usr/sbin")]
  let tree := links.foldl (fun t (name, target) =>
    t.install [name] { content := .link target, mode := linkMode }) tree
  let devices : List (String × Device) := [("null", .null), ("full", .full), ("zero", .zero)]
  let tree := devices.foldl (fun t (name, device) =>
    t.install ["dev", name] { content := .device device, mode := 0o666 }) tree
  let tree := (List.range 10).foldl (fun t number =>
    t.install ["proc", "self", "fd", toString number]
      { content := .standing number, mode := 0o600 }) tree
  let streams := [("stdin", "0"), ("stdout", "1"), ("stderr", "2")]
  let tree := streams.foldl (fun t (name, number) =>
    t.install ["dev", name] { content := .link ("/proc/self/fd/" ++ number), mode := linkMode }) tree
  let tree := tree.install ["dev", "fd"] { content := .link "/proc/self/fd", mode := linkMode }
  [["etc"], ["home"], ["root"], ["tmp"], ["var", "tmp"], ["usr", "sbin"],
    ["usr", "local", "bin"], ["usr", "local", "sbin"]].foldl (fun t names =>
      (t.installDirectory names).2) tree

end FileTree

end LineShell.Machine
