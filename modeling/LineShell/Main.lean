import LineShell.CommandLine
import LineShell.Machine.System

/-!
The program. It runs the shell on a machine that has been given the standard input, the home
directory and, if one is asked for, the file of commands; what the machine has written is then
passed on.
-/

namespace LineShell

open Machine

partial def readToEnd (stream : IO.FS.Stream) (bytes : ByteArray) : IO ByteArray := do
  let more ← stream.read 65536
  if more.isEmpty then return bytes
  readToEnd stream (bytes ++ more)

/-- The names in a path from the root. -/
def namesOf (path : String) : List String :=
  (Path.names (Raw.encode path)).filter (!Path.stays ·)

/-- Puts the file of commands that is asked for, if it can be read, where the machine will look. -/
def addCommands (args : List String) (home : String) (tree : FileTree) : IO FileTree := do
  match CommandLine.request args with
  | .ok (.file path, _) =>
      try
        let contents ← IO.FS.readBinFile path
        let base := if Path.isAbsolute path then [] else namesOf home
        return tree.install (base ++ namesOf path)
          { content := .file contents.toList, mode := 0o644 }
      catch _ => return tree
  | _ => return tree

end LineShell

open LineShell LineShell.Machine in
def main (args : List String) : IO UInt32 := do
  let input ← readToEnd (← IO.getStdin) .empty
  let home := (← IO.getEnv "HOME").getD accountHome
  let (cwd, tree) := FileTree.installed.installDirectory (namesOf home)
  let tree ← addCommands args home tree
  let m := Machine.start tree cwd [("HOME", Raw.encode home)] input.toList
  let (departure, console) := CommandLine.run args (⟨m, []⟩ : Console Machine)
  (← IO.getStdout).write (ByteArray.mk console.kernel.output.toArray)
  (← IO.getStderr).write (ByteArray.mk console.kernel.diagnostics.toArray)
  return (departure.exitCode % 256).toNat.toUInt32
