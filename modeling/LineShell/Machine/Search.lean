import LineShell.Machine.Program

/-!
Finding the program for a command. A name without a slash is looked for in the directories of a
search path. A file that is no program at all is run as a script.
-/

namespace LineShell.Machine.Search

/-- Where programs are looked for when there is no search path. -/
def defaultPath : String := "/bin:/usr/bin"

def scriptShell : String := "/bin/sh"

/-- Entries of a search path are cut to this length to see if they are too long. -/
def longestPath : Nat := 4095

/-- A directory too long to be looked in, which is passed over if others follow. -/
def isTooLong (path : String) (directory : List Char) : Bool :=
  min path.length longestPath + 1 ≤ directory.length

/-- The directories of a search path. After one that is too long comes the current one. -/
def directories (path : String) : List String :=
  let all := pieces (· = ':') path.toList
  let last := all.getLast?.getD []
  let shown := all.dropLast.map fun d => if isTooLong path d then [] else d
  (shown ++ if isTooLong path last then [] else [last]).map String.ofList

/-- The paths under which a name is looked for. -/
def paths (path name : String) : List String :=
  (directories path).map fun d => if d.isEmpty then name else d ++ "/" ++ name

/-- Looking further may help. -/
def isPassable (e : Errno) : Bool := e = .noEntry || e = .notDirectory || e = .noAccess

/-- Runs the file of a path, as a script if it is no program. -/
def execFile (path : String) (argv : List String) (settings : Settings) : Act Errno := do
  let e ← Act.exec path argv settings
  if e = .noExec then Act.exec scriptShell (scriptShell :: path :: argv.drop 1) settings
  else return e

/-- Runs the first file of some paths that can be run. That one was found which may not be run is
remembered, and so is the last failure. -/
def execFirst (argv : List String) (settings : Settings) (refused : Bool) (last : Errno) :
    List String → Act Errno
  | [] => return if refused then .noAccess else last
  | path :: rest => do
      let e ← execFile path argv settings
      if isPassable e then execFirst argv settings (refused || e = .noAccess) e rest
      else return e

/-- Runs a command in the place of this process, and gives why that cannot be done. -/
def exec (argv : List String) (settings : Settings) : Act Errno :=
  match argv.headD "" with
  | "" => return .noEntry
  | name =>
      if name.contains '/' then execFile name argv settings
      else
        execFirst argv settings false .noEntry
          (paths ((settings.lookup "PATH").getD defaultPath) name)

end LineShell.Machine.Search
