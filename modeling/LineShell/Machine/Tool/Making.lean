import LineShell.Machine.Mode
import LineShell.Machine.Tool.Removing

/-!
Tools that make directories, files and links, and change what may be done with them.
-/

namespace LineShell.Machine.Tool

/-! ### Directories -/

/-- Makes a directory, with the given permission bits as they are if there are some. -/
def makeDirectory (mode : Option Nat) (path : String) : Tool (Except Errno Unit) := do
  let w ← world
  let bits := mode.getD (Mode.without FileTree.directoryMode w.self.mask)
  instant (World.change fun t cwd => t.makeDirectory cwd path bits)

/-- The paths that lead to a path, and the path itself. -/
def leading (path : String) : List String :=
  let cs := path.toList
  let cuts := (List.range cs.length).filter fun n =>
    0 < n && cs[n]? = some '/' && cs[n - 1]? != some '/'
  let all := cuts.map fun n => String.ofList (cs.take n)
  if path.endsWith "/" then all else all ++ [path]

/-- Makes the directories of some paths that are missing, one within the other. -/
def makeLeading (mode : Option Nat) (verbose : Bool) : List String → Tool Unit
  | [] => return ()
  | path :: rest => do
      let last := rest.isEmpty
      match ← makeDirectory (if last then mode else none) path with
      | .ok () => do
          if verbose then putText ("mkdir: created directory " ++ Quoting.always path ++ "\n")
          makeLeading mode verbose rest
      | .error e => do
          if ← instant (testPath 'd' path) then makeLeading mode verbose rest
          else
            let e := if e = .alreadyExists && !last then Errno.notDirectory else e
            complain ("cannot create directory " ++ quoted path e)

def mkdir : Tool Unit := do
  let o ← options 1 "m:pvZ" "context:: mode:=m parents=p verbose=v"
  if o.operands.isEmpty then misuse 1 "missing operand"
  let mode ← match o.value? "m" with
    | none => pure none
    | some text =>
        match Mode.ofText? text with
        | none => fail 1 ("invalid mode " ++ Quoting.always text)
        | some change => do
            let w ← world
            pure (some (change.apply true w.self.mask FileTree.directoryMode))
  let verbose := o.isSet "v"
  forEach o.operands fun path => do
    if o.isSet "p" && !path.isEmpty then makeLeading mode verbose (leading path)
    else
      match ← makeDirectory mode path with
      | .ok () =>
          if verbose then putText ("mkdir: created directory " ++ Quoting.always path ++ "\n")
      | .error e => complain ("cannot create directory " ++ quoted path e)

/-! ### Files -/

/-- Notes that a file has changed now. -/
def stampNow (n : NodeId) : Instant Unit := modify fun w =>
  { w with system := { w.system with
      tree := w.system.tree.modify n ({ · with stamp := w.system.stamp })
      stamp := w.system.stamp + 1 } }

def touchOne (creates : Bool) (path : String) : Tool Unit := do
  if path = "-" then return ()
  match ← instant (Stat.ofPath true path) with
  | .ok s => instant (stampNow s.node)
  | .error e => do
      if !creates && e = .noEntry then return ()
      if path.endsWith "/" then complain ("setting times of " ++ quoted path e)
      else
        match ← instant (World.openPath { writes := true, creates := true } path) with
        | .ok d => close d
        | .error e => complain ("cannot touch " ++ quoted path e)

def touch : Tool Unit := do
  let o ← options 1 "acd:fhmr:t:" "time: no-create=c date:=d reference:=r no-dereference=h"
  if let some text := o.value? "t" then
    if !(text.all fun c => c.isDigit || c = '.') || text.isEmpty then
      fail 1 ("invalid date format " ++ Quoting.always text)
  if let some path := o.value? "r" then
    if let .error e ← instant (Stat.ofPath true path) then
      fail 1 ("failed to get attributes of " ++ quoted path e)
  if o.operands.isEmpty then misuse 1 "missing file operand"
  forEach o.operands (touchOne !(o.isSet "c" || o.isSet "h"))

def mktempLetters : List Char := "abcdefghijklmnopqrstuvwxyzABCDEFGHIJKLMNOPQRSTUVWXYZ0123456789".toList

/-- A name in the place of a template: the characters `X` at its end are others. -/
def madeName (template : String) (number : Nat) : String :=
  let cs := template.toList.reverse
  let marks := (cs.takeWhile (· = 'X')).length
  let digits := (List.range marks).map fun place =>
    mktempLetters.getD (number / mktempLetters.length.pow place % mktempLetters.length) 'a'
  String.ofList ((digits ++ cs.drop marks).reverse)

/-- Makes a file or a directory with a name that is free. -/
def makeFree (directory : Bool) (template : String) : Nat → Nat → Tool Unit
  | 0, _ => fail 1 ("failed to create file via template " ++
      Quoting.always template ++ ": " ++ Errno.alreadyExists.sentence)
  | bound + 1, number => do
      let path := madeName template number
      let made ←
        if directory then makeDirectory (some 0o700) path
        else do
          match ← instant (World.openPath
              { writes := true, creates := true, fresh := true, mode := 0o600 } path) with
          | .ok d => do
              close d
              pure (.ok ())
          | .error e => pure (.error e)
      match made with
      | .ok () => putText (path ++ "\n")
      | .error e =>
          if e = .alreadyExists then makeFree directory template bound (number + 1)
          else fail 1 ("failed to create " ++ (if directory then "directory" else "file") ++
            " via template " ++ quoted template e)

def mktemp : Tool Unit := do
  let o ← options 1 "dqup:t" "directory=d quiet=q dry-run=u suffix: tmpdir::=p"
  if let some extra := o.operands[1]? then
    let _ := extra
    misuse 1 "too many templates"
  let template := o.operands.headD "tmp.XXXXXXXXXX"
  if !template.endsWith "XXX" then
    fail 1 ("too few X's in template " ++ Quoting.always template)
  let template := if o.operands.isEmpty || o.isSet "p" || o.isSet "t" then
      below (match o.value? "p" with
        | some directory => if directory.isEmpty then "/tmp" else directory
        | none => "/tmp") template
    else template
  makeFree (o.isSet "d") template 1000 (← world).system.clock

/-! ### Links -/

structure Linking where
  symbolic : Bool
  force : Bool
  verbose : Bool
  /-- What a symbolic link in the source leads to gets the name. -/
  follows : Bool
  deriving DecidableEq, Repr

def linkOne (l : Linking) (source target : String) : Tool Unit := do
  if !l.symbolic then
    match ← instant (Stat.ofPath l.follows source) with
    | .error e => do
        complain ("failed to access " ++ quoted source e)
        return ()
    | .ok s =>
        if s.kind = .directory then
          complain (Quoting.ifNeeded source ++ ": hard link not allowed for directory")
          return ()
  let make : Tool (Except Errno Unit) := instant (World.change fun t cwd =>
    if l.symbolic then t.makeLink cwd source target else t.nameAgain l.follows cwd source target)
  let made ← make
  let isTaken := match made with
    | .error e => decide (e = .alreadyExists)
    | .ok () => false
  if l.force && isTaken then
    let a ← instant (Stat.ofPath l.symbolic source)
    let b ← instant (Stat.ofPath false target)
    if let (.ok a, .ok b) := (a, b) then
      if a.node = b.node then
        complain (Quoting.always source ++ " and " ++ Quoting.always target ++ " are the same file")
        return ()
  let made ← if l.force && isTaken then do
      let _ ← instant (World.change fun t cwd => t.removeFile cwd target)
      make
    else pure made
  let arrow := if l.symbolic then " -> " else " => "
  match made with
  | .ok () =>
      if l.verbose then
        putText (Quoting.always target ++ arrow ++ Quoting.always source ++ "\n")
  | .error e =>
      let names := if e = .alreadyExists || (l.symbolic && !source.isEmpty) then
          Quoting.always target
        else Quoting.always target ++ arrow ++ Quoting.always source
      complain ("failed to create " ++ (if l.symbolic then "symbolic" else "hard") ++ " link " ++
        names ++ ": " ++ e.sentence)

/-- The operand that is the directory for all others, and those. -/
def directoryAndSources (o : Options) (follows : Bool) : Tool (Option String × List String) := do
  match o.value? "t" with
  | some directory =>
      match ← instant (Stat.ofPath true directory) with
      | .ok s =>
          if s.kind = .directory then return (some directory, o.operands)
          else fail 1 ("target directory " ++ quoted directory .notDirectory)
      | .error e => fail 1 ("target directory " ++ quoted directory e)
  | none =>
      let last := o.operands.getLast?.getD ""
      let isDirectory ← match ← instant (Stat.ofPath follows last) with
        | .ok s => pure (decide (s.kind = .directory))
        | .error _ => pure false
      if o.operands.length = 2 && !isDirectory then return (none, o.operands)
      else if isDirectory then return (some last, o.operands.dropLast)
      else
        match ← instant (Stat.ofPath true last) with
        | .ok _ => fail 1 ("target " ++ quoted last .notDirectory)
        | .error e => fail 1 ("target " ++ quoted last e)

def ln : Tool Unit := do
  let o ← options 1 "bdfFinrst:vLPS:T"
    ("backup::=b directory=d no-dereference=n no-target-directory=T force=f interactive=i " ++
      "suffix:=S target-directory:=t logical=L physical=P relative=r symbolic=s verbose=v")
  let l : Linking := {
    symbolic := o.isSet "s", force := o.isSet "f", verbose := o.isSet "v", follows := o.isSet "L" }
  match o.operands with
  | [] => misuse 1 "missing file operand"
  | [only] =>
      if o.isSet "t" then
        let (directory, _) ← directoryAndSources o true
        linkOne l only (below (directory.getD "") (lastName only))
      else if o.isSet "T" then
        misuse 1 ("missing destination file operand after " ++ Quoting.always only)
      else linkOne l only ("./" ++ lastName only)
  | [source, target] => do
      if o.isSet "T" then
        linkOne l source target
        return ()
      let (directory, sources) ← directoryAndSources o (!o.isSet "n")
      match directory with
      | none => linkOne l source target
      | some directory => forEach sources fun s => linkOne l s (below directory (lastName s))
  | _ :: _ :: extra :: _ => do
      if o.isSet "T" then misuse 1 ("extra operand " ++ Quoting.always extra)
      let (directory, sources) ← directoryAndSources o (!o.isSet "n")
      forEach sources fun s => linkOne l s (below (directory.getD "") (lastName s))

def link : Tool Unit := do
  let o ← options 1 "" ""
  match o.operands with
  | [] => misuse 1 "missing operand"
  | [only] => misuse 1 ("missing operand after " ++ Quoting.plain only)
  | [source, target] => do
      if let .error e ← instant (World.change fun t cwd => t.nameAgain false cwd source target) then
        fail 1 ("cannot create link " ++ Quoting.always target ++ " to " ++ quoted source e)
  | _ :: _ :: extra :: _ => misuse 1 ("extra operand " ++ Quoting.plain extra)

/-! ### Permissions -/

/-- How `chmod` works. -/
structure Permitting where
  change : ModeChange
  /-- The change was written like an option. -/
  spelledAsOption : Bool
  recursive : Bool
  silent : Bool
  verbose : Bool
  /-- Only what changed is told of. -/
  tellsChanges : Bool
  deriving DecidableEq, Repr

/-- Permission bits as letters. -/
def modeLetters (mode : Nat) : String :=
  let bit (n : Nat) (c : Char) : Char := if mode &&& n != 0 then c else '-'
  let last (run special : Nat) (c : Char) : Char :=
    if mode &&& special = 0 then bit run 'x'
    else if mode &&& run != 0 then c else c.toUpper
  String.ofList [
    bit 0o400 'r', bit 0o200 'w', last 0o100 0o4000 's',
    bit 0o40 'r', bit 0o20 'w', last 0o10 0o2000 's',
    bit 0o4 'r', bit 0o2 'w', last 0o1 0o1000 't']

def modeDigits (mode : Nat) : String := String.ofList ((mode / 512 % 8 + 48 |> Char.ofNat) ::
  Quoting.octal (mode % 512))

def chmodOne (p : Permitting) (path : String) (s : Stat) : Tool Unit := do
  let isDirectory := s.kind = .directory
  let w ← world
  let mode := p.change.apply isDirectory w.self.mask s.mode
  instant (modify fun w => { w with system := { w.system with
    tree := w.system.tree.modify s.node ({ · with mode := mode }) } })
  if p.verbose || (p.tellsChanges && mode != s.mode) then
    let shown (m : Nat) : String := modeDigits m ++ " (" ++ modeLetters m ++ ")"
    putText ("mode of " ++ Quoting.always path ++
      (if mode = s.mode then " retained as " ++ shown mode
        else " changed from " ++ shown s.mode ++ " to " ++ shown mode) ++ "\n")
  if p.spelledAsOption then
    let naive := p.change.apply isDirectory 0 s.mode
    if Mode.without mode naive != 0 then
      complain (path ++ ": new permissions are " ++ modeLetters mode ++ ", not " ++
        modeLetters naive)

def chmodTree (p : Permitting) : Nat → Bool → String → Tool Unit
  | 0, _, _ => return ()
  | depth + 1, top, path => do
      let isLink ← instant (testPath 'h' path)
      if isLink && !top then return ()
      match ← instant (Stat.ofPath true path) with
      | .error e => do
          blame 1
          if !p.silent then
            warn (if isLink && e = .noEntry then
                "cannot operate on dangling symlink " ++ Quoting.always path
              else "cannot access " ++ quoted path e)
      | .ok s => do
          chmodOne p path s
          if p.recursive && s.kind = .directory then
            let names ← namesWithin s.node
            names.forM fun name => chmodTree p depth false (below path name)

/-- An argument that begins with a dash and is a change of permissions all the same. -/
def isModeArgument (argument : String) : Bool :=
  match argument.toList with
  | '-' :: c :: _ => "rwxXstugoa,+=01234567".toList.contains c
  | _ => false

def chmod : Tool Unit := do
  let given := (← read).arguments
  let options := given.takeWhile (· != "--")
  let spelled := options.filter isModeArgument
  let o ← optionsOf 1 "Rcfv"
    ("changes=c recursive=R no-preserve-root preserve-root quiet=f reference: silent=f " ++
      "verbose=v")
    (options.filter (!isModeArgument ·) ++ given.drop options.length)
  let last := match o.operands.getLast?, spelled.getLast? with
    | some operand, _ => operand
    | none, some mode => mode
    | none, none => ""
  let named := spelled.isEmpty && !o.isSet "reference"
  let (text, files) := if named then (o.operands.headD "", o.operands.drop 1)
    else (",".intercalate spelled, o.operands)
  if files.isEmpty then
    if named && o.operands.isEmpty then misuse 1 "missing operand"
    misuse 1 ("missing operand after " ++ Quoting.plain last)
  let change ← match o.value? "reference" with
    | some path =>
        match ← instant (Stat.ofPath true path) with
        | .ok s => pure (ModeChange.exactly s.mode 5)
        | .error e => fail 1 ("failed to get attributes of " ++ quoted path e)
    | none =>
        match Mode.ofText? text with
        | some change => pure change
        | none => misuse 1 ("invalid mode: " ++ Quoting.plain text)
  let p : Permitting := {
    change := change, spelledAsOption := !spelled.isEmpty, recursive := o.isSet "R"
    silent := o.isSet "f", verbose := o.last? ["c", "v"] = some "v"
    tellsChanges := o.last? ["c", "v"] = some "c" }
  forEach files fun path => do
    if p.recursive && path = "/" then
      warn "it is dangerous to operate recursively on '/'"
      warn "use --no-preserve-root to override this failsafe"
      blame 1
    else chmodTree p deepestTree true path

end LineShell.Machine.Tool
