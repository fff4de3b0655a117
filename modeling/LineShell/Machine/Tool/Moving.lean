import LineShell.Machine.Tool.Making

/-!
Tools that copy files and directories, and tools that give them other names.
-/

namespace LineShell.Machine.Tool

/-- What becomes of a file that is in the way. -/
inductive Overwriting where
  | always
  | asked
  | never
  /-- Only if it is older. -/
  | older
  deriving DecidableEq, Repr

structure Duplication where
  recursive : Bool
  /-- Links are copied as links. -/
  keepsLinks : Bool
  overwriting : Overwriting
  force : Bool
  verbose : Bool
  /-- Permissions and times are kept. -/
  preserves : Bool
  hard : Bool
  symbolic : Bool
  deriving DecidableEq, Repr

def quotedPair (source target : String) : String :=
  Quoting.always source ++ " and " ++ Quoting.always target

def quotedMove (source target : String) : String :=
  Quoting.always source ++ " -> " ++ Quoting.always target

/-- Whether a file in the way may be replaced. A refusal is told of as `refusal` says. -/
def mayReplace (overwriting : Overwriting) (refusal : Tool Unit) (source : Stat) (target : Stat)
    (path : String) : Tool Bool := do
  match overwriting with
  | .always => return true
  | .older => return decide (target.stamp < source.stamp)
  | .never => do
      refusal
      return false
  | .asked => do
      let yes ← confirm ("overwrite " ++ Quoting.always path)
      if !yes then blame 1
      return yes

/-- The bytes of a file that can be read. -/
def readAll (path : String) : Tool (Except Errno Bytes) := do
  match ← openInput path with
  | .error e => return .error e
  | .ok d => do
      let bytes ← everything d
      close d
      return bytes

/-- Copies the bytes of a file to a file. -/
def copyBytes (c : Duplication) (source target : String) (s : Stat) (isNew : Bool) :
    Tool Unit := do
  match ← readAll source with
  | .error e => complain ("error reading " ++ quoted source e)
  | .ok bytes => do
      match ← instant (World.openPath { Opening.forWriting with mode := s.mode &&& 0o777 } target) with
      | .error e =>
          let isSlashed := isNew && target.endsWith "/"
          complain ("cannot create regular file " ++
            quoted target (if isSlashed then .notDirectory else e))
      | .ok d => do
          if let some e ← writeTo d bytes then
            complain ("error writing " ++ quoted target e)
          if c.preserves then
            if let .ok t ← instant (Stat.ofPath true target) then
              instant (modify fun w => { w with system := { w.system with
                tree := w.system.tree.modify t.node
                  ({ · with mode := s.mode, stamp := s.stamp }) } })
          close d

/-- Copies one thing that is no directory. -/
def copyOne (c : Duplication) (source target : String) (s : Stat) (old : Option Stat) :
    Tool Unit := do
  if let some t := old then
    if t.kind = .directory then
      complain ("cannot overwrite directory " ++ Quoting.always target ++ " with non-directory")
      return ()
    if t.node = s.node then
      complain (quotedPair source target ++ " are the same file")
      return ()
    let refusal : Tool Unit := return ()
    if !(← mayReplace c.overwriting refusal s t target) then return ()
  let isDangling := old.isNone && (← instant (testPath 'h' target))
  let makesLink := c.hard || c.symbolic || s.kind = .link
  if isDangling && !makesLink then
    complain ("not writing through dangling symlink " ++ Quoting.always target)
    return ()
  if makesLink then
    let linkText ← if s.kind = .link && !c.symbolic then linkTarget s.node else pure source
    let make : Tool (Except Errno Unit) := instant (World.change fun t cwd =>
      if c.hard then t.nameAgain (!c.keepsLinks) cwd source target
      else t.makeLink cwd linkText target)
    if s.kind = .link && !c.hard && (old.isSome || isDangling) then
      let _ ← instant (World.change fun t cwd => t.removeFile cwd target)
    match ← make with
    | .ok () => if c.verbose then putText (quotedMove source target ++ "\n")
    | .error e => complain ("cannot create " ++ (if c.hard then "hard" else "symbolic") ++
        " link " ++ Quoting.always target ++
        (if c.hard then " to " ++ Quoting.always source else "") ++ ": " ++ e.sentence)
  else
    if c.verbose then putText (quotedMove source target ++ "\n")
    copyBytes c source target s old.isNone

/-- A path under which something is to be copied, and the one that it is to get. -/
structure Route where
  source : String
  target : String
  deriving DecidableEq, Repr

/-- Copies a file, or a directory with what is in it. The directories made so far are not copied,
and those are what is given back. The operand at the top is `top`. -/
def copyTree (c : Duplication) : Nat → Route → Route → List NodeId → Tool (List NodeId)
  | 0, _, _, made => return made
  | depth + 1, top, r, made => do
      let old ← match ← instant (Stat.ofPath true r.target) with
        | .ok t => pure (some t)
        | .error e => do
            if e != .noEntry then
              complain ("cannot stat " ++ quoted r.target e)
              return made
            pure none
      match ← instant (Stat.ofPath (!c.keepsLinks) r.source) with
      | .error e => do
          complain ("cannot stat " ++ quoted r.source e)
          return made
      | .ok s =>
          if s.kind != .directory then
            copyOne c r.source r.target s old
            return made
          if !c.recursive then
            complain ("-r not specified; omitting directory " ++ Quoting.always r.source)
            return made
          if made.contains s.node then
            complain ("cannot copy a directory, " ++ Quoting.always top.source ++ ", into itself, " ++
              Quoting.always top.target)
            return made
          if old.any (·.kind != .directory) then
            complain ("cannot overwrite non-directory " ++ Quoting.always r.target ++
              " with directory " ++ Quoting.always r.source)
            return made
          let made ← if old.isSome then pure made else do
            let w ← world
            let mode := if c.preserves then s.mode else Mode.without s.mode w.self.mask
            match ← makeDirectory (some mode) r.target with
            | .error e => do
                complain ("cannot create directory " ++ quoted r.target e)
                return made
            | .ok () => do
                if c.verbose then putText (quotedMove r.source r.target ++ "\n")
                match ← instant (Stat.ofPath true r.target) with
                | .ok t => pure (t.node :: made)
                | .error _ => pure made
          let names ← namesWithin s.node
          names.foldlM (fun made name =>
            copyTree c depth top ⟨below r.source name, below r.target name⟩ made) made

/-- The place of a source in a directory. -/
def placeIn (directory source : String) : String := below directory (lastName source)

/-- Sources and where they go, as the operands say. -/
def routes (o : Options) : Tool (Option String × List String) := do
  match o.operands with
  | [] => misuse 1 "missing file operand"
  | [only] =>
      if o.isSet "t" then directoryAndSources o true
      else misuse 1 ("missing destination file operand after " ++ Quoting.always only)
  | _ :: _ :: rest =>
      if o.isSet "T" then
        if let extra :: _ := rest then misuse 1 ("extra operand " ++ Quoting.always extra)
        return (none, o.operands)
      else directoryAndSources o true

def overwritingOf (o : Options) : Overwriting :=
  match o.last? ["i", "n", "f", "u"] with
  | some "i" => .asked
  | some "n" => .never
  | some "u" =>
      match (o.value? "u").getD "" with
      | "all" => .always
      | "none" => .never
      | _ => .older
  | _ => .always

/-- Copies the sources into a directory, each of them once. -/
def copySources (c : Duplication) (directory : String) : List String → List String → Tool Unit
  | [], _ => return ()
  | source :: rest, seen => do
      if seen.contains source then
        warn ("warning: source file " ++ Quoting.always source ++ " specified more than once")
      else
        let r : Route := ⟨source, placeIn directory source⟩
        let _ ← copyTree c deepestTree r r []
      copySources c directory rest (source :: seen)

def cp : Tool Unit := do
  let o ← options 1 "abdfHilLnprRst:uvxPS:TZ"
    ("archive=a attributes-only backup::=b copy-contents debug dereference=L force=f " ++
      "interactive=i link=l no-clobber=n no-dereference=P no-preserve: no-target-directory=T " ++
      "one-file-system=x parents path=parents preserve::=preserve recursive=r " ++
      "remove-destination sparse: reflink:: strip-trailing-slashes suffix:=S symbolic-link=s " ++
      "target-directory:=t update::=u verbose=v context::")
  if o.last? ["i", "n", "f"] = some "n" then
    warn ("warning: behavior of -n is non-portable and may change in future; " ++
      "use --update=none instead")
  let recursive := ["a", "r", "R"].any o.isSet
  let keepsLinks := match o.last? ["a", "d", "L", "P"] with
    | some "L" => false
    | some _ => true
    | none => recursive && !o.isSet "H"
  let c : Duplication := {
    recursive := recursive, keepsLinks := keepsLinks, overwriting := overwritingOf o
    force := o.isSet "f", verbose := o.isSet "v"
    preserves := ["a", "p", "preserve"].any o.isSet, hard := o.isSet "l", symbolic := o.isSet "s" }
  let (directory, sources) ← routes o
  match directory, sources with
  | some directory, sources => copySources c directory sources []
  | none, [source, target] => do
      let r : Route := ⟨source, target⟩
      if target.isEmpty && !source.isEmpty then
        if let .ok _ ← instant (Stat.ofPath true source) then
          complain ("cannot create regular file " ++ quoted target .noEntry)
          return ()
      let _ ← copyTree c deepestTree r r []
  | none, _ => return ()

/-! ### Other names -/

structure Renaming where
  overwriting : Overwriting
  verbose : Bool
  deriving DecidableEq, Repr

/-- Moves a file or a directory to another path. -/
def moveOne (r : Renaming) (source target : String) : Tool Unit := do
  match ← instant (Stat.ofPath false source) with
  | .error e => complain ("cannot stat " ++ quoted source e)
  | .ok s => do
      let old ← match ← instant (Stat.ofPath false target) with
        | .ok t => pure (some t)
        | .error e => do
            if e != .noEntry then
              complain ("cannot stat " ++ quoted target e)
              return ()
            pure none
      if let some t := old then
        if t.node = s.node then
          complain (quotedPair source target ++ " are the same file")
          return ()
        if s.kind != .directory && t.kind = .directory then
          complain ("cannot overwrite directory " ++ Quoting.always target ++ " with non-directory")
          return ()
        if s.kind = .directory && t.kind != .directory then
          complain ("cannot overwrite non-directory " ++ Quoting.always target ++
            " with directory " ++ Quoting.always source)
          return ()
        let refusal : Tool Unit := complain ("not replacing " ++ Quoting.always target)
        if !(← mayReplace r.overwriting refusal s t target) then return ()
      match ← instant (World.change fun t cwd => t.move cwd source target) with
      | .ok () =>
          if r.verbose then putText ("renamed " ++ quotedMove source target ++ "\n")
      | .error e =>
          complain (
            if e = .invalid then
              "cannot move " ++ Quoting.always source ++ " to a subdirectory of itself, " ++
                Quoting.always target
            else if e = .notEmpty || e = .alreadyExists then
              "cannot overwrite " ++ quoted target e
            else "cannot move " ++ Quoting.always source ++ " to " ++ quoted target e)

def mv : Tool Unit := do
  let o ← options 1 "bfint:uvS:TZ"
    ("backup::=b context debug force=f interactive=i no-clobber=n no-copy " ++
      "no-target-directory=T strip-trailing-slashes suffix:=S target-directory:=t update::=u " ++
      "verbose=v")
  let r : Renaming := { overwriting := overwritingOf o, verbose := o.isSet "v" }
  let (directory, sources) ← routes o
  match directory, sources with
  | some directory, sources => forEach sources fun s => moveOne r s (placeIn directory s)
  | none, [source, target] => moveOne r source target
  | none, _ => return ()

end LineShell.Machine.Tool
