import LineShell.Machine.Script.Expansion
import LineShell.Machine.Stat

/-!
Redirections. What a command is given instead of the shell's own descriptors can be taken back, since
the shell keeps those out of the way.
-/

namespace LineShell.Machine.Script

/-- A descriptor that was replaced, and the one that keeps what it stood for, if it did for anything. -/
structure Kept where
  target : Descriptor
  copy : Option Descriptor

namespace Redirecting

open Sh

/-- Descriptors that the shell keeps for itself are not below this. -/
def keptFrom : Descriptor := 10

/-- How the script shell tells of a file that it cannot open. -/
def reason (e : Errno) (missing : String) : String :=
  if e = .noEntry || e = .notDirectory then missing else e.sentence

/-- Opens the file of a redirection. -/
def openFile (path : String) (opening : Opening) (verb missing : String) : Sh Descriptor := do
  match ← instant (World.openPath opening path) with
  | .ok d => return d
  | .error e => fail ("cannot " ++ verb ++ " " ++ path ++ ": " ++ reason e missing)

/-- Opens a file for writing that must not be there yet, unless it is no regular file. -/
def openNew (path : String) : Sh Descriptor := do
  let refuse (verb : String) (e : Errno) : Sh Descriptor :=
    fail ("cannot " ++ verb ++ " " ++ path ++ ": " ++ reason e "Directory nonexistent")
  match ← instant (Stat.ofPath true path) with
  | .error _ =>
      match ← instant (World.openPath { writes := true, creates := true, fresh := true } path) with
      | .ok d => return d
      | .error e => refuse "create" e
  | .ok found =>
      if found.kind = .regular then refuse "create" .alreadyExists
      else
        match ← instant (World.openPath { writes := true } path) with
        | .ok d => return d
        | .error e => refuse "open" e

def documentRoom : Nat := 4096

/-- Opens a pipe that a text can be read from. -/
def openDocument (text : String) : Sh Descriptor := do
  match ← instant World.pipe with
  | .error e => fail ("Pipe call failed: " ++ e.sentence)
  | .ok (reader, writer) => do
      if text.length ≤ documentRoom then
        let _ ← write writer text
      else
        let _ ← Children.fork do
          let _ ← instant (World.close reader)
          let _ ← write writer text
      let _ ← instant (World.close writer)
      return reader

/-- What a redirection leads to, as far as its word goes. -/
inductive Goal where
  | file (d : Descriptor)
  | same (d : Descriptor)
  | closed

def digit? (text : String) : Option Nat :=
  match text.toList with
  | [c] => if c.isDigit then some (c.toNat - '0'.toNat) else none
  | _ => none

/-- A redirection whose word has been expanded. -/
structure Ready where
  target : Descriptor
  route : Route
  text : String

/-- Expands the word of a redirection. -/
def prepare (r : Redirection) : Sh Ready := do
  match r.route with
  | .document number expands => do
      let word := ((← state).documents.lookup number).getD []
      let text ← if expands then Expansion.document word else pure (Expansion.textOf (← word.mapM fun
        | .text text quoted => pure (Expansion.glyphs text quoted false)
        | _ => pure []).flatten)
      return ⟨r.target, r.route, text⟩
  | .duplicate => do
      let text ← Expansion.text r.word
      if text != "-" && (digit? text).isNone then
        update fun s => { s with line := s.lineRead }
        fail "Syntax error: Bad fd number"
      return ⟨r.target, r.route, text⟩
  | _ => return ⟨r.target, r.route, ← Expansion.text r.word⟩

def goal (r : Ready) : Sh Goal := do
  match r.route with
  | .input => return .file (← openFile r.text .forReading "open" "No such file")
  | .both =>
      return .file (← openFile r.text { reads := true, writes := true, creates := true } "open"
        "No such file")
  | .append =>
      return .file (← openFile r.text .forAppending "create" "Directory nonexistent")
  | .output => do
      if ← hasOption 'C' then return .file (← openNew r.text)
      return .file (← openFile r.text .forWriting "create" "Directory nonexistent")
  | .overwriting =>
      return .file (← openFile r.text .forWriting "create" "Directory nonexistent")
  | .document .. => return .file (← openDocument r.text)
  | .duplicate =>
      match digit? r.text with
      | some d => return .same d
      | none => return .closed

/-- Keeps what a descriptor stands for out of the way. -/
def keep (target : Descriptor) : Sh Kept := do
  match ← instant (World.duplicate target keptFrom true) with
  | .ok copy => do
      return ⟨target, some copy⟩
  | .error _ => return ⟨target, none⟩

/-- Makes a descriptor stand for what a goal is. -/
def install (target : Descriptor) : Goal → Sh Unit
  | .file d => do
      if d != target then
        let _ ← instant (World.replace d target)
        let _ ← instant (World.close d)
  | .same d => do
      let _ ← instant (World.replace d target)
  | .closed => do
      let _ ← instant (World.close target)

/-- Makes one redirection, and keeps what it replaces if `keeps` says so. -/
def redirectOne (keeps : Bool) (kept : List Kept) (r : Ready) : Sh (List Kept) := do
  let goal ← goal r
  if let .same d := goal then
    if (← instant (World.file? d)).isNone then
      fail (toString d ++ ": " ++ Errno.badDescriptor.sentence)
  let isNew := keeps && !kept.any (·.target = r.target)
  let kept ← match goal with
    | .file d =>
        if !isNew then pure kept
        else if d = r.target then pure (⟨r.target, none⟩ :: kept)
        else do pure ((← keep r.target) :: kept)
    | .same d => if isNew && d != r.target then do pure ((← keep r.target) :: kept) else pure kept
    | .closed => if isNew then do pure ((← keep r.target) :: kept) else pure kept
  install r.target goal
  return kept

/-- Takes redirections back, the last one first. -/
def restore : List Kept → Sh Unit
  | [] => return ()
  | k :: rest => do
      match k.copy with
      | some copy => do
          let _ ← instant (World.replace copy k.target)
          let _ ← instant (World.close copy)
      | none => do
          let _ ← instant (World.close k.target)
      restore rest

/-- Makes redirections in order. If one fails, those before it are taken back. -/
def redirect (keeps : Bool) : List Kept → List Ready → Sh (List Kept)
  | kept, [] => return kept
  | kept, r :: rest => do
      match ← attempt (redirectOne keeps kept r) with
      | some kept => redirect keeps kept rest
      | none => do
          restore kept
          throw ()

/-- Lets go of what was kept, so that redirections stay. -/
def settle (kept : List Kept) : Sh Unit := do
  for k in kept do
    if let some copy := k.copy then
      let _ ← instant (World.close copy)

end Redirecting

end LineShell.Machine.Script
