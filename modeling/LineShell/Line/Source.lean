import LineShell.Error
import LineShell.Text.Utf8

/-!
Lines read from a source of bytes, one byte at a time, so that whatever stands after the line read
last is still to be had from the source.
-/

namespace LineShell

/-- What a source answers to one demand for bytes. -/
inductive Chunk where
  /-- Bytes to be handed out as they are asked for. -/
  | data (bytes : Bytes)
  /-- The source is at its end for now. -/
  | ended
  | failed (fault : Fault)
  deriving DecidableEq, Repr

/-- A bound on the number of lines that a chunk can end. -/
def Chunk.size : Chunk → Nat
  | .data bytes => bytes.length + 1
  | _ => 1

structure Source where
  /-- The part of the current chunk that nobody has read. -/
  unread : Bytes := []
  /-- The chunks not taken up. After the last one the source is at its end for good. -/
  pending : List Chunk := []
  deriving DecidableEq, Repr

namespace Source

/-- All bytes up to the next end or failure, and the failure. -/
def contents (s : Source) : Bytes × Option Fault :=
  go s.unread s.pending
where
  go (bytes : Bytes) : List Chunk → Bytes × Option Fault
    | [] | .ended :: _ => (bytes, none)
    | .data more :: later => go (bytes ++ more) later
    | .failed fault :: later => if fault.isInterruption then go bytes later else (bytes, some fault)

def ofBytes (bytes : Bytes) : Source := { unread := bytes }

/-- A bound on the number of lines the source still holds. -/
def size (s : Source) : Nat :=
  s.pending.foldr (fun c n => n + c.size) s.unread.length

/-- Reads on, after the bytes `line`, up to the next newline, the next end or the next failure.
An interruption is none. The bytes of a line that is not returned are lost. -/
def readFrom (line : Bytes) (unread : Bytes) (pending : List Chunk) :
    Except Fault (Option Bytes) × Source :=
  let line := line ++ unread.takeWhile (· != Utf8.newline)
  match unread.dropWhile (· != Utf8.newline) with
  | _ :: rest => (.ok (some line), ⟨rest, pending⟩)
  | [] =>
      match pending with
      | [] => (.ok (if line.isEmpty then none else some line), ⟨[], []⟩)
      | .data bytes :: later => readFrom line bytes later
      | .ended :: later => (.ok (if line.isEmpty then none else some line), ⟨[], later⟩)
      | .failed fault :: later =>
          if fault.isInterruption then readFrom line [] later
          else (.error fault, ⟨[], later⟩)

/-- The bytes of the next line without its newline, or `none` at the end. -/
def readBytes (s : Source) : Except Fault (Option Bytes) × Source :=
  readFrom [] s.unread s.pending

/-- The next line as text. -/
def readLine (s : Source) : Except Fault (Option String) × Source :=
  let (line, s) := s.readBytes
  (line.map (·.map Utf8.decodeLossy), s)

end Source

end LineShell
