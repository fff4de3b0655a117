import LineShell.Command

/-!
A place for output that has only so much room. A write that does not fit is taken as far as there is
room, and then fails.
-/

namespace LineShell

structure Bounded where
  /-- How many bytes can still be taken; `none` if any number can. -/
  room : Option Nat := none
  taken : Bytes := []
  /-- Flushing always fails. -/
  jammed : Bool := false
  deriving DecidableEq, Repr

namespace Bounded

def isFull : Fault := .other "sink is full"

def cannotFlush : Fault := .other "sink cannot be flushed"

def write (b : Bounded) (bytes : Bytes) : Except Fault Unit × Bounded :=
  match b.room with
  | none => (.ok (), { b with taken := b.taken ++ bytes })
  | some room =>
      let b := { b with room := some (room - bytes.length), taken := b.taken ++ bytes.take room }
      (if bytes.length ≤ room then .ok () else .error isFull, b)

/-- The sink of commands that run beside a bounded place. -/
def sink {σ : Type} : Sink (σ × Bounded) where
  write bytes := fun (s, b) =>
    let (result, b) := b.write bytes
    (result, (s, b))
  flush := fun (s, b) => (if b.jammed then .error cannotFlush else .ok (), (s, b))

@[simp] theorem taken_write_of_room_some {b : Bounded} {room : Nat} (h : b.room = some room)
    (bytes : Bytes) : (b.write bytes).2.taken = b.taken ++ bytes.take room := by
  simp [write, h]

end Bounded

end LineShell
