import LineShell.Proofs.Rehearsal

/-!
A system on which not all goes well: only so many descriptors can be open at a time, and some of them
lead to a device that is full. Otherwise it does as the one on which all goes well.
-/

namespace LineShell

structure Setback where
  rehearsal : Rehearsal := {}
  /-- How many descriptors can be open. -/
  limit : Nat := 1024
  /-- The descriptors that lead to a full device. -/
  full : List Descriptor := []

namespace Setback

variable {α : Type}

def easily (m : StateM Rehearsal α) : StateM Setback α := fun s =>
  let (a, rehearsal) := m s.rehearsal
  (a, { s with rehearsal := rehearsal })

/-- Opens `count` descriptors, if so many can be had. -/
def opening (count : Nat) (m : StateM Rehearsal (Except Errno α)) : StateM Setback (Except Errno α) :=
  fun s => if s.rehearsal.inUse.length + count ≤ s.limit then easily m s else (.error .tooManyOpen, s)

/-- From now on the second descriptor leads to where the first does. -/
def lead (source target : Descriptor) : StateM Setback Unit :=
  modify fun s =>
    let others := s.full.filter (· != target)
    { s with full := if s.full.contains source then target :: others else others }

/-- Opens another descriptor for the stream of `d`, if it can be had. -/
def alike (d : Descriptor) (m : StateM Rehearsal (Except Errno Descriptor)) :
    StateM Setback (Except Errno Descriptor) := do
  let answer ← opening 1 m
  match answer with
  | .ok copy => lead d copy
  | .error _ => pure ()
  return answer

instance : Environment Setback where
  currentDirectory := easily Environment.currentDirectory
  changeDirectory path := easily (Environment.changeDirectory path)
  value? name := easily (Environment.value? name)
  setVariable name value := easily (Environment.setVariable name value)
  accountHome? := easily Environment.accountHome?
  complain text := easily (Environment.complain text)
  readInput := easily Environment.readInput

instance : Kernel Setback where
  pipe := opening 2 Kernel.pipe
  close d := do
    modify fun s => { s with full := s.full.filter (· != d) }
    easily (Kernel.close d)
  duplicate d := alike d (Kernel.duplicate d)
  keep d := alike d (Kernel.keep d)
  replace source target := do
    lead source target
    easily (Kernel.replace source target)
  write d bytes := fun s =>
    if s.full.contains d then (.error (0, .noSpace), s) else easily (Kernel.write d bytes) s
  fork child := easily (Kernel.fork child)
  wait pid := easily (Kernel.wait pid)
  pending d := easily (Kernel.pending d)
  skip d count := easily (Kernel.skip d count)
  openFile path := easily (Kernel.openFile path)
  openLog path := easily (Kernel.openLog path)
  saveFile path bytes := easily (Kernel.saveFile path bytes)

end Setback

end LineShell
