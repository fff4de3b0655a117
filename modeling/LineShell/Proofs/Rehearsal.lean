import LineShell.Builtin
import LineShell.Console

/-!
A system on which all goes well. It hands out the lowest descriptors that are free and the next
process numbers, takes whatever is written, and answers waiting with replies that are laid down
beforehand.
-/

namespace LineShell

structure Rehearsal where
  /-- The descriptors of the shell that are open. -/
  inUse : List Descriptor := [0, 1, 2]
  lastPid : Pid := 1
  /-- What waiting brings, one call after another. -/
  endings : List (List WaitReply) := []
  settings : List (String × SystemText) := []
  directory : SystemText := "/"

namespace Rehearsal

/-- The lowest descriptor that is free. -/
def free (r : Rehearsal) : Descriptor :=
  ((List.range r.inUse.length).find? fun d => !r.inUse.contains d).getD r.inUse.length

def take (r : Rehearsal) : Descriptor × Rehearsal := (r.free, { r with inUse := r.free :: r.inUse })

instance : Environment Rehearsal where
  currentDirectory := fun r => (.ok r.directory, r)
  changeDirectory path := fun r => (.ok (), { r with directory := path })
  value? name := fun r => (r.settings.lookup name, r)
  setVariable name value := fun r => ((), { r with settings := (name, value) :: r.settings })
  accountHome? := return none
  complain _ := return ()
  readInput := return []

instance : Kernel Rehearsal where
  pipe := fun r =>
    let (reader, r) := r.take
    let (writer, r) := r.take
    (.ok (reader, writer), r)
  close d := fun r => ((), { r with inUse := r.inUse.filter (· != d) })
  duplicate _ := fun r =>
    let (copy, r) := r.take
    (.ok copy, r)
  keep _ := fun r =>
    let (copy, r) := r.take
    (.ok copy, r)
  replace _ _ := return .ok ()
  write _ _ := return .ok ()
  fork _ := fun r => (.ok (r.lastPid + 1), { r with lastPid := r.lastPid + 1 })
  wait _ := fun r => (r.endings.headD [], { r with endings := r.endings.tail })
  pending _ := return .ok []
  skip _ _ := return ()
  openFile _ := fun r =>
    let (d, r) := r.take
    (.ok d, r)
  openLog _ := return .ok ()
  saveFile _ _ := return .ok ()

end Rehearsal

/-- The standard commands, whatever their descriptions and help texts are. A run in which none of the
texts is asked for is evaluated with these in the place of the long ones. -/
theorem Registry.exists_standard {σ : Type} [Environment σ] :
    ∃ help exit cd : String × String, (standard : Registry σ) = ⟨[
      { name := "help", description := help.1, help := help.2, body := Builtin.Help.body },
      { name := "exit", description := exit.1, help := exit.2, body := Builtin.Exit.body },
      { name := "cd", description := cd.1, help := cd.2, body := Builtin.ChangeDirectory.body }]⟩ :=
  ⟨(_, _), (_, _), (_, _), rfl⟩

end LineShell
