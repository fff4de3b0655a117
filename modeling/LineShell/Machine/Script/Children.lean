import LineShell.Machine.Script.State
import LineShell.Machine.Signal

/-!
The children of a script shell. Waiting for some of them may bring the news that others have ended,
which the shell keeps.
-/

namespace LineShell.Machine.Script

namespace Children

open Sh

/-- A bound that no loop of a script comes to. -/
def patience : Nat := 100000000

/-- What a process does that runs a part of the script and then ends. The traps of its parent do not
count for it. -/
def program (whole : Whole) (state : State) (body : Sh Unit) : Program :=
  let state := { state with traps := state.traps.filter (·.2.isEmpty), jobs := [] }
  Act.instant (modify fun w => { w with self := { w.self with caught := [], arrived := [] } })
    fun () => ((body whole).run).run state fun (_, state) => whole.leave state

/-- Starts a process that runs a part of the script. -/
def fork (body : Sh Unit) : Sh Pid := do
  let whole ← read
  let state ← state
  act (.fork (program whole state body))

/-- Says which signal has ended a child, but for signals that are nothing unusual. -/
def tell (ending : Ending) : Sh Unit := do
  match ending with
  | .killed signal =>
      let signal := signal.toNat
      if signal != Signal.interrupt && signal != Signal.pipe then
        say (Signal.description signal ++ "\n")
  | .exited _ => return ()

/-- Notes that a child has ended that the shell did not wait for. -/
def note (pid : Pid) (ending : Ending) : Sh Unit := update fun s =>
  { s with jobs := s.jobs.map fun job =>
      if job.pids.contains pid then { job with ended := (pid, endingStatus ending) :: job.ended }
      else job }

/-- Waits until all of some children have ended, and gives the status of the last one among them.
`ended` has those that have. -/
def awaitAll (pids : List Pid) : Nat → List (Pid × Int) → Sh Int
  | 0, _ => return 0
  | bound + 1, ended => do
      if pids.all fun pid => ended.any (·.1 = pid) then
        return (ended.lookup (pids.getLast?.getD 0)).getD 0
      match ← act (.wait none .endless) with
      | .ended pid ending =>
          if pids.contains pid then
            tell ending
            awaitAll pids bound ((pid, endingStatus ending) :: ended)
          else
            note pid ending
            awaitAll pids bound ended
      | _ => return 0

/-- Waits for some children, and gives the status of the last one. -/
def await (pids : List Pid) : Sh Int := awaitAll pids patience []

/-- Keeps children in mind that run in the background. -/
def keep (pids : List Pid) : Sh Unit := update fun s =>
  { s with jobs := s.jobs ++ [{ pids := pids }], background := pids.getLast? }

/-- What a child does first that runs in the background: it ignores interruptions, and has nothing to
read. -/
def retire (isFirst : Bool) : Sh Unit := do
  instant (modify fun w =>
    { w with self := { w.self with ignored := w.self.ignored ++ [Signal.interrupt, Signal.quit] } })
  if isFirst then
    let _ ← instant (World.close Descriptor.input)
    let _ ← instant (World.openPath .forReading "/dev/null")

end Children

end LineShell.Machine.Script
