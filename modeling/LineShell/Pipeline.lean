import LineShell.Pipeline.Task

/-!
Running a job. The tasks are started one after another, each reading from the pipe before it and
writing to the pipe after it, and the shell gives up its ends of these two as soon as the task is
started. Only then does it wait for those that run in processes of their own. A builtin command that
ends the shell keeps the tasks after it from being started.
-/

namespace LineShell

namespace Job

variable {κ : Type} [Kernel κ]

/-- Starts the tasks from number `i` on, where `pipes` is what the shell holds of the pipes of the
job. The result is the status of the command that ended the shell, if there was one. No end is left
open. -/
def start (registry : Registry (Console κ)) (i : Nat) (pipes : List HeldPipe) :
    List Task → StateM (Console κ) (Except Error (Option Status) × List Task)
  | [] => do
      Console.call (Pipe.closeAll (pipes.flatMap HeldPipe.ends))
      return (.ok none, [])
  | task :: rest => do
      let streams := Streams.ofTask pipes i
      let (result, task) ← Task.run registry streams (pipes.flatMap HeldPipe.ends) task
      Console.call (Pipe.closeAll streams.ends)
      let pipes := HeldPipe.release pipes i
      match result with
      | .error e =>
          Console.call (Pipe.closeAll (pipes.flatMap HeldPipe.ends))
          return (.error e, task :: rest)
      | .ok (some (.terminate exit)) =>
          Console.call (Pipe.closeAll (pipes.flatMap HeldPipe.ends))
          return (.ok (some (.terminate exit)), task :: rest)
      | .ok _ =>
          let (result, tasks) ← start registry (i + 1) pipes rest
          return (result, task :: tasks)

/-- Waits for the tasks that have a process, in order. One that cannot be waited for has failed. -/
def reap : List Task → StateM κ (List Task)
  | [] => return []
  | task :: rest => do
      let task ← match task.pid with
        | none => pure task
        | some pid => do
            match Wait.settle (← Kernel.wait pid) with
            | .ok status => pure (task.withStatus status)
            | .error _ => pure (task.withStatus .failure)
      return task :: (← reap rest)

/-- The status of the last task. -/
def lastTaskStatus (tasks : List Task) : Status :=
  .proceed ((tasks.getLast?.bind Task.status).getD .success)

/-- Runs a job to its end. -/
def execute (registry : Registry (Console κ)) (job : Job) :
    StateM (Console κ) (Except Error Status × Job) := do
  match ← Console.call (Pipe.openMany (job.tasks.length - 1)) with
  | .error e => return (.error (.pipe e), job)
  | .ok pipes =>
      let (result, tasks) ← start registry 0 (pipes.map HeldPipe.ofPipe) job.tasks
      match result with
      | .error e => return (.error e, { job with tasks := tasks })
      | .ok terminated =>
          let tasks ← Console.call (reap tasks)
          let status := terminated.getD (lastTaskStatus tasks)
          return (.ok status, { tasks := tasks, lastStatus := some status })

end Job

end LineShell
