import LineShell.Status

/-!
Jobs and their tasks. A line holds jobs that run one after another; the tasks of a job run at the
same time, each writing to the next.
-/

namespace LineShell

/-- The number by which the operating system knows a process. -/
abbrev Pid := Int

structure Task where
  /-- The program and its arguments. A task may have none. -/
  argv : List String := []
  /-- The process that runs the task, if it runs in one of its own. -/
  pid : Option Pid := none
  status : Option ExitStatus := none
  deriving DecidableEq, Repr

namespace Task

def ofArgv (argv : List String) : Task := { argv := argv }

def push (t : Task) (arg : String) : Task := { t with argv := t.argv ++ [arg] }

def program? (t : Task) : Option String := t.argv.head?

def isEmpty (t : Task) : Bool := t.argv.isEmpty

def withPid (t : Task) (pid : Pid) : Task := { t with pid := some pid }

def withStatus (t : Task) (status : ExitStatus) : Task := { t with status := some status }

def render (t : Task) : String := " ".intercalate t.argv

@[simp] theorem argv_withPid (t : Task) (p : Pid) : (t.withPid p).argv = t.argv := rfl

@[simp] theorem argv_withStatus (t : Task) (s : ExitStatus) : (t.withStatus s).argv = t.argv := rfl

end Task

structure Job where
  tasks : List Task := []
  /-- The outcome of the last run that came to an end. -/
  lastStatus : Option Status := none
  deriving DecidableEq, Repr

namespace Job

def ofArgvs (argvs : List (List String)) : Job := { tasks := argvs.map Task.ofArgv }

def push (j : Job) (t : Task) : Job := { j with tasks := j.tasks ++ [t] }

def argvs (j : Job) : List (List String) := j.tasks.map Task.argv

def size (j : Job) : Nat := j.tasks.length

def isEmpty (j : Job) : Bool := j.tasks.isEmpty

def render (j : Job) : String := " | ".intercalate (j.tasks.map Task.render)

@[simp] theorem argvs_ofArgvs (argvs : List (List String)) : (ofArgvs argvs).argvs = argvs := by
  simp [Job.argvs, ofArgvs, Task.ofArgv, Function.comp_def]

end Job

end LineShell
