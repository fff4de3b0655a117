import LineShell.Machine.System
import LineShell.Proofs.Job.Turn
import LineShell.Proofs.Rehearsal
import Mathlib

/-!
What a job comes to, by the turns of its tasks and the exit statuses that these end with. The tasks
before a command that ends the shell are waited for as the others are, and the tasks after it are
left alone.
-/

namespace LineShell

namespace Wait

/-- The exit status of a process by the replies to waiting for it. One that cannot be waited for has
failed. -/
def exit (replies : List WaitReply) : ExitStatus :=
  match settle replies with
  | .ok status => status
  | .error _ => .failure

/-- A reply after which the shell waits again. -/
def Retried (reply : WaitReply) : Prop :=
  reply = .error .interrupted ∨ ∃ word, reply = .ok word ∧ ending? word = .ok none

theorem settle_append_of_retried {before : List WaitReply} (h : ∀ reply ∈ before, Retried reply)
    (later : List WaitReply) : settle (before ++ later) = settle later := by
  induction before with
  | nil => rfl
  | cons reply before ih =>
      have hbefore := ih fun r hr => h r (List.mem_cons_of_mem _ hr)
      rcases h reply List.mem_cons_self with rfl | ⟨word, rfl, hword⟩
      · simpa [settle] using hbefore
      · simpa [settle, hword] using hbefore

theorem ending?_exited (code : Int) :
    ending? (Machine.waitWord (.exited code)) = .ok (some (.exited (code % 256))) := by
  have h : (⟨Machine.waitWord (.exited code)⟩ : ExitStatus) = .ofCode code := rfl
  simp only [ending?, h, ExitStatus.code?_ofCode]

theorem exit_of_exited {before : List WaitReply} (h : ∀ reply ∈ before, Retried reply)
    (code : Int) :
    exit (before ++ [.ok (Machine.waitWord (.exited code))]) = .ofCode code := by
  have hsettle : settle [.ok (Machine.waitWord (.exited code))] =
      .ok (.ofCode (code % 256)) := by
    simp only [settle, ending?_exited, endingStatus]
  rw [exit, settle_append_of_retried h, hsettle]
  simp [ExitStatus.ofCode]

theorem code?_exit_of_exited {before : List WaitReply} (h : ∀ reply ∈ before, Retried reply)
    (code : Int) :
    (exit (before ++ [.ok (Machine.waitWord (.exited code))])).code? = some (code % 256) := by
  rw [exit_of_exited h, ExitStatus.code?_ofCode]

theorem code?_exit_of_error {before : List WaitReply} (h : ∀ reply ∈ before, Retried reply)
    {e : Errno} (he : e ≠ .interrupted) (later : List WaitReply) :
    (exit (before ++ .error e :: later)).code? = some 1 := by
  have hsettle : settle (.error e :: later) = .error e := by
    rw [settle, if_neg he]
  rw [exit, settle_append_of_retried h, hsettle]
  rfl

end Wait

namespace Machine

/-- A child that cannot run its program leaves with 127 if there is no such program, and with 126
otherwise. -/
theorem childProgram_eq (argv : List String) (settings : Settings) :
    childProgram argv settings =
      Search.exec argv settings fun e =>
        .write 2 (Utf8.encode (Child.refusal (Raw.decode (argv.headD "")) e).1)
          fun _ => .done (.exited (if e = .noEntry then 127 else 126)) := by
  have hcode : ∀ e : Errno, (Child.refusal (Raw.decode (argv.headD "")) e).2 =
      if e = .noEntry then 127 else 126 := by
    intro e
    simp only [Child.refusal]
    split <;> rfl
  simp only [← hcode]
  rfl

namespace World

theorem pid_replace (source target : Descriptor) (w : World) :
    (replace source target w).2.self.pid = w.self.pid := by
  rw [replace]
  split
  · rfl
  · split <;> rfl

theorem pid_close (d : Descriptor) (w : World) : (close d w).2.self.pid = w.self.pid := by
  rw [close]
  split <;> rfl

end World

/-- A process that the machine makes for a child has the number that is told of it. It runs the
program of the child with the variables of the shell. -/
theorem running_fork {child : LineShell.Child} {m : Machine} {pid : Pid}
    (h : (Kernel.fork child m).1 = .ok pid) :
    ∃ process : Running, (Kernel.fork child m).2.running = m.running ++ [process] ∧
      process.self.pid = pid ∧
      process.program = childProgram (child.argv.map Raw.encode) m.shell.settings := by
  by_cases hstruck : m.struck.isSome
  · have hfork : Kernel.fork child m = (.error .tryAgain, m) := by
      simp [Kernel.fork, hstruck]
    rw [hfork] at h
    cases h
  · have hfork : Kernel.fork child m = (.ok m.nextPid, (launch child m).2) := by
      simp [Kernel.fork, hstruck, launch]
    rw [hfork] at h ⊢
    obtain rfl : m.nextPid = pid := Except.ok.inj h
    refine ⟨_, rfl, ?_, rfl⟩
    refine List.foldlRecOn (motive := fun w : World => w.self.pid = m.nextPid) _ _ ?_
      fun w hw d _ => (World.pid_close d w).trans hw
    exact List.foldlRecOn (motive := fun w : World => w.self.pid = m.nextPid) _ _ rfl
      fun w hw b _ => (World.pid_replace b.1 b.2 w).trans hw

end Machine

namespace Turn

variable {κ : Type} [Kernel κ]

/-- A turn that a task with these arguments can have. -/
inductive Fits (registry : Registry (Console κ)) : List String → Turn → Prop
  | empty : Fits registry [] .empty
  /-- The status is the one that the command itself comes to. -/
  | command {program : String} {args : List String} {status : Status}
      (hbuiltin : registry.isBuiltin program = true) (streams : Streams) (c : Console κ)
      (hrun : (streams.within (registry.run Console.standardOutput (program :: args)) c).1 =
        .ok (some status)) : Fits registry (program :: args) (.command status)
  | unbound {program : String} {args : List String} {e : Errno}
      (hbuiltin : registry.isBuiltin program = true) (streams : Streams) (c : Console κ)
      (hrun : (streams.within (registry.run Console.standardOutput (program :: args)) c).1 =
        .error e) : Fits registry (program :: args) (.unbound e)
  | unusable {program arg : String} {args : List String}
      (hbuiltin : registry.isBuiltin program = false) (hmem : arg ∈ program :: args)
      (hnul : arg.contains '\x00' = true) : Fits registry (program :: args) (.unusable arg)
  /-- The process is the one that the system made for these arguments. -/
  | launched {program : String} {args : List String} {pid : Pid}
      (hbuiltin : registry.isBuiltin program = false)
      (hnul : ∀ arg ∈ program :: args, arg.contains '\x00' = false) (streams : Streams)
      (held : List Descriptor) (s : κ)
      (hfork : (Kernel.fork ⟨program :: args, streams.bindings, held⟩ s).1 = .ok pid) :
      Fits registry (program :: args) (.launched pid)
  | refused {program : String} {args : List String} {e : Errno}
      (hbuiltin : registry.isBuiltin program = false)
      (hnul : ∀ arg ∈ program :: args, arg.contains '\x00' = false) (streams : Streams)
      (held : List Descriptor) (s : κ)
      (hfork : (Kernel.fork ⟨program :: args, streams.bindings, held⟩ s).1 = .error e) :
      Fits registry (program :: args) (.refused e)

/-- The exit status with which the task of a turn ends. -/
def conclude : Turn → StateM κ ExitStatus
  | command status => return status.exit
  | launched pid => do return Wait.exit (← Kernel.wait pid)
  | _ => return .failure

def concludeAll : List Turn → StateM κ (List ExitStatus)
  | [] => return []
  | turn :: rest => do
      let exit ← turn.conclude
      return exit :: (← concludeAll rest)

/-- The task of the turn ends with this exit status. It has code 1 if the task was not run, be it for
want of arguments, of its streams or of arguments that a program can be given. -/
def EndsWith (κ : Type) [Kernel κ] : Turn → ExitStatus → Prop
  | command status, exit => exit = status.exit
  | launched pid, exit => ∃ s : κ, exit = Wait.exit (Kernel.wait pid s).1
  | _, exit => exit.code? = some 1

theorem endsWith_concludeAll (turns : List Turn) (s : κ) :
    List.Forall₂ (EndsWith κ) turns (concludeAll turns s).1 := by
  induction turns generalizing s with
  | nil => exact .nil
  | cons turn rest ih =>
      refine .cons ?_ (ih _)
      cases turn with
      | launched pid => exact ⟨s, rfl⟩
      | _ => rfl

theorem length_concludeAll (turns : List Turn) (s : κ) :
    (concludeAll turns s).1.length = turns.length :=
  (endsWith_concludeAll turns s).length_eq.symm

/-- The tasks once their exit statuses are known. -/
def finishAll : List Turn → List ExitStatus → List Task → List Task
  | turn :: turns, exit :: exits, task :: rest =>
      (mark task turn).withStatus exit :: finishAll turns exits rest
  | _, _, rest => rest

end Turn

/-! ### Which turns there are -/

theorem Registry.run_isSome {σ : Type} [Environment σ] {registry : Registry σ} {program : String}
    (h : registry.isBuiltin program = true) (sink : Sink σ) (args : List String) (s : σ) :
    (registry.run sink (program :: args) s).1.isSome = true := by
  obtain ⟨command, hfind⟩ := Option.isSome_iff_exists.mp h
  simp [Registry.run, hfind]

namespace Streams

variable {κ α : Type} [Kernel κ] {streams : Streams}

theorem within_of_bound {c c' : Console κ} {saved : List Saved}
    (h : Console.call (bindAfter [] streams.bindings) (Console.flush c).2 = ((.ok (), saved), c'))
    (action : StateM (Console κ) α) :
    streams.within action c =
      (.ok (action c').1, (Console.call (restore saved) (Console.flush (action c').2).2).2) := by
  simp only [within, bind_apply, h]
  rfl

theorem within_of_unbound {c c' : Console κ} {saved : List Saved} {e : Errno}
    (h : Console.call (bindAfter [] streams.bindings) (Console.flush c).2 =
      ((.error e, saved), c')) (action : StateM (Console κ) α) :
    streams.within action c =
      (.error e, (Console.call (restore saved) (Console.flush c').2).2) := by
  simp only [within, bind_apply, h]
  rfl

theorem result_of_within {action : StateM (Console κ) α} {c : Console κ} {a : α}
    (h : (streams.within action c).1 = .ok a) : ∃ c', (action c').1 = a := by
  rcases hbound : Console.call (bindAfter [] streams.bindings) (Console.flush c).2 with
    ⟨⟨bound, saved⟩, c'⟩
  cases bound with
  | ok _ =>
      rw [within_of_bound hbound] at h
      exact ⟨c', Except.ok.inj h⟩
  | error e =>
      rw [within_of_unbound hbound] at h
      contradiction

end Streams

namespace Task

variable {κ : Type} [Kernel κ]

/-- A builtin command that is run comes to a status, so nothing has to be put in its place. -/
theorem runBuiltin_fst {registry : Registry (Console κ)} {program : String}
    (hbuiltin : registry.isBuiltin program = true) (streams : Streams) (args : List String)
    (c : Console κ) :
    (∃ status, (streams.within (registry.run Console.standardOutput (program :: args)) c).1 =
        .ok (some status) ∧
      (runBuiltin registry streams (program :: args) c).1 = .command status) ∨
    ∃ e, (streams.within (registry.run Console.standardOutput (program :: args)) c).1 = .error e ∧
      (runBuiltin registry streams (program :: args) c).1 = .unbound e := by
  simp only [runBuiltin, bind_apply]
  cases h : (streams.within (registry.run Console.standardOutput (program :: args)) c).1 with
  | error e => exact .inr ⟨e, rfl, rfl⟩
  | ok status =>
      obtain ⟨c', hstatus⟩ := Streams.result_of_within h
      have hsome := Registry.run_isSome hbuiltin Console.standardOutput args c'
      rw [hstatus] at hsome
      obtain ⟨status, rfl⟩ := Option.isSome_iff_exists.mp hsome
      exact .inl ⟨status, rfl, rfl⟩

theorem turn_fits (registry : Registry (Console κ)) (streams : Streams) (held : List Descriptor)
    (argv : List String) (c : Console κ) :
    Turn.Fits registry argv (turn registry streams held argv c).1 := by
  cases argv with
  | nil => exact .empty
  | cons program args =>
      simp only [turn]
      cases hb : registry.isBuiltin program with
      | true =>
          rw [if_pos rfl]
          rcases runBuiltin_fst hb streams args c with ⟨status, hrun, hturn⟩ | ⟨e, hrun, hturn⟩
          · exact hturn ▸ .command hb streams c hrun
          · exact hturn ▸ .unbound hb streams c hrun
      | false =>
          simp only [Bool.false_eq_true, if_false, launch]
          cases hu : unusable? (program :: args) with
          | some arg =>
              exact .unusable hb (List.mem_of_find?_eq_some hu) (by simpa using List.find?_some hu)
          | none =>
              have hnul : ∀ arg ∈ program :: args, arg.contains '\x00' = false := by
                intro arg harg
                simpa using List.find?_eq_none.mp hu arg harg
              simp only [bind_apply]
              generalize hasked : Console.call (Kernel.fork ⟨program :: args, streams.bindings, held⟩)
                (Console.flush c).2 = asked
              obtain ⟨answer, c'⟩ := asked
              have hfork := congrArg Prod.fst hasked
              cases answer with
              | ok pid => exact .launched hb hnul streams held _ hfork
              | error e => exact .refused hb hnul streams held _ hfork

end Task

namespace Turn

variable {κ : Type} [Kernel κ] {registry : Registry (Console κ)}

/-- The turns that tasks with these arguments can have: one after another, up to one that is the
last. -/
inductive Sequence (registry : Registry (Console κ)) : List (List String) → List Turn → Prop
  | nil : Sequence registry [] []
  | last {argv : List String} {rest : List (List String)} {turn : Turn}
      (hfits : Fits registry argv turn) (hlast : turn.isLast = true) :
      Sequence registry (argv :: rest) [turn]
  | cons {argv : List String} {rest : List (List String)} {turn : Turn} {turns : List Turn}
      (hfits : Fits registry argv turn) (hlast : turn.isLast = false)
      (later : Sequence registry rest turns) : Sequence registry (argv :: rest) (turn :: turns)

theorem Sequence.length_le {argvs : List (List String)} {turns : List Turn}
    (h : Sequence registry argvs turns) : turns.length ≤ argvs.length := by
  induction h with
  | nil => exact Nat.le_refl _
  | last => simp
  | cons _ _ _ ih => simpa using ih

/-- A command that ends the shell has the last turn. -/
theorem Sequence.terminated {argvs : List (List String)} {turns : List Turn}
    (h : Sequence registry argvs turns) {k : Nat} {exit : ExitStatus}
    (hk : turns[k]? = some (.command (.terminate exit))) :
    outcome turns = .ok (some (.terminate exit)) ∧ turns.length = k + 1 := by
  induction h generalizing k with
  | nil => simp at hk
  | @last argv rest turn _ _ =>
      cases k with
      | zero =>
          obtain rfl : turn = .command (.terminate exit) := by simpa using hk
          exact ⟨rfl, rfl⟩
      | succ k => simp at hk
  | @cons argv rest turn turns _ hlast _ ih =>
      cases k with
      | zero =>
          obtain rfl : turn = .command (.terminate exit) := by simpa using hk
          simp [isLast] at hlast
      | succ k =>
          obtain ⟨houtcome, hlength⟩ := ih (by simpa using hk)
          exact ⟨(outcome_cons hlast turns).trans houtcome, by simp [hlength]⟩

/-- Without such a command every task has its turn. -/
theorem Sequence.completed {argvs : List (List String)} {turns : List Turn}
    (h : Sequence registry argvs turns) (hforks : ∀ e, refused e ∉ turns)
    (hstop : ∀ exit, command (.terminate exit) ∉ turns) :
    outcome turns = .ok none ∧ turns.length = argvs.length := by
  induction h with
  | nil => exact ⟨rfl, rfl⟩
  | @last argv rest turn _ hlast =>
      rcases eq_of_isLast hlast with ⟨e, rfl⟩ | ⟨exit, rfl⟩
      · exact absurd List.mem_cons_self (hforks e)
      · exact absurd List.mem_cons_self (hstop exit)
  | @cons argv rest turn turns _ hlast _ ih =>
      obtain ⟨houtcome, hlength⟩ := ih (fun e he => hforks e (List.mem_cons_of_mem _ he))
        (fun exit he => hstop exit (List.mem_cons_of_mem _ he))
      exact ⟨(outcome_cons hlast turns).trans houtcome, by simp [hlength]⟩

/-! ### The tasks of a job that has ended -/

theorem map_argv_finishAll (turns : List Turn) (exits : List ExitStatus) (tasks : List Task) :
    (finishAll turns exits tasks).map Task.argv = tasks.map Task.argv := by
  induction turns generalizing exits tasks with
  | nil => rfl
  | cons turn turns ih =>
      cases exits with
      | nil => rfl
      | cons exit exits =>
          cases tasks with
          | nil => rfl
          | cons task rest =>
              cases turn <;> simp [finishAll, mark, Task.withStatus, Task.withPid, ih]

theorem map_status_finishAll {turns : List Turn} {exits : List ExitStatus} {tasks : List Task}
    (hfresh : ∀ task ∈ tasks, task.status = none) (hturns : turns.length ≤ tasks.length)
    (hexits : exits.length = turns.length) :
    (finishAll turns exits tasks).map Task.status =
      exits.map some ++ List.replicate (tasks.length - turns.length) none := by
  induction turns generalizing exits tasks with
  | nil =>
      obtain rfl : exits = [] := List.length_eq_zero_iff.mp hexits
      simpa [finishAll, List.eq_replicate_iff] using hfresh
  | cons turn turns ih =>
      cases tasks with
      | nil => simp at hturns
      | cons task rest =>
          cases exits with
          | nil => simp at hexits
          | cons exit exits =>
              have hrest := @ih exits rest (fun t ht => hfresh t (List.mem_cons_of_mem _ ht))
                (by simpa using hturns) (by simpa using hexits)
              simp [finishAll, Task.withStatus, hrest]

/-- Waiting for a task does not change its process. -/
theorem map_pid_finishAll {turns : List Turn} {exits : List ExitStatus} {tasks : List Task}
    (hturns : turns.length ≤ tasks.length) (hexits : exits.length = turns.length) :
    (finishAll turns exits tasks).map Task.pid = (markAll turns tasks).map Task.pid := by
  induction turns generalizing exits tasks with
  | nil =>
      obtain rfl : exits = [] := List.length_eq_zero_iff.mp hexits
      simp [finishAll]
  | cons turn turns ih =>
      cases tasks with
      | nil => simp at hturns
      | cons task rest =>
          cases exits with
          | nil => simp at hexits
          | cons exit exits =>
              have hrest := @ih exits rest (by simpa using hturns) (by simpa using hexits)
              simp [finishAll, Task.withStatus, hrest]

end Turn

namespace Job

variable {κ : Type} [Kernel κ]

theorem turns_sequence (registry : Registry (Console κ)) (input : Option Descriptor)
    (pipes : List Pipe) (argvs : List (List String)) (c : Console κ) :
    Turn.Sequence registry argvs (turns registry input pipes argvs c).1 := by
  induction argvs generalizing input pipes c with
  | nil => exact .nil
  | cons argv rest ih =>
      simp only [turns, bind_apply]
      generalize hturn : Task.turn registry _ _ argv c = answer
      have hfits : Turn.Fits registry argv answer.1 := hturn ▸ Task.turn_fits ..
      cases hlast : answer.1.isLast with
      | true => exact .last hfits hlast
      | false => exact .cons hfits hlast (ih _ _ _)

theorem reap_of_no_pid {tasks : List Task} (h : ∀ task ∈ tasks, task.pid = none) (s : κ) :
    reap tasks s = (tasks, s) := by
  induction tasks with
  | nil => rfl
  | cons task rest ih =>
      have htask : task.pid = none := h task List.mem_cons_self
      simp [reap, htask, ih fun t ht => h t (List.mem_cons_of_mem _ ht)]

theorem reap_markAll {turns : List Turn} {tasks : List Task}
    (hpid : ∀ task ∈ tasks, task.pid = none) (hforks : ∀ e, Turn.refused e ∉ turns)
    (hlength : turns.length ≤ tasks.length) (s : κ) :
    reap (Turn.markAll turns tasks) s =
      (Turn.finishAll turns (Turn.concludeAll turns s).1 tasks,
        (Turn.concludeAll turns s).2) := by
  induction turns generalizing tasks s with
  | nil => simpa [Turn.finishAll, Turn.concludeAll] using reap_of_no_pid hpid s
  | cons turn turns ih =>
      cases tasks with
      | nil => simp at hlength
      | cons task rest =>
          have htask : task.pid = none := hpid task List.mem_cons_self
          have hlater := @ih rest (fun t ht => hpid t (List.mem_cons_of_mem _ ht))
            (fun e he => hforks e (List.mem_cons_of_mem _ he)) (by simpa using hlength)
          -- Only a task that was launched has a process to wait for; the others keep their status.
          cases turn with
          | refused e => exact absurd List.mem_cons_self (hforks e)
          | launched pid =>
              simp only [Turn.markAll_cons, reap, Turn.mark, Task.withPid, bind_apply, pure_apply,
                Turn.concludeAll, Turn.conclude, Turn.finishAll, Wait.exit]
              cases Wait.settle (Kernel.wait pid s).1 <;> simp [hlater, Task.withStatus]
          | _ =>
              simp [reap, Turn.mark, Task.withStatus, htask, Turn.concludeAll, Turn.conclude,
                Turn.finishAll, hlater]

/-- How a job stands at the end of a run, by the turns of its tasks and the exit statuses that these
ended with. -/
structure Ended (job job' : Job) (turns : List Turn) (exits : List ExitStatus)
    (status : Status) : Prop where
  argvs : job'.argvs = job.argvs
  lastStatus : job'.lastStatus = some status
  reached : exits.length = turns.length
  /-- The tasks that had a turn, and only these, have an exit status. -/
  statuses : job'.tasks.map Task.status =
    exits.map some ++ List.replicate (job.size - turns.length) none
  pids : job'.tasks.map Task.pid =
    turns.map Turn.pid? ++ List.replicate (job.size - turns.length) none
  /-- A command that ends the shell was the last that was taken up. -/
  terminated : ∀ k exit, turns[k]? = some (.command (.terminate exit)) →
    turns.length = k + 1 ∧ status = .terminate exit
  completed : (∀ exit, .command (.terminate exit) ∉ turns) →
    turns.length = job.size ∧ status = .proceed (exits.getLast?.getD .success)

theorem lastTaskStatus_of_statuses {tasks : List Task} {exits : List ExitStatus}
    (h : tasks.map Task.status = exits.map some) :
    lastTaskStatus tasks = .proceed (exits.getLast?.getD .success) := by
  have hlast : tasks.getLast?.bind Task.status = exits.getLast? := by
    have hmap : (tasks.map Task.status).getLast? = (exits.map some).getLast? := by rw [h]
    rw [List.getLast?_map, List.getLast?_map] at hmap
    cases ht : tasks.getLast? <;> cases he : exits.getLast? <;> simp_all
  rw [lastTaskStatus, hlast]

/-- What a run comes to that is not given up on before the tasks are waited for. -/
theorem execute_of_turns {registry : Registry (Console κ)} {job : Job}
    (hfresh : ∀ task ∈ job.tasks, task.pid = none) {c c₁ c₂ c₃ : Console κ} {pipes : List Pipe}
    {turns : List Turn} {exits : List ExitStatus} {stop : Option Status}
    (hpipes : Console.call (Pipe.openMany (job.size - 1)) c = (.ok pipes, c₁))
    (hturns : Job.turns registry none pipes job.argvs c₁ = (turns, c₂))
    (hforks : ∀ e, .refused e ∉ turns) (hlength : turns.length ≤ job.tasks.length)
    (hexits : Console.call (Turn.concludeAll turns) c₂ = (exits, c₃))
    (houtcome : Turn.outcome turns = .ok stop) :
    let tasks := Turn.finishAll turns exits job.tasks
    let status := stop.getD (lastTaskStatus tasks)
    execute registry job c = ((.ok status, ⟨tasks, some status⟩), c₃) := by
  have hreap : Console.call (reap (Turn.markAll turns job.tasks)) c₂ =
      (Turn.finishAll turns exits job.tasks, c₃) := by
    have h := reap_markAll hfresh hforks hlength c₂.kernel
    rw [Console.call_apply, Prod.mk.injEq] at hexits
    rw [Console.call_apply, h, hexits.1, hexits.2]
  rw [execute_of_opened hpipes, hturns]
  dsimp only
  rw [houtcome, hreap]

/-- A run whose pipes could be made, and that could make every process that it asked for, comes to
what the turns of its tasks say. A process that the machine makes for a task runs the program of the
task; a child that cannot run its program leaves with 127 if there is no such program and with 126
otherwise, and that is the exit status of its task. -/
theorem execute_ended (registry : Registry (Console κ)) (job : Job)
    (hfresh : ∀ task ∈ job.tasks, task.pid = none ∧ task.status = none)
    {c c₁ c₂ c₃ : Console κ} {pipes : List Pipe} {turns : List Turn} {exits : List ExitStatus}
    (hpipes : Console.call (Pipe.openMany (job.size - 1)) c = (.ok pipes, c₁))
    (hturns : Job.turns registry none pipes job.argvs c₁ = (turns, c₂))
    (hforks : ∀ e, .refused e ∉ turns)
    (hexits : Console.call (Turn.concludeAll turns) c₂ = (exits, c₃)) :
    Turn.Sequence registry job.argvs turns ∧
      (∃ status job', execute registry job c = ((.ok status, job'), c₃) ∧
        Ended job job' turns exits status) ∧
      List.Forall₂ (Turn.EndsWith κ) turns exits ∧
      (∀ (child : LineShell.Child) (m : Machine) (pid : Pid), (Kernel.fork child m).1 = .ok pid →
        ∃ process : Machine.Running, (Kernel.fork child m).2.running = m.running ++ [process] ∧
          process.self.pid = pid ∧ process.program =
            Machine.childProgram (child.argv.map Machine.Raw.encode) m.shell.settings) ∧
      (∀ argv settings, Machine.childProgram argv settings =
        Machine.Search.exec argv settings fun e =>
          .write 2 (Utf8.encode (Child.refusal (Machine.Raw.decode (argv.headD "")) e).1)
            fun _ => .done (.exited (if e = .noEntry then 127 else 126))) ∧
      ∀ before, (∀ reply ∈ before, Wait.Retried reply) →
        (∀ code, Wait.exit (before ++ [.ok (Machine.waitWord (.exited code))]) = .ofCode code ∧
          (Wait.exit (before ++ [.ok (Machine.waitWord (.exited code))])).code? =
            some (code % 256)) ∧
        ∀ e, e ≠ .interrupted → ∀ later,
          (Wait.exit (before ++ .error e :: later)).code? = some 1 := by
  have hpid : ∀ task ∈ job.tasks, task.pid = none := fun t ht => (hfresh t ht).1
  have hsequence : Turn.Sequence registry job.argvs turns := by
    simpa [hturns] using turns_sequence registry none pipes job.argvs c₁
  have hlength : turns.length ≤ job.tasks.length := by
    simpa [Job.argvs] using hsequence.length_le
  have hends : List.Forall₂ (Turn.EndsWith κ) turns exits := by
    have h := Turn.endsWith_concludeAll turns c₂.kernel
    rwa [show (Turn.concludeAll turns c₂.kernel).1 = exits from congrArg Prod.fst hexits] at h
  have hreached : exits.length = turns.length := hends.length_eq.symm
  have hargvs : (Turn.finishAll turns exits job.tasks).map Task.argv = job.argvs :=
    Turn.map_argv_finishAll ..
  have hstatuses := Turn.map_status_finishAll (fun t ht => (hfresh t ht).2) hlength hreached
  have hpids := (Turn.map_pid_finishAll hlength hreached).trans (Turn.map_pid_markAll hpid hlength)
  refine ⟨hsequence, ?_, hends, fun _ _ _ => Machine.running_fork, Machine.childProgram_eq,
    fun before hbefore => ⟨fun code => ⟨Wait.exit_of_exited hbefore code,
      Wait.code?_exit_of_exited hbefore code⟩, fun _ => Wait.code?_exit_of_error hbefore⟩⟩
  -- Whether a command ends the shell decides which status the job has: its own or the last task's.
  by_cases hstop : ∃ exit, .command (.terminate exit) ∈ turns
  · obtain ⟨exit, hmem⟩ := hstop
    obtain ⟨k, hk⟩ := List.mem_iff_getElem?.mp hmem
    obtain ⟨houtcome, _⟩ := hsequence.terminated hk
    refine ⟨.terminate exit, _, execute_of_turns hpid hpipes hturns hforks hlength hexits houtcome,
      hargvs, rfl, hreached, hstatuses, hpids, ?_, fun h => absurd hmem (h exit)⟩
    intro j exit' hj
    obtain ⟨houtcome', hj'⟩ := hsequence.terminated hj
    rw [houtcome] at houtcome'
    exact ⟨hj', Option.some.inj (Except.ok.inj houtcome')⟩
  · have hproceed : ∀ exit, .command (.terminate exit) ∉ turns := fun exit h => hstop ⟨exit, h⟩
    obtain ⟨houtcome, hall⟩ := hsequence.completed hforks hproceed
    have hall' : turns.length = job.tasks.length := by simpa [Job.argvs] using hall
    have hlast : lastTaskStatus (Turn.finishAll turns exits job.tasks) =
        .proceed (exits.getLast?.getD .success) :=
      lastTaskStatus_of_statuses (by simpa [hall'] using hstatuses)
    refine ⟨lastTaskStatus (Turn.finishAll turns exits job.tasks), _,
      execute_of_turns hpid hpipes hturns hforks hlength hexits houtcome, hargvs, rfl, hreached,
      hstatuses, hpids, ?_, fun _ => ⟨hall', hlast⟩⟩
    intro k exit hk
    exact absurd (List.mem_of_getElem? hk) (hproceed exit)

/-- The child of the first task is reaped although a later command ends the shell. -/
theorem execute_ended_rehearsed :
    ∃ job', (execute Registry.standard
        (.ofArgvs [["true"], [], ["cd"], ["echo", "a\x00b"], ["exit", "3"], ["cat"]])
        ({ kernel := { endings := [[.error .interrupted, .ok 2304]] } } : Console Rehearsal)).1 =
          (.ok (.terminate (.ofCode 3)), job') ∧
      job'.tasks.map Task.status = [some (.ofCode 9), some .failure, some .failure, some .failure,
        some (.ofCode 3), none] := by
  let job : Job := .ofArgvs [["true"], [], ["cd"], ["echo", "a\x00b"], ["exit", "3"], ["cat"]]
  let c : Console Rehearsal := { kernel := { endings := [[.error .interrupted, .ok 2304]] } }
  let pipes : List Pipe := [⟨3, 4⟩, ⟨5, 6⟩, ⟨7, 8⟩, ⟨9, 10⟩, ⟨11, 12⟩]
  let taken : List Turn := [.launched 2, .empty, .command .failure, .unusable "a\x00b",
    .command (.terminate (.ofCode 3))]
  have hfresh : ∀ task ∈ job.tasks, task.pid = none ∧ task.status = none := by decide
  have hforks : ∀ e, .refused e ∉ taken := by simp [taken]
  generalize hopened : Console.call (Pipe.openMany (job.size - 1)) c = opened
  have hpipes : opened.1 = .ok pipes := by rw [← hopened]; cbv
  generalize hrun : turns Registry.standard none pipes job.argvs opened.2 = run
  have hturns : run.1 = taken := by rw [← hrun, ← hopened]; cbv
  generalize hwaited : Console.call (Turn.concludeAll taken) run.2 = waited
  have hexits : waited.1 = [.ofCode 9, .failure, .failure, .failure, .ofCode 3] := by
    rw [← hwaited, ← hrun, ← hopened]
    cbv
  obtain ⟨_, ⟨status, job', hexecute, hended⟩, _⟩ := execute_ended Registry.standard job hfresh
    (hopened.trans (Prod.ext hpipes rfl)) (hrun.trans (Prod.ext hturns rfl)) hforks
    (hwaited.trans (Prod.ext hexits rfl))
  obtain ⟨_, rfl⟩ := hended.terminated 4 (.ofCode 3) rfl
  exact ⟨job', congrArg Prod.fst hexecute, hended.statuses⟩

end Job

end LineShell
