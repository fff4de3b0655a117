import LineShell.Proofs.Job.Reference
import LineShell.Proofs.Job.Stage
import LineShell.Proofs.Job.Trace

/-!
The processes of a job. While the tasks are started one process is made for each task that needs one,
in order; then each of these, and nothing else, is waited for until it has ended, in the same order.
-/

namespace LineShell

/-- What the shell did about processes. -/
inductive Operation where
  | fork (argv : List String) (answer : Except Errno Pid)
  | wait (pid : Pid)

def Event.operation? : Event → Option Operation
  | forked child answer => some (.fork child.argv answer)
  | waited pid => some (.wait pid)
  | _ => none

/-- What the shell did about processes, by the record of all that it asked for. -/
def operations (events : List Event) : List Operation := events.filterMap Event.operation?

@[simp] theorem operations_append (events later : List Event) :
    operations (events ++ later) = operations events ++ operations later :=
  List.filterMap_append

theorem operations_eq_nil {events : List Event} (h : ∀ e ∈ events, e.operation? = none) :
    operations events = [] :=
  List.filterMap_eq_nil_iff.mpr h

theorem Event.IsOutput.operation?_eq_none {e : Event} (h : e.IsOutput) : e.operation? = none := by
  obtain ⟨bytes, answer, rfl⟩ := h
  rfl

theorem Event.IsWiring.operation?_eq_none {e : Event} (h : e.IsWiring) : e.operation? = none := by
  cases e with
  | forked | wrote | waited => exact h.elim
  | _ => rfl

theorem operations_of_isOutput {events : List Event} (h : ∀ e ∈ events, e.IsOutput) :
    operations events = [] :=
  operations_eq_nil fun e he => (h e he).operation?_eq_none

theorem operations_of_isWiring {events : List Event} (h : ∀ e ∈ events, e.IsWiring) :
    operations events = [] :=
  operations_eq_nil fun e he => (h e he).operation?_eq_none

namespace Task

/-- The task has to be run in a process of its own, and can be. -/
structure External {σ : Type} (registry : Registry σ) (argv : List String) : Prop where
  program : ∃ program ∈ argv.head?, registry.isBuiltin program = false
  usable : ∀ arg ∈ argv, arg.contains '\x00' = false

/-- The tasks that have a process, by their arguments, and their processes. -/
def launched (tasks : List Task) : List (List String × Pid) :=
  tasks.filterMap fun task => task.pid.map (task.argv, ·)

end Task

namespace Turn

variable {κ : Type} [Kernel κ] {registry : Registry (Console κ)}

/-- The process that was asked for in the turn of a task with these arguments. -/
def forks (argv : List String) : Turn → List Operation
  | launched pid => [.fork argv (.ok pid)]
  | refused e => [.fork argv (.error e)]
  | _ => []

theorem Fits.isSome_pid?_iff {argv : List String} {turn : Turn} (h : Fits registry argv turn)
    (hrefused : ∀ e, turn ≠ .refused e) : turn.pid?.isSome = true ↔ Task.External registry argv := by
  cases h with
  | launched hbuiltin hnul => exact iff_of_true rfl ⟨⟨_, rfl, hbuiltin⟩, hnul⟩
  | refused _ _ => exact absurd rfl (hrefused _)
  | empty => exact iff_of_false (by simp [pid?]) fun h => by simpa using h.program
  | unusable _ hmem hnul =>
      exact iff_of_false (by simp [pid?]) fun h => by simp [h.usable _ hmem] at hnul
  | command hbuiltin | unbound hbuiltin =>
      refine iff_of_false (by simp [pid?]) fun h => ?_
      obtain ⟨program, hmem, hprogram⟩ := h.program
      obtain rfl := Option.some.inj hmem
      rw [hbuiltin] at hprogram
      cases hprogram

theorem argv_mark (task : Task) (turn : Turn) : (mark task turn).argv = task.argv := by
  cases turn <;> rfl

theorem pid_mark {task : Task} (h : task.pid = none) (turn : Turn) :
    (mark task turn).pid = turn.pid? := by
  cases turn <;> simp [mark, Task.withStatus, Task.withPid, pid?, h]

theorem map_argv_markAll {turns : List Turn} {tasks : List Task}
    (hlength : turns.length ≤ tasks.length) :
    (markAll turns tasks).map Task.argv = tasks.map Task.argv := by
  induction turns generalizing tasks with
  | nil => simp
  | cons turn turns ih =>
      cases tasks with
      | nil => simp at hlength
      | cons task rest => simp [argv_mark, ih (by simpa using hlength)]

/-- After the turns a task has a process just if it had a turn and needs one. -/
theorem Sequence.isSome_pid_iff {tasks : List Task} {turns : List Turn}
    (h : Sequence registry (tasks.map Task.argv) turns) (hfresh : ∀ task ∈ tasks, task.pid = none)
    (hrefused : ∀ e, refused e ∉ turns) {k : Nat} {task : Task}
    (hk : (markAll turns tasks)[k]? = some task) :
    task.pid.isSome = true ↔ k < turns.length ∧ Task.External registry task.argv := by
  have hmark {first : Task} {turn : Turn} (hpid : first.pid = none)
      (hfits : Fits registry first.argv turn) (hne : ∀ e, turn ≠ refused e) :
      (mark first turn).pid.isSome = true ↔ Task.External registry (mark first turn).argv := by
    rw [pid_mark hpid, argv_mark]
    exact hfits.isSome_pid?_iff hne
  induction turns generalizing tasks k with
  | nil =>
      rw [markAll_nil] at hk
      simp [hfresh task (List.mem_of_getElem? hk)]
  | cons turn turns ih =>
      cases tasks with
      | nil => cases h
      | cons first rest =>
          obtain ⟨hfirst, hrest⟩ := List.forall_mem_cons.mp hfresh
          have hne : ∀ e, turn ≠ refused e := fun e he => hrefused e (by simp [he])
          rw [markAll_cons] at hk
          cases k with
          | zero =>
              obtain rfl := Option.some.inj hk
              cases h with
              | last hfits => simpa using hmark hfirst hfits hne
              | cons hfits => simpa using hmark hfirst hfits hne
          | succ k =>
              cases h with
              | last =>
                  have hmem : task ∈ rest := List.mem_of_getElem? (by simpa using hk)
                  simp [hrest task hmem]
              | cons _ _ hlater =>
                  have := ih hlater hrest (fun e he => hrefused e (List.mem_cons_of_mem _ he)) hk
                  simpa using this

theorem Sequence.not_mem_refused {argvs : List (List String)} {turns : List Turn}
    (h : Sequence registry argvs turns) {stop : Option Status} (houtcome : outcome turns = .ok stop)
    (e : Errno) : refused e ∉ turns := by
  intro hmem
  rw [h.outcome_eq_error_iff.mpr ⟨e, rfl, hmem⟩] at houtcome
  cases houtcome

/-- The processes that were asked for are those that the tasks have after their turns. -/
theorem flatten_forks {turns : List Turn} {tasks : List Task}
    (hfresh : ∀ task ∈ tasks, task.pid = none) (hrefused : ∀ e, refused e ∉ turns)
    (hlength : turns.length ≤ tasks.length) :
    (List.zipWith forks (tasks.map Task.argv) turns).flatten =
      (Task.launched (markAll turns tasks)).map fun p => .fork p.1 (.ok p.2) := by
  induction turns generalizing tasks with
  | nil =>
      have hnone : Task.launched tasks = [] :=
        List.filterMap_eq_nil_iff.mpr fun task htask => by simp [hfresh task htask]
      simp [hnone]
  | cons turn turns ih =>
      cases tasks with
      | nil => simp at hlength
      | cons task rest =>
          have htask : task.pid = none := hfresh task List.mem_cons_self
          have hrest := ih (fun t ht => hfresh t (List.mem_cons_of_mem _ ht))
            (fun e he => hrefused e (List.mem_cons_of_mem _ he)) (by simpa using hlength)
          simp only [Task.launched] at hrest
          cases turn with
          | refused e => exact absurd List.mem_cons_self (hrefused e)
          | _ => simp [forks, mark, Task.launched, Task.withStatus, Task.withPid, htask, hrest]

end Turn

/-! ### What is asked for while the tasks are started -/

/-- The commands of a registry leave processes alone. -/
def Registry.LeavesProcesses {σ : Type} [Environment σ] [Recording σ] (registry : Registry σ)
    (sink : Sink σ) : Prop :=
  ∀ argv, Logs (registry.run sink argv) fun _ events => ∀ e ∈ events, e.operation? = none

theorem Registry.Modest.leavesProcesses {κ : Type} [Kernel κ]
    {registry : Registry (Console (Recorded κ))} (h : registry.Modest) :
    registry.LeavesProcesses Console.standardOutput :=
  fun argv => (h.run argv).mono fun _ _ hevents e he => (hevents e he).operation?_eq_none

namespace Streams

variable {κ α : Type} [Kernel κ]

theorem logs_within_operations {action : StateM (Console (Recorded κ)) α}
    (haction : Logs action fun _ events => ∀ e ∈ events, e.operation? = none) (streams : Streams) :
    Logs (streams.within action) fun _ events => operations events = [] := by
  refine (logs_within haction (fun e he => he.operation?_eq_none) streams).mono
    fun _ events h => ?_
  obtain ⟨saved, answer, before, bound, acted, restored, rfl, hbefore, hbound, hacted, hrestored, _⟩
    := h
  simp [operations_of_isOutput hbefore, operations_of_isWiring hbound.isWiring,
    operations_eq_nil hacted, operations_of_isWiring hrestored.isWiring]

end Streams

/-- The only process that a launch asks for is the one of its turn. -/
theorem Task.logs_launch_operations {κ : Type} [Kernel κ] (streams : Streams)
    (held : List Descriptor) (argv : List String) :
    Logs (launch (κ := Recorded κ) streams held argv) fun turn events =>
      operations events = turn.forks argv := by
  rw [launch]
  split
  · refine .bind (.call (.quietly _ fun _ => rfl)) fun _ events hevents => .pure ?_
    obtain rfl := hevents
    rfl
  · refine .bind Console.modest_flush fun _ before hbefore => ?_
    refine .bind (.call (.noting _ _ fun _ => rfl)) fun answer events hevents => ?_
    obtain rfl := hevents
    have hnone := operations_of_isOutput hbefore
    cases answer with
    | ok pid => exact .pure (by rw [operations_append, hnone]; rfl)
    | error e => exact .pure (by rw [operations_append, hnone]; rfl)

section Logs

variable {κ : Type} [Kernel κ] {registry : Registry (Console (Recorded κ))}
  (hquiet : registry.LeavesProcesses Console.standardOutput)

include hquiet

theorem Task.logs_turn_operations (streams : Streams) (held : List Descriptor)
    (argv : List String) :
    Logs (turn registry streams held argv) fun turn events =>
      operations events = turn.forks argv := by
  cases argv with
  | nil =>
      refine .bind (.call (.quietly _ fun _ => rfl)) fun _ events hevents => .pure ?_
      obtain rfl := hevents
      rfl
  | cons program args =>
      rw [turn]
      split
      · refine .bind (Streams.logs_within_operations (hquiet _) streams)
          fun result events hevents => ?_
        cases result with
        | ok status => exact .pure (by simpa [Turn.forks] using hevents)
        | error e =>
            refine .bind (.call (.quietly _ fun _ => rfl)) fun _ later hlater => .pure ?_
            obtain rfl := hlater
            simpa [Turn.forks] using hevents
      · exact logs_launch_operations streams held _

theorem Job.logs_turns_operations (input : Option Descriptor) (pipes : List Pipe)
    (argvs : List (List String)) :
    Logs (turns registry input pipes argvs) fun turns events =>
      operations events = (List.zipWith Turn.forks argvs turns).flatten := by
  have hcloses (ds : List Descriptor) : operations (closes ds) = [] :=
    operations_of_isWiring isWiring_of_closes
  induction argvs generalizing input pipes with
  | nil =>
      refine .bind (.call (Pipe.logs_closeAll _)) fun _ events hevents => .pure ?_
      simp [hevents, hcloses]
  | cons argv rest ih =>
      refine .bind (Task.logs_turn_operations hquiet _ _ argv) fun turn events hevents => ?_
      refine .bind (.call (Pipe.logs_closeAll _)) fun _ closed hclosed => ?_
      split
      · refine .bind (.call (Pipe.logs_closeAll _)) fun _ closed' hclosed' => .pure ?_
        simp [hevents, hclosed, hclosed', hcloses]
      · refine .bind (ih _ _) fun turns later hlater => .pure ?_
        simp [hevents, hclosed, hlater, hcloses]

end Logs

/-! ### Waiting -/

namespace Wait

/-- The replies to waiting for a process, and what is learned of it: how it ended, or that this
cannot be learned. Replies that tell of neither are passed over. -/
inductive Settled : List WaitReply → Except Errno ExitStatus → Prop
  | ended (before : List WaitReply) {word : Int} {ending : Ending} (later : List WaitReply)
      (hbefore : ∀ reply ∈ before, Retried reply) (hword : ending? word = .ok (some ending)) :
      Settled (before ++ .ok word :: later) (.ok (endingStatus ending))
  | failed (before : List WaitReply) {e : Errno} (later : List WaitReply)
      (hbefore : ∀ reply ∈ before, Retried reply) (he : e ≠ .interrupted) :
      Settled (before ++ .error e :: later) (.error e)
  | unreadable (before : List WaitReply) {word : Int} {e : Errno} (later : List WaitReply)
      (hbefore : ∀ reply ∈ before, Retried reply) (hword : ending? word = .error e) :
      Settled (before ++ .ok word :: later) (.error e)
  | lost {replies : List WaitReply} (h : ∀ reply ∈ replies, Retried reply) :
      Settled replies (.error .noChild)

theorem Settled.cons {reply : WaitReply} {replies : List WaitReply}
    {result : Except Errno ExitStatus} (h : Settled replies result) (hreply : Retried reply) :
    Settled (reply :: replies) result := by
  cases h with
  | ended before later hbefore hword =>
      exact .ended (reply :: before) later (List.forall_mem_cons.mpr ⟨hreply, hbefore⟩) hword
  | failed before later hbefore he =>
      exact .failed (reply :: before) later (List.forall_mem_cons.mpr ⟨hreply, hbefore⟩) he
  | unreadable before later hbefore hword =>
      exact .unreadable (reply :: before) later (List.forall_mem_cons.mpr ⟨hreply, hbefore⟩)
        hword
  | lost h => exact .lost (List.forall_mem_cons.mpr ⟨hreply, h⟩)

theorem settled (replies : List WaitReply) : Settled replies (settle replies) := by
  induction replies with
  | nil => exact .lost (by simp)
  | cons reply later ih =>
      cases reply with
      | error e =>
          by_cases he : e = .interrupted
          · subst he
            exact ih.cons (.inl rfl)
          · rw [settle, if_neg he]
            exact .failed [] later (by simp) he
      | ok word =>
          cases hword : ending? word with
          | error e =>
              rw [settle, hword]
              exact .unreadable [] later (by simp) hword
          | ok ending =>
              rw [settle, hword]
              cases ending with
              | none => exact ih.cons (.inr ⟨word, rfl, hword⟩)
              | some ending => exact .ended [] later (by simp) hword

end Wait

namespace Job

variable {κ : Type} [Kernel κ]

/-- Waits for processes one after another. -/
def waitAll : List Pid → StateM κ (List (List WaitReply))
  | [] => return []
  | pid :: rest => do
      let replies ← Kernel.wait pid
      return replies :: (← waitAll rest)

/-- The tasks once their processes have been waited for. -/
def settleAll : List Task → List (List WaitReply) → List Task
  | [], _ => []
  | task :: rest, replies =>
      match task.pid with
      | none => task :: settleAll rest replies
      | some _ => task.withStatus (Wait.exit (replies.headD [])) :: settleAll rest replies.tail

theorem reap_eq (tasks : List Task) (s : κ) :
    let waited := waitAll (tasks.filterMap Task.pid) s
    reap tasks s = (settleAll tasks waited.1, waited.2) := by
  induction tasks generalizing s with
  | nil => rfl
  | cons task rest ih =>
      cases hpid : task.pid with
      | none => simp [reap, hpid, settleAll, ih]
      | some pid =>
          simp only [reap, hpid, settleAll, waitAll, List.filterMap_cons, bind_apply, Wait.exit]
          cases hsettle : Wait.settle (Kernel.wait pid s).1 <;> simp [ih, hsettle]

theorem length_waitAll (pids : List Pid) (s : κ) : (waitAll pids s).1.length = pids.length := by
  induction pids generalizing s with
  | nil => rfl
  | cons pid rest ih => simp [waitAll, ih]

theorem logs_waitAll (pids : List Pid) :
    Logs (waitAll (κ := Recorded κ) pids) fun _ events => events = pids.map .waited := by
  induction pids with
  | nil => exact .pure rfl
  | cons pid rest ih =>
      refine .bind (.noting _ _ fun _ => rfl) fun _ events hevents => ?_
      refine .bind ih fun _ later hlater => .pure ?_
      obtain rfl := hevents
      simp [hlater]

theorem operations_waited (tasks : List Task) :
    operations ((tasks.filterMap Task.pid).map .waited) =
      (Task.launched tasks).map fun p => .wait p.2 := by
  induction tasks with
  | nil => rfl
  | cons task rest ih =>
      simp only [operations, Task.launched] at ih
      cases hpid : task.pid <;>
        simp [operations, Task.launched, hpid, Event.operation?, ih]

theorem map_argv_settleAll (tasks : List Task) (replies : List (List WaitReply)) :
    (settleAll tasks replies).map Task.argv = tasks.map Task.argv := by
  induction tasks generalizing replies with
  | nil => rfl
  | cons task rest ih => cases hpid : task.pid <;> simp [settleAll, hpid, ih]

theorem map_pid_settleAll (tasks : List Task) (replies : List (List WaitReply)) :
    (settleAll tasks replies).map Task.pid = tasks.map Task.pid := by
  induction tasks generalizing replies with
  | nil => rfl
  | cons task rest ih => cases hpid : task.pid <;> simp [settleAll, hpid, ih, Task.withStatus]

theorem launched_settleAll (tasks : List Task) (replies : List (List WaitReply)) :
    Task.launched (settleAll tasks replies) = Task.launched tasks := by
  induction tasks generalizing replies with
  | nil => rfl
  | cons task rest ih =>
      simp only [Task.launched] at ih
      cases hpid : task.pid <;> simp [Task.launched, settleAll, hpid, ih, Task.withStatus]

theorem getElem?_settleAll {tasks : List Task} {replies : List (List WaitReply)} {k : Nat}
    {task : Task} (hk : (settleAll tasks replies)[k]? = some task) :
    ∃ task₀, tasks[k]? = some task₀ ∧ task.argv = task₀.argv ∧ task.pid = task₀.pid := by
  have hargv := congrArg (·[k]?) (map_argv_settleAll tasks replies)
  have hpid := congrArg (·[k]?) (map_pid_settleAll tasks replies)
  simp only [List.getElem?_map, hk, Option.map_some] at hargv hpid
  cases hk₀ : tasks[k]? with
  | none => simp [hk₀] at hargv
  | some task₀ => exact ⟨task₀, rfl, by simpa [hk₀] using hargv, by simpa [hk₀] using hpid⟩

/-- Each task that has a process has the status that its own replies settle on. -/
theorem statuses_settleAll {tasks : List Task} {replies : List (List WaitReply)}
    (h : replies.length = (tasks.filterMap Task.pid).length) :
    ((settleAll tasks replies).filter (·.pid.isSome)).map Task.status =
      replies.map fun r => some (Wait.exit r) := by
  induction tasks generalizing replies with
  | nil =>
      obtain rfl : replies = [] := List.length_eq_zero_iff.mp h
      rfl
  | cons task rest ih =>
      cases hpid : task.pid with
      | none => simpa [settleAll, hpid] using ih (by simpa [hpid] using h)
      | some pid =>
          cases replies with
          | nil => simp [hpid] at h
          | cons r replies =>
              simpa [settleAll, hpid, Task.withStatus] using ih (by simpa [hpid] using h)

/-- What was done about processes in a run that came to a status, by the tasks that were taken up and
the replies to waiting. -/
structure Managed (registry : Registry (Console (Recorded κ))) (job job' : Job)
    (c c' : Console (Recorded κ)) (status : Status) (stages : List (Stage (Recorded κ)))
    (replies : List (List WaitReply)) : Prop where
  argvs : job'.argvs = job.argvs
  reached : job.reached registry c = .ok stages
  completed : (∀ exit, status ≠ .terminate exit) → stages.length = job.size
  /-- A task has a process just if it was taken up and needs one. -/
  pids (k : Nat) (task : Task) : job'.tasks[k]? = some task →
    (task.pid.isSome = true ↔ k < stages.length ∧ Task.External registry task.argv)
  /-- All processes are made, and then all are waited for. -/
  record : ∃ events, c'.kernel.log = c.kernel.log ++ events ∧ operations events =
    (Task.launched job'.tasks).map (fun p => .fork p.1 (.ok p.2)) ++
      (Task.launched job'.tasks).map fun p => .wait p.2
  /-- The run ends with the waiting, and each task gets the status that its process ended with. -/
  waited : ∃ c₂, Console.call (waitAll (job'.tasks.filterMap Task.pid)) c₂ = (replies, c')
  statuses : (job'.tasks.filter (·.pid.isSome)).map Task.status =
    replies.map fun r => some (Wait.exit r)
  settled : ∀ r ∈ replies, Wait.Settled r (Wait.settle r)

/-- A run that comes to a status takes up the tasks, and then waits for those that were launched. -/
theorem exists_turns_of_execute_ok {registry : Registry (Console κ)} {job job' : Job}
    {c c' : Console κ} {status : Status}
    (h : execute registry job c = ((.ok status, job'), c')) :
    ∃ pipes c₁ stop, Console.call (Pipe.openMany (job.size - 1)) c = (.ok pipes, c₁) ∧
      let taken := turns registry none pipes job.argvs c₁
      Turn.outcome taken.1 = .ok stop ∧
        Console.call (reap (Turn.markAll taken.1 job.tasks)) taken.2 = (job'.tasks, c') ∧
        status = stop.getD (lastTaskStatus job'.tasks) := by
  rcases hopen : Console.call (Pipe.openMany (job.size - 1)) c with ⟨answer, c₁⟩
  cases answer with
  | error e =>
      rw [execute_of_unopened hopen] at h
      cases h
  | ok pipes =>
      simp only [execute_of_opened hopen] at h
      cases houtcome : Turn.outcome (turns registry none pipes job.argvs c₁).1 with
      | error e =>
          rw [houtcome] at h
          cases h
      | ok stop =>
          rw [houtcome] at h
          cases h
          exact ⟨pipes, c₁, stop, rfl, houtcome, rfl, rfl⟩

/-- A run that comes to a status makes one process for each task that was taken up and needs one, and
for nothing else, in the order of the tasks; after that it waits for each of these, and for nothing
else, once and until it has ended or cannot be waited for, in the same order. -/
theorem execute_manages {registry : Registry (Console (Recorded κ))}
    (hquiet : registry.LeavesProcesses Console.standardOutput) {job job' : Job}
    (hfresh : ∀ task ∈ job.tasks, task.pid = none) {c c' : Console (Recorded κ)} {status : Status}
    (h : execute registry job c = ((.ok status, job'), c')) :
    ∃ stages replies, Managed registry job job' c c' status stages replies := by
  obtain ⟨pipes, c₁, stop, hopen, houtcome, hreap, rfl⟩ := exists_turns_of_execute_ok h
  have hreached : job.reached registry c = .ok (stages registry none pipes job.argvs c₁) := by
    simp [reached, hopen]
  rcases hrun : turns registry none pipes job.argvs c₁ with ⟨taken, c₂⟩
  have hstages : (stages registry none pipes job.argvs c₁).length = taken.length := by
    simpa [hrun] using (congrArg List.length (turns_fst registry none pipes job.argvs c₁)).symm
  have hsequence : Turn.Sequence registry job.argvs taken := by
    simpa [hrun] using turns_sequence registry none pipes job.argvs c₁
  have hlength : taken.length ≤ job.tasks.length := by
    simpa [argvs] using hsequence.length_le
  simp only [hrun] at houtcome hreap
  have hrefused := hsequence.not_mem_refused houtcome
  rw [Console.call_apply, reap_eq] at hreap
  obtain ⟨htasks, rfl⟩ := Prod.mk.inj hreap
  let marked := Turn.markAll taken job.tasks
  have hpids : job'.tasks.map Task.pid = marked.map Task.pid := htasks ▸ map_pid_settleAll ..
  have hwaited : job'.tasks.filterMap Task.pid = marked.filterMap Task.pid := by
    simpa [List.filterMap_map] using congrArg (List.filterMap id) hpids
  refine ⟨_, (waitAll (marked.filterMap Task.pid) c₂.kernel).1, ?_, hreached, ?_, ?_, ?_, ?_, ?_,
    fun r _ => Wait.settled r⟩
  · rw [argvs, ← htasks, map_argv_settleAll, Turn.map_argv_markAll hlength]
    rfl
  · intro hstatus
    have hstop : ∀ exit, .command (.terminate exit) ∉ taken := fun exit hmem => by
      rw [hsequence.outcome_eq_terminate_iff.mpr hmem] at houtcome
      exact hstatus exit (by rw [← Except.ok.inj houtcome]; rfl)
    rw [hstages, (hsequence.completed hrefused hstop).2, argvs, List.length_map, size]
  · intro k task hk
    obtain ⟨task₀, hk₀, hargv, hpid⟩ := getElem?_settleAll (htasks ▸ hk)
    rw [hstages, hargv, hpid]
    exact hsequence.isSome_pid_iff hfresh hrefused hk₀
  · obtain ⟨opened, hlog₁, hopened⟩ := (Pipe.logs_openAfter (κ := κ) [] (job.size - 1)).call c
    obtain ⟨started, hlog₂, hstarted⟩ := logs_turns_operations hquiet none pipes job.argvs c₁
    obtain ⟨_, hlog₃, rfl⟩ := logs_waitAll (marked.filterMap Task.pid) c₂.kernel
    refine ⟨opened ++ (started ++ (marked.filterMap Task.pid).map .waited), ?_, ?_⟩
    · rw [show (Console.call (Pipe.openAfter [] (job.size - 1)) c).2 = c₁ from
        congrArg Prod.snd hopen] at hlog₁
      rw [hrun, hlog₁] at hlog₂
      exact hlog₃.trans (by rw [show Recording.log c₂.kernel = _ from hlog₂]; simp; rfl)
    · rw [hrun] at hstarted
      rw [← htasks, launched_settleAll, operations_append, operations_append,
        operations_of_isWiring hopened.isWiring, hstarted, operations_waited]
      simp only [List.nil_append]
      congr 1
      exact Turn.flatten_forks hfresh hrefused hlength
  · rw [hwaited]
    exact ⟨c₂, rfl⟩
  · rw [← htasks]
    exact statuses_settleAll (length_waitAll ..)

/-- Two of the seven tasks have a process of their own. Both are waited for although a later command
ends the shell; the first is interrupted once. -/
theorem execute_manages_rehearsed :
    let job : Job :=
      .ofArgvs [["true"], [], ["cd"], ["echo", "a\x00b"], ["cat"], ["exit", "3"], ["cat"]]
    let c : Console (Recorded Rehearsal) :=
      { kernel := { kernel := { endings := [[.error .interrupted, .ok 2304], [.ok 0]] } } }
    ∃ job' c', execute Registry.standard job c = ((.ok (.terminate (.ofCode 3)), job'), c') ∧
      (∃ stages replies,
        Managed Registry.standard job job' c c' (.terminate (.ofCode 3)) stages replies) ∧
      operations c'.kernel.log =
        [.fork ["true"] (.ok 2), .fork ["cat"] (.ok 3), .wait 2, .wait 3] := by
  intro job c
  have hfresh : ∀ task ∈ job.tasks, task.pid = none := by decide
  have hresult : (execute Registry.standard job c).1.1 = .ok (.terminate (.ofCode 3)) := by cbv
  have hlaunched : Task.launched (execute Registry.standard job c).1.2.tasks =
      [(["true"], 2), (["cat"], 3)] := by cbv
  rcases hrun : execute Registry.standard job c with ⟨⟨result, job'⟩, c'⟩
  rw [hrun] at hresult hlaunched
  obtain rfl : result = _ := hresult
  have hmanaged := execute_manages Registry.modest_standard.leavesProcesses hfresh hrun
  refine ⟨job', c', rfl, hmanaged, ?_⟩
  obtain ⟨stages, replies, hmanaged⟩ := hmanaged
  obtain ⟨events, hlog, hrecord⟩ := hmanaged.record
  rw [show c'.kernel.log = events from hlog, hrecord, hlaunched]
  rfl

end Job

end LineShell
