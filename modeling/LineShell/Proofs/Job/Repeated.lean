import LineShell.Proofs.Job.Processes
import Mathlib

/-!
Jobs that are run again. The processes of earlier runs stay with the tasks, and one that is not taken up
this time is waited for once more, although its process is gone. Nothing comes of it: a task has a process
only if it needs one, so each task that is taken up is marked anew, and those are waited for first.
-/

namespace LineShell

namespace Task

/-- If the task has a process, it is one that needs a process. -/
def Entitled {σ : Type} (registry : Registry σ) (task : Task) : Prop :=
  task.pid.isSome = true → External registry task.argv

theorem entitled_of_no_pid {σ : Type} {registry : Registry σ} {task : Task} (h : task.pid = none) :
    task.Entitled registry := by
  simp [Entitled, h]

end Task

namespace Turn

variable {κ : Type} [Kernel κ] {registry : Registry (Console κ)}

section Fits

variable {task : Task} {turn : Turn} (h : Fits registry task.argv turn)
  (htask : task.Entitled registry)

include h htask

theorem Fits.entitled_mark : (mark task turn).Entitled registry := by
  cases turn with
  | launched pid => exact fun _ => (h.isSome_pid?_iff (by simp)).mp rfl
  | _ => exact htask

/-- A task that was taken up and not given a process has none from before. -/
theorem Fits.pid_eq_none (hrefused : ∀ e, turn ≠ .refused e) (hpid : turn.pid? = none) :
    task.pid = none := by
  by_contra hne
  have hexternal := htask (Option.isSome_iff_ne_none.mpr hne)
  have hsome := (h.isSome_pid?_iff hrefused).mpr hexternal
  simp [hpid] at hsome

end Fits

/-- Each task that was taken up has had a turn that it can have. -/
theorem Sequence.fits {argvs : List (List String)} {turns : List Turn}
    (h : Sequence registry argvs turns) :
    List.Forall₂ (Fits registry) (argvs.take turns.length) turns := by
  induction h with
  | nil => exact .nil
  | last hfits => exact .cons hfits .nil
  | cons hfits _ _ ih => exact .cons hfits ih

theorem entitled_markAll {turns : List Turn} {tasks : List Task}
    (hfits : List.Forall₂ (Fits registry) ((tasks.map Task.argv).take turns.length) turns)
    (h : ∀ task ∈ tasks, task.Entitled registry) :
    ∀ task ∈ markAll turns tasks, task.Entitled registry := by
  induction turns generalizing tasks with
  | nil => simpa using h
  | cons turn turns ih =>
      cases tasks with
      | nil => simp [markAll]
      | cons task rest =>
          rw [List.forall_mem_cons] at h
          obtain ⟨hfirst, hrest⟩ := List.forall₂_cons.mp hfits
          rw [markAll_cons, List.forall_mem_cons]
          exact ⟨hfirst.entitled_mark h.1, ih hrest h.2⟩

/-- The tasks that were taken up, once their exit statuses are known. -/
def ended : List (List String) → List Turn → List ExitStatus → List Task
  | argv :: argvs, turn :: turns, exit :: exits =>
      ⟨argv, turn.pid?, some exit⟩ :: ended argvs turns exits
  | _, _, _ => []

theorem ended_nil (argvs : List (List String)) (exits : List ExitStatus) :
    ended argvs [] exits = [] := by
  cases argvs <;> rfl

theorem length_ended {argvs : List (List String)} {turns : List Turn} {exits : List ExitStatus}
    (hturns : turns.length ≤ argvs.length) (hexits : exits.length = turns.length) :
    (ended argvs turns exits).length = turns.length := by
  induction turns generalizing argvs exits with
  | nil => simp [ended_nil]
  | cons turn turns ih =>
      cases argvs with
      | nil => simp at hturns
      | cons argv argvs =>
          cases exits with
          | nil => simp at hexits
          | cons exit exits => simp [ended, ih (by simpa using hturns) (by simpa using hexits)]

theorem isSome_status_of_mem_ended {argvs : List (List String)} {turns : List Turn}
    {exits : List ExitStatus} {task : Task} (h : task ∈ ended argvs turns exits) :
    task.status.isSome = true := by
  induction argvs generalizing turns exits with
  | nil => simp [ended] at h
  | cons argv argvs ih =>
      cases turns with
      | nil => simp [ended] at h
      | cons turn turns =>
          cases exits with
          | nil => simp [ended] at h
          | cons exit exits =>
              rcases List.mem_cons.mp h with rfl | hlater
              · rfl
              · exact ih hlater

/-- Only a command that ends the shell keeps tasks from being taken up. -/
theorem Sequence.length_of_outcome {argvs : List (List String)} {turns : List Turn}
    (h : Sequence registry argvs turns) (houtcome : outcome turns = .ok none) :
    turns.length = argvs.length := by
  refine (h.completed (h.not_mem_refused houtcome) fun exit hmem => ?_).2
  rw [h.outcome_eq_terminate_iff.mpr hmem] at houtcome
  cases houtcome

theorem isTerminal_of_outcome {turns : List Turn} {status : Status}
    (h : outcome turns = .ok (some status)) : ∃ exit, status = .terminate exit := by
  induction turns with
  | nil => simp [outcome] at h
  | cons turn rest ih =>
      cases hlast : turn.isLast with
      | false => exact ih (outcome_cons hlast rest ▸ h)
      | true =>
          rcases eq_of_isLast hlast with ⟨e, rfl⟩ | ⟨exit, rfl⟩
          · simp [outcome] at h
          · exact ⟨exit, by simpa [outcome, eq_comm] using h⟩

end Turn

namespace Job

variable {κ : Type} [Kernel κ] {registry : Registry (Console κ)}

/-! ### How the tasks stand as a run goes on -/

/-- The tasks before the first turn and after each. -/
def marking (turns : List Turn) (tasks : List Task) : List (List Task) :=
  (List.range (turns.length + 1)).map fun k => Turn.markAll (turns.take k) tasks

/-- The tasks before the first of them is waited for, and after it is each one's turn. -/
def settling (tasks : List Task) (replies : List (List WaitReply)) : List (List Task) :=
  (List.range (tasks.length + 1)).map fun k => settleAll (tasks.take k) replies ++ tasks.drop k

/-- The tasks at all times of a run. -/
def moments (registry : Registry (Console κ)) (job : Job) (c : Console κ) : List (List Task) :=
  match Console.call (Pipe.openMany (job.size - 1)) c with
  | (.error _, _) => [job.tasks]
  | (.ok pipes, c) =>
      let taken := turns registry none pipes job.argvs c
      let tasks := Turn.markAll taken.1 job.tasks
      match Turn.outcome taken.1 with
      | .error _ => marking taken.1 job.tasks
      | .ok _ =>
          marking taken.1 job.tasks ++
            settling tasks (waitAll (tasks.filterMap Task.pid) taken.2.kernel).1

theorem head?_marking (turns : List Turn) (tasks : List Task) :
    (marking turns tasks).head? = some tasks := by
  simp [marking, List.range_succ_eq_map]

theorem getLast?_marking (turns : List Turn) (tasks : List Task) :
    (marking turns tasks).getLast? = some (Turn.markAll turns tasks) := by
  simp [marking, List.range_succ]

theorem getLast?_settling (tasks : List Task) (replies : List (List WaitReply)) :
    (settling tasks replies).getLast? = some (settleAll tasks replies) := by
  simp [settling, List.range_succ]

/-- The moments are those of the run: it begins with the tasks of the job and ends with those that it
leaves. -/
theorem moments_ends (registry : Registry (Console κ)) (job : Job) (c : Console κ) :
    (job.moments registry c).head? = some job.tasks ∧
      (job.moments registry c).getLast? = some (job.execute registry c).1.2.tasks := by
  rcases hopen : Console.call (Pipe.openMany (job.size - 1)) c with ⟨answer, c₁⟩
  cases answer with
  | error e => simp [moments, hopen, execute_of_unopened hopen]
  | ok pipes =>
      simp only [moments, hopen, execute_of_opened hopen]
      cases Turn.outcome (turns registry none pipes job.argvs c₁).1 with
      | error e => exact ⟨head?_marking .., getLast?_marking ..⟩
      | ok stop =>
          refine ⟨?_, ?_⟩
          · rw [List.head?_append, head?_marking, Option.some_or]
          · rw [List.getLast?_append, getLast?_settling, Option.some_or]
            simp only [Console.call_apply, reap_eq]

theorem entitled_marking {turns : List Turn} {tasks : List Task}
    (hfits : List.Forall₂ (Turn.Fits registry) ((tasks.map Task.argv).take turns.length) turns)
    (h : ∀ task ∈ tasks, task.Entitled registry) :
    ∀ standing ∈ marking turns tasks, ∀ task ∈ standing, task.Entitled registry := by
  intro standing hmem
  obtain ⟨k, -, rfl⟩ := List.mem_map.mp hmem
  have htake := List.forall₂_take k hfits
  rw [List.take_take, ← List.length_take] at htake
  exact Turn.entitled_markAll htake h

theorem entitled_settling {σ : Type} {registry : Registry σ} {tasks : List Task}
    (h : ∀ task ∈ tasks, task.Entitled registry) (replies : List (List WaitReply)) :
    ∀ standing ∈ settling tasks replies, ∀ task ∈ standing, task.Entitled registry := by
  intro standing hmem
  obtain ⟨k, -, rfl⟩ := List.mem_map.mp hmem
  refine List.forall_mem_append.mpr
    ⟨fun task htask => ?_, fun task htask => h task (List.mem_of_mem_drop htask)⟩
  -- Waiting changes neither the arguments of a task nor its process.
  obtain ⟨j, hj⟩ := List.mem_iff_getElem?.mp htask
  obtain ⟨before, hbefore, hargv, hpid⟩ := getElem?_settleAll hj
  have hentitled := h before (List.mem_of_mem_take (List.mem_of_getElem? hbefore))
  rwa [Task.Entitled, hargv, hpid]

/-- At no time of a run does a task have a process that does not need one, if none has at first. -/
theorem entitled_moments {job : Job} (h : ∀ task ∈ job.tasks, task.Entitled registry)
    (c : Console κ) :
    ∀ standing ∈ job.moments registry c, ∀ task ∈ standing, task.Entitled registry := by
  rcases hopen : Console.call (Pipe.openMany (job.size - 1)) c with ⟨answer, c₁⟩
  cases answer with
  | error e => simpa [moments, hopen] using h
  | ok pipes =>
      have hfits := (turns_sequence registry none pipes job.argvs c₁).fits
      simp only [moments, hopen]
      cases Turn.outcome (turns registry none pipes job.argvs c₁).1 with
      | error e => exact entitled_marking hfits h
      | ok stop =>
          exact List.forall_mem_append.mpr
            ⟨entitled_marking hfits h, entitled_settling (Turn.entitled_markAll hfits h) _⟩

theorem entitled_execute {job : Job} (h : ∀ task ∈ job.tasks, task.Entitled registry)
    (c : Console κ) : ∀ task ∈ (job.execute registry c).1.2.tasks, task.Entitled registry :=
  entitled_moments h c _ (List.mem_of_getLast? (moments_ends registry job c).2)

/-! ### What a run comes to, whatever was left by earlier ones -/

theorem reap_mark_cons {task : Task} {turn : Turn} (hfits : Turn.Fits registry task.argv turn)
    (htask : task.Entitled registry) (hrefused : ∀ e, turn ≠ .refused e) (rest : List Task)
    (s : κ) :
    reap (Turn.mark task turn :: rest) s =
      let exit := turn.conclude s
      let later := reap rest exit.2
      (⟨task.argv, turn.pid?, some exit.1⟩ :: later.1, later.2) := by
  cases turn with
  | refused e => exact absurd rfl (hrefused e)
  | launched pid =>
      -- The new process has taken the place of the old one.
      simp only [reap, Turn.mark, Task.withPid, bind_apply, pure_apply, Turn.conclude, Wait.exit]
      cases Wait.settle (Kernel.wait pid s).1 <;> rfl
  | _ =>
      have hpid := hfits.pid_eq_none htask hrefused rfl
      simp [reap, Turn.mark, Task.withStatus, hpid, Turn.conclude, Turn.pid?]

/-- The tasks that were taken up are waited for first, and what they come to does not depend on what
they were like before. -/
theorem reap_markAll_of_fits {turns : List Turn} {tasks : List Task}
    (hfits : List.Forall₂ (Turn.Fits registry) ((tasks.map Task.argv).take turns.length) turns)
    (h : ∀ task ∈ tasks, task.Entitled registry) (hrefused : ∀ e, .refused e ∉ turns) (s : κ) :
    reap (Turn.markAll turns tasks) s =
      let exits := Turn.concludeAll turns s
      let later := reap (tasks.drop turns.length) exits.2
      (Turn.ended (tasks.map Task.argv) turns exits.1 ++ later.1, later.2) := by
  induction turns generalizing tasks s with
  | nil => simp [Turn.ended_nil, Turn.concludeAll]
  | cons turn turns ih =>
      cases tasks with
      | nil => cases hfits
      | cons task rest =>
          obtain ⟨hfirst, hrest⟩ := List.forall₂_cons.mp hfits
          rw [List.forall_mem_cons] at h
          have hne : ∀ e, turn ≠ .refused e := by
            rintro e rfl
            exact hrefused e List.mem_cons_self
          have hlater := ih hrest h.2 (fun e he => hrefused e (List.mem_cons_of_mem _ he))
            (turn.conclude s).2
          simp only [Turn.markAll_cons, reap_mark_cons hfirst h.1 hne, hlater]
          rfl

/-- A run that comes to a status leaves the tasks that were taken up as their turns and exit statuses say.
There are others only if a command ended the shell. -/
theorem execute_of_entitled {job : Job} (h : ∀ task ∈ job.tasks, task.Entitled registry)
    {c c₁ c₂ c₃ : Console κ} {pipes : List Pipe} {taken : List Turn} {exits : List ExitStatus}
    {stop : Option Status}
    (hopen : Console.call (Pipe.openMany (job.size - 1)) c = (.ok pipes, c₁))
    (hturns : turns registry none pipes job.argvs c₁ = (taken, c₂))
    (houtcome : Turn.outcome taken = .ok stop)
    (hexits : Console.call (Turn.concludeAll taken) c₂ = (exits, c₃)) :
    ∃ later c', (let tasks := Turn.ended job.argvs taken exits ++ later
      let status := stop.getD (lastTaskStatus tasks)
      job.execute registry c = ((.ok status, ⟨tasks, some status⟩), c')) ∧
      (stop = none → later = [] ∧ c' = c₃) := by
  have hsequence : Turn.Sequence registry job.argvs taken := by
    simpa [hturns] using turns_sequence registry none pipes job.argvs c₁
  have hreap := reap_markAll_of_fits hsequence.fits h (hsequence.not_mem_refused houtcome)
    c₂.kernel
  obtain ⟨rfl, rfl⟩ := Prod.mk.inj hexits
  refine ⟨(reap (job.tasks.drop taken.length) (Turn.concludeAll taken c₂.kernel).2).1,
    { c₂ with kernel := (reap (job.tasks.drop taken.length) (Turn.concludeAll taken c₂.kernel).2).2 },
    ?_, ?_⟩
  · simp only [execute_of_opened hopen, hturns, houtcome, Console.call_apply, hreap]
    rfl
  · rintro rfl
    have hlength : taken.length = job.tasks.length := by
      simpa [argvs] using hsequence.length_of_outcome houtcome
    rw [hlength, List.drop_length]
    exact ⟨rfl, rfl⟩

theorem length_of_reached {job : Job} {c c₁ c₂ : Console κ} {stages : List (Stage κ)}
    {pipes : List Pipe} {taken : List Turn} (h : job.reached registry c = .ok stages)
    (hopen : Console.call (Pipe.openMany (job.size - 1)) c = (.ok pipes, c₁))
    (hturns : turns registry none pipes job.argvs c₁ = (taken, c₂)) :
    taken.length = stages.length := by
  have hstages : Job.stages registry none pipes job.argvs c₁ = stages := by
    simpa [reached, hopen] using h
  have hmap := turns_fst registry none pipes job.argvs c₁
  rw [hturns, hstages] at hmap
  simpa using congrArg List.length hmap

/-- Two jobs come to the same: to the same status or error, with the same tasks taken up. -/
structure Alike (registry : Registry (Console κ)) (first second : Job) (c : Console κ) : Prop where
  reached : first.reached registry c = second.reached registry c
  result : (first.execute registry c).1.1 = (second.execute registry c).1.1
  /-- If they come to a status, they keep it, and leave the tasks that were taken up the same. -/
  tasks (status : Status) (stages : List (Stage κ)) :
    (first.execute registry c).1.1 = .ok status → first.reached registry c = .ok stages →
      (first.execute registry c).1.2.lastStatus = some status ∧
      (second.execute registry c).1.2.lastStatus = some status ∧
      (first.execute registry c).1.2.tasks.take stages.length =
        (second.execute registry c).1.2.tasks.take stages.length ∧
      ∀ task ∈ (first.execute registry c).1.2.tasks.take stages.length, task.status.isSome = true
  /-- If no command ended the shell, they leave everything the same. -/
  whole (exit : ExitStatus) : (first.execute registry c).1.1 = .ok (.proceed exit) →
    first.execute registry c = second.execute registry c

theorem size_eq (job : Job) : job.size = job.argvs.length := (List.length_map _).symm

theorem reached_congr {first second : Job} (hargvs : first.argvs = second.argvs)
    (registry : Registry (Console κ)) (c : Console κ) :
    first.reached registry c = second.reached registry c := by
  simp only [reached, size_eq, hargvs]

/-- What is left of earlier runs makes no difference to two jobs with the same arguments. -/
theorem alike_of_argvs {first second : Job} (hargvs : first.argvs = second.argvs)
    (hfirst : ∀ task ∈ first.tasks, task.Entitled registry)
    (hsecond : ∀ task ∈ second.tasks, task.Entitled registry) (c : Console κ) :
    Alike registry first second c := by
  have hreached := reached_congr hargvs registry c
  have hsize : second.size = first.size := by simp only [size_eq, hargvs]
  rcases hopen : Console.call (Pipe.openMany (first.size - 1)) c with ⟨answer, c₁⟩
  have hopen' : Console.call (Pipe.openMany (second.size - 1)) c = (answer, c₁) := hsize ▸ hopen
  cases answer with
  | error e =>
      refine ⟨hreached, ?_, ?_, ?_⟩
      all_goals simp [execute_of_unopened hopen, execute_of_unopened hopen']
  | ok pipes =>
      rcases hturns : turns registry none pipes first.argvs c₁ with ⟨taken, c₂⟩
      have hturns' : turns registry none pipes second.argvs c₁ = (taken, c₂) := hargvs ▸ hturns
      rcases hexits : Console.call (Turn.concludeAll taken) c₂ with ⟨exits, c₃⟩
      have hsequence : Turn.Sequence registry first.argvs taken := by
        simpa [hturns] using turns_sequence registry none pipes first.argvs c₁
      have hreaped : exits.length = taken.length := by
        simpa [← (Prod.mk.inj hexits).1] using Turn.length_concludeAll taken c₂.kernel
      cases houtcome : Turn.outcome taken with
      | error e =>
          refine ⟨hreached, ?_, ?_, ?_⟩
          all_goals simp [execute_of_opened hopen, execute_of_opened hopen', hturns, hturns', houtcome]
      | ok stop =>
          obtain ⟨later, c', hrun, hnone⟩ := execute_of_entitled hfirst hopen hturns houtcome hexits
          obtain ⟨later', c'', hrun', hnone'⟩ :=
            execute_of_entitled hsecond hopen' hturns' houtcome hexits
          rw [← hargvs] at hrun'
          have hstatus : stop.getD (lastTaskStatus (Turn.ended first.argvs taken exits ++ later)) =
              stop.getD (lastTaskStatus (Turn.ended first.argvs taken exits ++ later')) := by
            -- The statuses of leftover tasks count for nothing: where there are any, a command ended
            -- the shell and gave the status.
            cases stop with
            | none => rw [(hnone rfl).1, (hnone' rfl).1]
            | some status => rfl
          refine ⟨hreached, ?_, ?_, ?_⟩
          · rw [hrun, hrun']
            exact congrArg Except.ok hstatus
          · intro status stages hok hstages
            have hlength : (Turn.ended first.argvs taken exits).length = stages.length :=
              (Turn.length_ended (hsequence.length_le) hreaped).trans
                (length_of_reached hstages hopen hturns)
            obtain rfl : _ = status := by simpa [hrun] using hok
            rw [hrun, hrun']
            refine ⟨rfl, congrArg some hstatus.symm, ?_, ?_⟩
            · rw [List.take_left' hlength, List.take_left' hlength]
            · rw [List.take_left' hlength]
              exact fun task htask => Turn.isSome_status_of_mem_ended htask
          · intro exit hok
            cases stop with
            | none =>
                obtain ⟨rfl, rfl⟩ := hnone rfl
                obtain ⟨rfl, rfl⟩ := hnone' rfl
                rw [hrun, hrun']
            | some status =>
                obtain ⟨exit', rfl⟩ := Turn.isTerminal_of_outcome houtcome
                simp [hrun] at hok

/-! ### Run after run -/

theorem argvs_execute (registry : Registry (Console κ)) (job : Job) (c : Console κ) :
    (job.execute registry c).1.2.argvs = job.argvs := by
  rcases hopen : Console.call (Pipe.openMany (job.size - 1)) c with ⟨answer, c₁⟩
  cases answer with
  | error e => rw [execute_of_unopened hopen]
  | ok pipes =>
      have hlength : (turns registry none pipes job.argvs c₁).1.length ≤ job.tasks.length := by
        simpa [argvs] using (turns_sequence registry none pipes job.argvs c₁).length_le
      have hmarked := Turn.map_argv_markAll hlength
      simp only [execute_of_opened hopen]
      cases Turn.outcome (turns registry none pipes job.argvs c₁).1 with
      | error e => exact hmarked
      | ok stop =>
          simp only [Console.call_apply, reap_eq, argvs, map_argv_settleAll]
          exact hmarked

/-- The job after it was run in these states, one after another. -/
def rerun (registry : Registry (Console κ)) (job : Job) (states : List (Console κ)) : Job :=
  states.foldl (fun job c => (job.execute registry c).1.2) job

theorem argvs_rerun (registry : Registry (Console κ)) (job : Job) (states : List (Console κ)) :
    (job.rerun registry states).argvs = job.argvs := by
  induction states generalizing job with
  | nil => rfl
  | cons c later ih => exact (ih _).trans (argvs_execute registry job c)

theorem entitled_rerun {job : Job} (h : ∀ task ∈ job.tasks, task.Entitled registry)
    (states : List (Console κ)) :
    ∀ task ∈ (job.rerun registry states).tasks, task.Entitled registry := by
  induction states generalizing job with
  | nil => exact h
  | cons c later ih => exact ih (entitled_execute h c)

/-- However often a job has been run, and in whatever states, the next run comes to what a new job with
the same arguments would come to. At all times of the run only tasks that need a process have one. -/
theorem execute_repeated (registry : Registry (Console κ)) {job : Job}
    (hfresh : ∀ task ∈ job.tasks, task.pid = none) (earlier : List (Console κ)) (c : Console κ) :
    let used := job.rerun registry earlier
    Alike registry used (.ofArgvs job.argvs) c ∧
      ((used.moments registry c).head? = some used.tasks ∧
        (used.moments registry c).getLast? = some (used.execute registry c).1.2.tasks) ∧
      ∀ standing ∈ used.moments registry c, ∀ task ∈ standing,
        task.pid.isSome = true → Task.External registry task.argv := by
  intro used
  have hused : ∀ task ∈ used.tasks, task.Entitled registry :=
    entitled_rerun (fun task htask => Task.entitled_of_no_pid (hfresh task htask)) earlier
  have hnew : ∀ task ∈ (ofArgvs job.argvs).tasks, task.Entitled registry := by
    intro task htask
    obtain ⟨argv, -, rfl⟩ := List.mem_map.mp htask
    exact Task.entitled_of_no_pid rfl
  have hargvs : used.argvs = (ofArgvs job.argvs).argvs :=
    (argvs_rerun registry job earlier).trans (argvs_ofArgvs job.argvs).symm
  exact ⟨alike_of_argvs hargvs hused hnew c, moments_ends registry used c, entitled_moments hused c⟩

/-- The first run leaves a process with the last task. The second one is ended by the command before it,
and waiting for that process fails. -/
theorem execute_repeated_halted :
    let halt : Command (Console Rehearsal) :=
      { name := "halt", description := "", help := "", body := fun _ => do
          match ← Environment.value? "HALT" with
          | some _ => return .ok (.terminate (.ofCode 3))
          | none => return .ok .success }
    let registry : Registry (Console Rehearsal) := ⟨[halt]⟩
    let job : Job := .ofArgvs [["true"], ["halt"], ["cat"]]
    let c : Console Rehearsal := { kernel := { endings := [[.ok 0], [.ok 1792]] } }
    let c' : Console Rehearsal := { kernel := { endings := [[.ok 512]], settings := [("HALT", "")] } }
    job.rerun registry [c] = ⟨[⟨["true"], some 2, some .success⟩, ⟨["halt"], none, some .success⟩,
        ⟨["cat"], some 3, some (.ofCode 7)⟩], some (.proceed (.ofCode 7))⟩ ∧
      ((job.rerun registry [c]).execute registry c').1.1 = .ok (.terminate (.ofCode 3)) ∧
      ((job.rerun registry [c]).execute registry c').1.2.tasks.take 2 =
        [⟨["true"], some 2, some (.ofCode 2)⟩, ⟨["halt"], none, some (.ofCode 3)⟩] ∧
      ((job.rerun registry [c]).execute registry c').1.2.tasks.drop 2 =
        [⟨["cat"], some 3, some .failure⟩] := by
  intro halt registry job c c'
  have hfresh : ∀ task ∈ job.tasks, task.pid = none := by decide
  have hused : job.rerun registry [c] = ⟨[⟨["true"], some 2, some .success⟩,
      ⟨["halt"], none, some .success⟩, ⟨["cat"], some 3, some (.ofCode 7)⟩],
      some (.proceed (.ofCode 7))⟩ := by
    cbv
  obtain ⟨halike, -, -⟩ := execute_repeated registry hfresh [c] c'
  have hnew : ((ofArgvs job.argvs).execute registry c').1 = (.ok (.terminate (.ofCode 3)),
      ⟨[⟨["true"], some 2, some (.ofCode 2)⟩, ⟨["halt"], none, some (.ofCode 3)⟩,
        ⟨["cat"], none, none⟩], some (.terminate (.ofCode 3))⟩) := by
    cbv
  have hresult : ((job.rerun registry [c]).execute registry c').1.1 = .ok (.terminate (.ofCode 3)) :=
    halike.result.trans (by rw [hnew])
  have hlength : ((ofArgvs job.argvs).reached registry c').map List.length = .ok 2 := by
    cbv
  cases hreached : (ofArgvs job.argvs).reached registry c' with
  | error e => simp [hreached, Except.map] at hlength
  | ok stages =>
      have hstages : stages.length = 2 := by simpa [hreached, Except.map] using hlength
      obtain ⟨-, -, htasks, -⟩ := halike.tasks _ _ hresult (halike.reached.trans hreached)
      rw [hstages, hnew] at htasks
      have hstale : ((job.rerun registry [c]).execute registry c').1.2.tasks.drop 2 =
          [⟨["cat"], some 3, some .failure⟩] := by
        rw [hused]
        cbv
      exact ⟨hused, hresult, htasks, hstale⟩

end Job

end LineShell
