import LineShell.Proofs.Job.Ends
import LineShell.Proofs.Kernel.Rationing
import LineShell.Proofs.Session.Contained
import Mathlib

/-!
Jobs whose pipes cannot be made. Such a job leaves no trace: the pipes that were made for it are
closed again, and nothing is done for its tasks. It counts as failed, and the line goes on as it does
after any other job that has failed.
-/

namespace LineShell

/-- The record of making these pipes, failing to make another one, and closing them again. -/
def Pipe.attempt (made : List Pipe) (e : Errno) : List Event :=
  made.map (fun pipe => .piped (.ok (pipe.reader, pipe.writer))) ++
    .piped (.error e) :: closes (made.flatMap ends)

theorem Opened.exists_attempt {made : List Pipe} {count : Nat} {answer : Except Errno (List Pipe)}
    {events : List Event} (h : Opened made count answer events) {e : Errno}
    (he : answer = .error e) :
    ∃ later : List Pipe, later.length < count ∧
      events = later.map (fun pipe => .piped (.ok (pipe.reader, pipe.writer))) ++
        .piped (.error e) :: closes ((made ++ later).flatMap Pipe.ends) := by
  induction h with
  | all => cases he
  | one reader writer _ ih =>
      obtain ⟨later, hlength, rfl⟩ := ih he
      exact ⟨⟨reader, writer⟩ :: later, by simpa using hlength, by simp⟩
  | failed made count e' =>
      obtain rfl := Except.error.inj he
      exact ⟨[], Nat.succ_pos count, by simp⟩

/-- Whatever is open before is open afterwards, and nothing else is. -/
theorem Opened.table_of_error {count : Nat} {e : Errno} {events : List Event}
    (h : Opened [] count (.error e) events) {l : Ledger} (hlawful : l.Lawful events) :
    (l.after events).table = l.table :=
  (h.laid (Laid.nil l.table l.made) rfl hlawful).2.2 e rfl

namespace Job

variable {κ : Type} [Kernel κ] {job : Job} {c c' : Console κ} {e : Errno}

/-- The pipes of the job cannot be made; the attempt leaves this state. -/
def Unopened (job : Job) (c : Console κ) (e : Errno) (c' : Console κ) : Prop :=
  Console.call (Pipe.openMany (job.size - 1)) c = (.error e, c')

theorem Unopened.kernel (h : job.Unopened c e c') :
    Pipe.openMany (job.size - 1) c.kernel = (.error e, c'.kernel) := by
  obtain ⟨hanswer, rfl⟩ := Prod.mk.inj h
  exact Prod.ext hanswer rfl

theorem Unopened.buffered (h : job.Unopened c e c') : c'.buffered = c.buffered := by
  obtain ⟨_, rfl⟩ := Prod.mk.inj h
  rfl

theorem Unopened.execute (h : job.Unopened c e c') (registry : Registry (Console κ)) :
    job.execute registry c = ((.error (.pipe e), job), c') :=
  execute_of_unopened h

theorem execute_fst_eq_pipe_iff (registry : Registry (Console κ)) :
    (job.execute registry c).1.1 = .error (.pipe e) ↔ ∃ c', job.Unopened c e c' := by
  constructor
  · intro h
    rcases execute_fst_eq_error h with ⟨errno, heq, hreached⟩ | ⟨_, _, heq, _⟩
    · obtain rfl := Error.pipe.inj heq
      refine ⟨(Console.call (Pipe.openMany (job.size - 1)) c).2, ?_⟩
      rw [reached] at hreached
      rcases hopen : Console.call (Pipe.openMany (job.size - 1)) c with ⟨answer, c'⟩
      simp only [hopen] at hreached
      cases answer with
      | ok pipes => cases hreached
      | error e' => exact hopen.trans (by rw [Except.error.inj hreached])
    · cases heq
  · rintro ⟨c', h⟩
    rw [h.execute]

end Job

namespace Session

variable {σ : Type} [Environment σ] {execute : Executor σ}

/-! ### A line from one of its jobs on -/

/-- From a job that is taken up on, a line is executed as its remaining jobs are. -/
theorem exists_executeJobs_drop {jobs : List Job} {s s' : σ} {k : Nat} {job : Job}
    (hk : (taken execute jobs s)[k]? = some (job, s')) (last : ExitStatus) (status : Status) :
    jobs.drop k = job :: jobs.drop (k + 1) ∧
      (taken execute jobs s).drop k = taken execute (jobs.drop k) s' ∧
      ∃ last' status', executeJobs execute last status jobs s =
        executeJobs execute last' status' (jobs.drop k) s' := by
  induction jobs generalizing s k last status with
  | nil => simp [taken] at hk
  | cons first rest ih =>
      cases k with
      | zero =>
          obtain ⟨rfl, rfl⟩ : first = job ∧ s = s' := by simpa [taken] using hk
          exact ⟨rfl, rfl, last, status, rfl⟩
      | succ k =>
          simp only [taken, List.getElem?_cons_succ, List.drop_succ_cons, executeJobs, bind_apply,
            passed] at hk ⊢
          rcases hfirst : execute first s with ⟨result, s₁⟩
          rw [hfirst] at hk
          cases result with
          | ok status =>
              cases status with
              | proceed exit => exact ih hk exit (.proceed exit)
              | terminate exit => simp at hk
          | error e =>
              cases e with
              | pipe e => exact ih hk .failure .failure
              | _ => simp at hk

/-- What was before the first job does not matter to a line that has one, except to the exit status
that is kept if the line fails. -/
theorem executeJobs_congr {jobs : List Job} (hne : jobs ≠ []) (last last' : ExitStatus)
    (status status' : Status) (s : σ) :
    (executeJobs execute last status jobs s).1.1 = (executeJobs execute last' status' jobs s).1.1 ∧
      (executeJobs execute last status jobs s).2 = (executeJobs execute last' status' jobs s).2 := by
  cases jobs with
  | nil => exact absurd rfl hne
  | cons job rest =>
      simp only [executeJobs, bind_apply]
      rcases execute job s with ⟨result, s'⟩
      cases result with
      | ok status => cases status <;> exact ⟨rfl, rfl⟩
      | error e => cases e <;> exact ⟨rfl, rfl⟩

theorem executeJobs_snd (jobs : List Job) (last last' : ExitStatus) (status status' : Status)
    (s : σ) :
    (executeJobs execute last status jobs s).2 = (executeJobs execute last' status' jobs s).2 := by
  cases jobs with
  | nil => rfl
  | cons job rest => exact (executeJobs_congr (List.cons_ne_nil _ _) ..).2

section After

variable {job : Job} {rest : List Job} {s s' : σ}

theorem executeJobs_cons_of_proceed {exit : ExitStatus}
    (h : execute job s = (.ok (.proceed exit), s')) (last : ExitStatus) (status : Status) :
    executeJobs execute last status (job :: rest) s =
      executeJobs execute exit (.proceed exit) rest s' := by
  simp only [executeJobs, bind_apply, h]

theorem executeJobs_cons_of_pipe {e : Errno} (h : execute job s = (.error (.pipe e), s'))
    (last : ExitStatus) (status : Status) :
    executeJobs execute last status (job :: rest) s =
      executeJobs execute .failure .failure rest (Environment.reportError (.pipe e) s').2 := by
  simp only [executeJobs, bind_apply, h]

theorem taken_cons_of_proceed {exit : ExitStatus}
    (h : execute job s = (.ok (.proceed exit), s')) :
    taken execute (job :: rest) s = (job, s) :: taken execute rest s' := by
  simp [taken, passed, h]

theorem taken_cons_of_pipe {e : Errno} (h : execute job s = (.error (.pipe e), s')) :
    taken execute (job :: rest) s =
      (job, s) :: taken execute rest (Environment.reportError (.pipe e) s').2 := by
  simp [taken, passed, h]

end After

end Session

namespace Shell

section Unopened

variable {κ : Type} [Kernel κ]

theorem executor_of_execute {shell : Shell κ} {job job' : Job} {c c' : Console κ}
    {result : Except Error Status} (h : job.execute shell.registry c = ((result, job'), c')) :
    shell.executor job c = (result, c') := by
  simp only [executor, bind_apply, h, pure_apply]

/-- A job whose pipes cannot be made leaves no trace but its report, and the line goes on. -/
structure Unopened (shell : Shell (Recorded κ)) : Prop where
  /-- Such jobs are those that fail so. -/
  failure (job : Job) (c : Console (Recorded κ)) (e : Errno) :
    (job.execute shell.registry c).1.1 = .error (.pipe e) ↔ ∃ c', job.Unopened c e c'
  /-- All that is done is to make some of the pipes and to close them again. So the job is as it was,
  nothing is written, no task is run and no process made, and what is open is what was open. -/
  job (job : Job) (c c' : Console (Recorded κ)) (e : Errno) : job.Unopened c e c' →
    job.execute shell.registry c = ((.error (.pipe e), job), c') ∧ c'.buffered = c.buffered ∧
      ∃ made : List Pipe, made.length < job.size - 1 ∧
        c'.kernel.log = c.kernel.log ++ Pipe.attempt made e ∧
        ∀ l : Ledger, l.Lawful (Pipe.attempt made e) →
          (l.after (Pipe.attempt made e)).table = l.table
  /-- The job counts as failed, and the jobs after it are executed. -/
  line (line : String) (c c' c'' : Console (Recorded κ)) (k : Nat) (job : Job) (e : Errno) :
    (shell.taken line c)[k]? = some (job, c') → job.Unopened c' e c'' →
      let rest := (Line.tokenize line).drop (k + 1)
      let reported := (Environment.reportError (.pipe e) c'').2
      (shell.taken line c).drop (k + 1) = Session.taken shell.executor rest reported ∧
        shell.executeLine line c =
          let ((result, last), c) :=
            Session.executeJobs shell.executor .failure .failure rest reported
          ((result, shell.withLast last), c)
  /-- Another job that has failed, by whatever exit status, and has left the same state would have
  been followed by the same. -/
  sequel (job other other' : Job) (rest : List Job) (c c' c₁ : Console (Recorded κ)) (e : Errno)
      (exit : ExitStatus) : job.Unopened c e c' →
    other.execute shell.registry c₁ =
        ((.ok (.proceed exit), other'), (Environment.reportError (.pipe e) c').2) →
      (Session.taken shell.executor (job :: rest) c).tail =
          (Session.taken shell.executor (other :: rest) c₁).tail ∧
        ∀ last status last' status',
          let run := Session.executeJobs shell.executor last status (job :: rest) c
          let run' := Session.executeJobs shell.executor last' status' (other :: rest) c₁
          run.2 = run'.2 ∧ (rest ≠ [] → run.1.1 = run'.1.1) ∧ (exit = .failure → run = run')
  /-- Where descriptors are rationed, such jobs are those for whose pipes there are too few left. -/
  count (ration : Rationing κ) (job : Job) (c : Console (Recorded κ)) :
    ((∃ pipes, (Console.call (Pipe.openMany (job.size - 1)) c).1 = .ok pipes) ↔
      2 * (job.size - 1) ≤ ration.free c.kernel.kernel) ∧
    ∀ e c', job.Unopened c e c' →
      ration.held c'.kernel.kernel = ration.held c.kernel.kernel ∧
        ration.free c'.kernel.kernel = ration.free c.kernel.kernel

/-- A job whose pipes cannot be made leaves no trace, whatever the commands of the shell are and
whatever the system does. -/
theorem unopened_jobs (shell : Shell (Recorded κ)) : Unopened shell where
  failure job c e := Job.execute_fst_eq_pipe_iff shell.registry
  job job c c' e h := by
    obtain ⟨events, hlog, hopened⟩ := Pipe.logs_openAfter [] (job.size - 1) c.kernel
    have h' := h.kernel
    rw [Pipe.openMany] at h'
    rw [h'] at hlog hopened
    obtain ⟨made, hlength, rfl⟩ := hopened.exists_attempt rfl
    exact ⟨h.execute shell.registry, h.buffered, made, hlength, hlog,
      fun l hlawful => hopened.table_of_error hlawful⟩
  line line c c' c'' k job e hk h := by
    obtain ⟨hdrop, htaken, last', status', hrun⟩ :=
      Session.exists_executeJobs_drop hk shell.lastStatus (.proceed shell.lastStatus)
    have hexecutor := executor_of_execute (h.execute shell.registry)
    rw [hdrop] at hrun htaken
    rw [Session.taken_cons_of_pipe hexecutor] at htaken
    rw [Session.executeJobs_cons_of_pipe hexecutor] at hrun
    refine ⟨?_, ?_⟩
    · rw [← List.tail_drop, taken, htaken, List.tail_cons]
    · simp only [executeLine, bind_apply, Session.executeLine, hrun]
      rfl
  sequel job other other' rest c c' c₁ e exit h hother := by
    have hjob := executor_of_execute (h.execute shell.registry)
    replace hother := executor_of_execute hother
    rw [Session.taken_cons_of_pipe hjob, Session.taken_cons_of_proceed hother]
    refine ⟨rfl, fun last status last' status' => ?_⟩
    rw [Session.executeJobs_cons_of_pipe hjob, Session.executeJobs_cons_of_proceed hother]
    refine ⟨Session.executeJobs_snd .., fun hrest => (Session.executeJobs_congr hrest ..).1, ?_⟩
    rintro rfl
    rfl
  count ration job c := by
    refine ⟨ration.recorded.exists_openMany_eq_ok_iff _ c.kernel, fun e c' h => ?_⟩
    obtain ⟨hheld, hlimit⟩ := ration.recorded.held_of_openMany_eq_error h.kernel
    exact ⟨hheld, congrArg₂ (fun limit held => limit - held.length) hlimit hheld⟩

/-- Three descriptors are left, so the first job gets one pipe and not the other. The second job does
with what the first has given back. -/
theorem unopened_jobs_cramped :
    let shell : Shell (Recorded Setback) := { registry := Registry.standard }
    let c : Console (Recorded Setback) := { kernel := { kernel := { limit := 6 } } }
    let job := Job.ofArgvs [["cd", "/"], ["cd", "/"], ["cd", "/"]]
    ∃ c', job.Unopened c .tooManyOpen c' ∧ c'.kernel.log = Pipe.attempt [⟨3, 4⟩] .tooManyOpen ∧
      Setback.rationing.free c.kernel.kernel = 3 ∧ Setback.rationing.free c'.kernel.kernel = 3 ∧
      (shell.executeLine "cd / | cd / | cd / ; cd / | cd /" c).1.1 = .ok .success := by
  intro shell c job
  have h := unopened_jobs shell
  obtain ⟨c', hc'⟩ := (h.failure job c .tooManyOpen).mp (by cbv)
  have hfree : Setback.rationing.free c.kernel.kernel = 3 := rfl
  refine ⟨c', hc', ?_, hfree, ((h.count Setback.rationing job c).2 _ _ hc').2.trans hfree, by cbv⟩
  have hlog : (job.execute shell.registry c).2.kernel.log = Pipe.attempt [⟨3, 4⟩] .tooManyOpen := by
    cbv
  rwa [(h.job job c c' _ hc').1] at hlog

end Unopened

end Shell

end LineShell
