import LineShell.Builtin.Scripted
import LineShell.Proofs.Job.Stage
import LineShell.Proofs.Rehearsal
import LineShell.Shell
import Mathlib

/-!
Errors of builtin commands stay with their tasks. Whatever a command fails with, the shell makes an
exit status of it and goes on; so a job fails only if its pipes or a process cannot be made, a line
only if a process cannot, and only a command that asks for it ends the shell.
-/

namespace LineShell

namespace Session

/-! ### The jobs of a line that are taken up -/

section Taken

variable {σ : Type} [Environment σ] (execute : Executor σ)

/-- Executes a job and notes it, with the state in which it is taken up. -/
def noting : Executor (σ × List (Job × σ)) := fun job (s, noted) =>
  let (result, s') := execute job s
  (result, (s', noted ++ [(job, s)]))

/-- The state in which the job after this one is taken up; `none` if the line ends with this one. -/
def passed (job : Job) (s : σ) : Option σ :=
  match execute job s with
  | (.ok (.proceed _), s) => some s
  | (.error (.pipe e), s) => some (Environment.reportError (.pipe e) s).2
  | _ => none

/-- The jobs that are taken up, each with the state in which it is. -/
def taken : List Job → σ → List (Job × σ)
  | [], _ => []
  | job :: rest, s => (job, s) :: (passed execute job s).elim [] (taken rest)

variable {execute}

theorem executeJobs_noting (jobs : List Job) (last : ExitStatus) (status : Status) (s : σ)
    (noted : List (Job × σ)) :
    executeJobs (noting execute) last status jobs (s, noted) =
      ((executeJobs execute last status jobs s).1,
        ((executeJobs execute last status jobs s).2, noted ++ taken execute jobs s)) := by
  induction jobs generalizing last status s noted with
  | nil => simp [executeJobs, taken]
  | cons job rest ih =>
      simp only [executeJobs, taken, passed, bind_apply, noting]
      rcases execute job s with ⟨result, s'⟩
      cases result with
      | ok status =>
          cases status with
          | proceed exit => simp [ih]
          | terminate exit => rfl
      | error e =>
          cases e with
          | pipe e => exact (ih ..).trans (by simp; rfl)
          | _ => rfl

/-- After a job that the line passes the next one is taken up. -/
theorem getElem?_succ_taken {jobs : List Job} {s s' : σ} {k : Nat} {job : Job}
    (hk : (taken execute jobs s)[k]? = some (job, s'))
    (hpassed : (passed execute job s').isSome = true) (hlt : k + 1 < jobs.length) :
    ∃ next ∈ jobs[k + 1]?, ∃ s'', (taken execute jobs s)[k + 1]? = some (next, s'') := by
  induction jobs generalizing s k with
  | nil => simp at hlt
  | cons first rest ih =>
      rw [taken] at hk ⊢
      cases k with
      | zero =>
          obtain ⟨rfl, rfl⟩ : first = job ∧ s = s' := by simpa using hk
          obtain ⟨s'', hs''⟩ := Option.isSome_iff_exists.mp hpassed
          cases rest with
          | nil => simp at hlt
          | cons next rest => simp [hs'', taken]
      | succ k =>
          cases hfirst : passed execute first s with
          | none => simp [hfirst] at hk
          | some s₁ =>
              simp only [hfirst, Option.elim_some, List.getElem?_cons_succ] at hk ⊢
              exact ih hk (by simpa using hlt)

/-- A line fails with the error of a job that it does not pass. -/
theorem exists_of_executeJobs_eq_error {jobs : List Job} {last : ExitStatus} {status : Status}
    {s : σ} {e : Error} (h : (executeJobs execute last status jobs s).1.1 = .error e) :
    (∀ errno, e ≠ .pipe errno) ∧ ∃ p ∈ taken execute jobs s, (execute p.1 p.2).1 = .error e := by
  induction jobs generalizing last status s with
  | nil => simp [executeJobs] at h
  | cons job rest ih =>
      simp only [executeJobs, taken, passed, bind_apply] at h ⊢
      rcases hrun : execute job s with ⟨result, s'⟩
      rw [hrun] at h
      have hfirst (he : result = .error e) : (execute job s).1 = .error e := by rw [hrun, he]
      cases result with
      | ok status =>
          cases status with
          | proceed exit =>
              obtain ⟨hne, p, hp, hresult⟩ := ih h
              exact ⟨hne, p, List.mem_cons_of_mem _ hp, hresult⟩
          | terminate exit => cases h
      | error e' =>
          cases e' with
          | pipe errno =>
              obtain ⟨hne, p, hp, hresult⟩ := ih h
              exact ⟨hne, p, List.mem_cons_of_mem _ hp, hresult⟩
          | _ =>
              obtain rfl := Except.error.inj h
              exact ⟨by simp, (job, s), List.mem_cons_self, hfirst rfl⟩

/-- A line asks the shell to end just if one of the jobs taken up does. -/
theorem executeJobs_eq_terminate_iff {jobs : List Job} {last exit₀ exit : ExitStatus} {s : σ} :
    (executeJobs execute last (.proceed exit₀) jobs s).1.1 = .ok (.terminate exit) ↔
      ∃ p ∈ taken execute jobs s, (execute p.1 p.2).1 = .ok (.terminate exit) := by
  induction jobs generalizing last exit₀ s with
  | nil => simp [executeJobs, taken]
  | cons job rest ih =>
      simp only [executeJobs, taken, passed, bind_apply, List.mem_cons, exists_eq_or_imp]
      rcases execute job s with ⟨result, s'⟩
      cases result with
      | ok status =>
          cases status with
          | proceed exit' => simp [ih]
          | terminate exit' => simp
      | error e =>
          cases e with
          | pipe errno => simp [Status.failure, ih]
          | _ => simp

end Taken

end Session

/-! ### What the stages of a job make of it -/

namespace Job

variable {κ : Type} [Kernel κ] (registry : Registry (Console κ)) (job : Job) (c : Console κ)

/-- Nothing more is taken up after the job: one of its stages halts. -/
def Halts : Prop :=
  ∃ stages, job.reached registry c = .ok stages ∧ ∃ stage ∈ stages, stage.Halts registry

/-- Some command of the job asks the shell to end, with this status. -/
def Ends (exit : ExitStatus) : Prop :=
  ∃ stages, job.reached registry c = .ok stages ∧ ∃ stage ∈ stages,
    stage.answer registry = some (.ok (.terminate exit))

variable {registry job c}

theorem execute_fst_eq_terminate_iff_ends {exit : ExitStatus} :
    (job.execute registry c).1.1 = .ok (.terminate exit) ↔ job.Ends registry c exit := by
  cases h : job.reached registry c with
  | error e => simp [Ends, h, execute_of_reached_error h]
  | ok stages => simp [Ends, h, execute_fst_eq_terminate_iff h]

theorem execute_fst_eq_error {e : Error} (h : (job.execute registry c).1.1 = .error e) :
    (∃ errno, e = .pipe errno ∧ job.reached registry c = .error errno) ∨
      ∃ errno stages, e = .fork errno ∧ job.reached registry c = .ok stages ∧
        ∃ stage ∈ stages, (stage.turn registry).1 = .refused errno := by
  cases hreached : job.reached registry c with
  | error errno =>
      rw [execute_of_reached_error hreached] at h
      exact .inl ⟨errno, (Except.error.inj h).symm, rfl⟩
  | ok stages =>
      obtain ⟨errno, rfl, hrefused⟩ := (execute_fst_eq_error_iff hreached).mp h
      exact .inr ⟨errno, stages, rfl, rfl, hrefused⟩

theorem halts_iff :
    job.Halts registry c ↔ (∃ errno, (job.execute registry c).1.1 = .error (.fork errno)) ∨
      ∃ exit, (job.execute registry c).1.1 = .ok (.terminate exit) := by
  cases h : job.reached registry c with
  | error e => simp [Halts, h, execute_of_reached_error h]
  | ok stages =>
      simp only [Halts, h, Stage.Halts, execute_fst_eq_error_iff h, execute_fst_eq_terminate_iff h]
      grind

end Job

/-! ### Lines -/

namespace Shell

variable {κ : Type} [Kernel κ] {shell : Shell κ}

theorem passed_isSome {job : Job} {c : Console κ} (h : ¬ job.Halts shell.registry c) :
    (Session.passed shell.executor job c).isSome = true := by
  rw [Job.halts_iff, not_or, not_exists, not_exists] at h
  obtain ⟨hfork, hends⟩ := h
  simp only [Session.passed, executor, bind_apply, pure_apply]
  cases hresult : (job.execute shell.registry c).1.1 with
  | ok status =>
      cases status with
      | proceed exit => rfl
      | terminate exit => exact absurd hresult (hends exit)
  | error e =>
      rcases Job.execute_fst_eq_error hresult with ⟨errno, rfl, _⟩ | ⟨errno, stages, rfl, _⟩
      · rfl
      · exact absurd hresult (hfork errno)

theorem executeLine_fst (shell : Shell κ) (line : String) (c : Console κ) :
    (shell.executeLine line c).1.1 =
      (Session.executeJobs shell.executor shell.lastStatus (.proceed shell.lastStatus)
        (Line.tokenize line) c).1.1 := by
  simp only [executeLine, Session.executeLine, bind_apply, pure_apply]

/-- The jobs of a line that are taken up, each with the state in which it is. -/
def taken (shell : Shell κ) (line : String) (c : Console κ) : List (Job × Console κ) :=
  Session.taken shell.executor (Line.tokenize line) c

/-- Errors of builtin commands stay with their tasks. -/
structure Contained (shell : Shell κ) : Prop where
  /-- Running a command gives a status that is known from what the command returned. -/
  dispatch (sink : Sink (Console κ)) (argv : List String) (c : Console κ) :
    (shell.registry.run sink argv c).1 = (shell.registry.answer sink argv c).1.map Registry.verdict
  /-- An error becomes an exit code and never ends the shell. -/
  verdict (e : Error) : ∃ exit, Registry.verdict (.error e) = .proceed exit ∧
    exit.code? = some (match e with | .command _ code => code % 256 | _ => 1)
  /-- A job fails for want of a pipe before anything is done for its tasks, or for want of a
  process. -/
  job (job : Job) (c : Console κ) (e : Error) :
    (job.execute shell.registry c).1.1 = .error e →
      (∃ errno, e = .pipe errno ∧ job.execute shell.registry c =
        ((.error e, job), (Console.call (Pipe.openMany (job.size - 1)) c).2)) ∨
      ∃ errno, e = .fork errno
  /-- A line fails only with an error that the shell does not survive. -/
  line (line : String) (c : Console κ) (e : Error) :
    (shell.executeLine line c).1.1 = .error e → e.isFatal = true
  /-- After a stage whose command fails, with whatever error, the next task is taken up. -/
  stages (job : Job) (c : Console κ) (stages : List (Stage κ)) (k : Nat) (stage : Stage κ)
    (e : Error) :
    job.reached shell.registry c = .ok stages → stages[k]? = some stage →
      stage.answer shell.registry = some (.error e) → k + 1 < job.size →
        ∃ next ∈ stages[k + 1]?, job.argvs[k + 1]? = some next.argv
  /-- What is noted of the jobs of a line is what is executed. -/
  noted (line : String) (c : Console κ) (noted : List (Job × Console κ)) :
    Session.executeLine (Session.noting shell.executor) shell.lastStatus line (c, noted) =
      ((Session.executeLine shell.executor shell.lastStatus line c).1,
        ((Session.executeLine shell.executor shell.lastStatus line c).2,
          noted ++ shell.taken line c))
  /-- After a job the next one is taken up, unless a command of the job asked the shell to end or
  one of its tasks could not be given a process. -/
  jobs (line : String) (c c' : Console κ) (k : Nat) (job : Job) :
    (shell.taken line c)[k]? = some (job, c') → ¬ job.Halts shell.registry c' →
      k + 1 < (Line.tokenize line).length →
        ∃ next ∈ (Line.tokenize line)[k + 1]?, ∃ c'', (shell.taken line c)[k + 1]? = some (next, c'')
  /-- A line ends the shell just if a command that was run as a stage of it asked for that. -/
  terminal (line : String) (c : Console κ) (exit : ExitStatus) :
    (shell.executeLine line c).1.1 = .ok (.terminate exit) ↔
      ∃ p ∈ shell.taken line c, p.1.Ends shell.registry p.2 exit

/-- Errors of builtin commands stay with their tasks, whatever the commands of the shell are. -/
theorem contained (shell : Shell κ) : Contained shell where
  dispatch := shell.registry.run_fst
  verdict := Registry.verdict_error
  job job c e h := by
    rcases Job.execute_fst_eq_error h with ⟨errno, rfl, hreached⟩ | ⟨errno, _, rfl, _⟩
    · exact .inl ⟨errno, rfl, Job.execute_of_reached_error hreached⟩
    · exact .inr ⟨errno, rfl⟩
  line line c e h := by
    rw [executeLine_fst] at h
    obtain ⟨hne, p, _, hresult⟩ := Session.exists_of_executeJobs_eq_error h
    rcases Job.execute_fst_eq_error hresult with ⟨errno, rfl, _⟩ | ⟨errno, _, rfl, _⟩
    · exact absurd rfl (hne errno)
    · rfl
  stages job c stages k stage e hreached hk hanswer hlt := by
    have hnext := Job.getElem?_succ_of_reached hreached hk (Stage.not_halts_of_error hanswer) hlt
    have hargv := List.prefix_iff_getElem?.mp (Job.map_argv_of_reached hreached) (k + 1)
      (by simpa using hnext)
    exact ⟨stages[k + 1], by simp [hnext], by simpa using hargv⟩
  noted line c noted := Session.executeJobs_noting ..
  jobs line c c' k job hk hhalts hlt := Session.getElem?_succ_taken hk (passed_isSome hhalts) hlt
  terminal line c exit := by
    simp only [executeLine_fst, ← Job.execute_fst_eq_terminate_iff_ends]
    exact Session.executeJobs_eq_terminate_iff

/-- Two commands of the job fail with errors that would end a job or a line if they were the
shell's own. The job still comes to the status of its last task, and the job after it is executed. -/
theorem contained_rehearsed :
    let failing (name : String) (e : Error) : Command (Console Rehearsal) :=
      Builtin.Scripted.command { name := name, description := "", help := "", failure := some e }
    let shell : Shell Rehearsal :=
      { registry := (Registry.standard.add (failing "lost" (.fork .tryAgain))).add
          (failing "cut" (.pipe .tooManyOpen)) }
    let line := "lost | cut ; cut | lost ; exit 300"
    let c : Console Rehearsal := { kernel := {} }
    Contained shell ∧ (shell.executeLine line c).1.1 = .ok (.terminate (.ofCode 44)) ∧
      (shell.taken line c).map (·.1.argvs) =
        [[["lost"], ["cut"]], [["cut"], ["lost"]], [["exit", "300"]]] := by
  intro failing shell line c
  exact ⟨contained shell, by cbv, by cbv⟩

end Shell

end LineShell
