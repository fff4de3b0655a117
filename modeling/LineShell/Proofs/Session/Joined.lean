import LineShell.Pipeline
import LineShell.Proofs.Line.Joined
import LineShell.Proofs.Rehearsal
import LineShell.Proofs.State
import LineShell.Shell.Supply
import Mathlib

/-!
Where lines end does not matter to a session. A line that is put together from two runs as the first
and, if that lets the shell go on, then the second; so a script runs as the one line that is put
together from all of its lines. The executor is arbitrary: with one that records the jobs it is
given, equal states mean that the same jobs were executed in the same order.
-/

namespace LineShell

namespace Session

variable {σ τ : Type}

/-- What lines come to, and the exit status of the job that finished last. -/
abbrev Outcome := Except Error Status × ExitStatus

/-- An outcome that lets the shell go on names the exit status of the job that finished last. -/
def Agrees : Outcome → Prop
  | (.ok (.proceed exit), last) => exit = last
  | _ => True

/-- Goes on with the second part only if the first lets the shell go on. -/
def followedBy (first : StateM σ Outcome) (second : ExitStatus → StateM σ Outcome) :
    StateM σ Outcome := do
  match ← first with
  | (.ok (.proceed _), last) => second last
  | stopped => return stopped

/-- Nothing more to execute. -/
def idle (last : ExitStatus) : StateM σ Outcome := return (.ok (.proceed last), last)

theorem followedBy_idle {first : StateM σ Outcome} (h : ∀ s, Agrees (first s).1) :
    followedBy first idle = first := by
  funext s
  have hs := h s
  simp only [followedBy, bind_apply]
  rcases hrun : first s with ⟨⟨result, last⟩, s'⟩
  rw [hrun] at hs
  cases result with
  | error e => rfl
  | ok status =>
      cases status with
      | proceed exit =>
          obtain rfl : exit = last := hs
          rfl
      | terminate exit => rfl

variable [Environment σ]

/-! ### The jobs of a line -/

theorem executeJobs_agrees (execute : Executor σ) (jobs : List Job) (last : ExitStatus) (s : σ) :
    Agrees (executeJobs execute last (.proceed last) jobs s).1 := by
  induction jobs generalizing last s with
  | nil => rfl
  | cons job rest ih =>
      simp only [executeJobs, bind_apply]
      rcases execute job s with ⟨result, s'⟩
      cases result with
      | ok status =>
          cases status with
          | proceed exit => exact ih exit s'
          | terminate exit => trivial
      | error e =>
          cases e with
          | pipe e => exact ih .failure _
          | _ => trivial

theorem executeJobs_append (execute : Executor σ) (jobs later : List Job) (last : ExitStatus) :
    executeJobs execute last (.proceed last) (jobs ++ later) =
      followedBy (executeJobs execute last (.proceed last) jobs)
        fun last => executeJobs execute last (.proceed last) later := by
  funext s
  induction jobs generalizing last s with
  | nil => rfl
  | cons job rest ih =>
      simp only [List.cons_append, executeJobs, followedBy, bind_apply]
      rcases execute job s with ⟨result, s'⟩
      cases result with
      | ok status =>
          cases status with
          | proceed exit => exact ih exit s'
          | terminate exit => rfl
      | error e =>
          -- Of all errors, only that of a pipe that could not be made lets the line go on.
          cases e with
          | pipe e => exact ih .failure _
          | _ => rfl

theorem executeLine_agrees (execute : Executor σ) (last : ExitStatus) (line : String) (s : σ) :
    Agrees (executeLine execute last line s).1 :=
  executeJobs_agrees execute _ last s

theorem executeLine_joint (execute : Executor σ) (last : ExitStatus) (a b : String) :
    executeLine execute last (a ++ Line.joint ++ b) =
      followedBy (executeLine execute last a) fun last => executeLine execute last b := by
  simp only [executeLine, Line.tokenize_joint]
  exact executeJobs_append execute _ _ last

/-! ### The lines of a script -/

/-- Executes lines one after another, as long as they let the shell go on. -/
def executeLines (execute : Executor σ) : List String → ExitStatus → StateM σ Outcome
  | [], last => idle last
  | line :: rest, last => followedBy (executeLine execute last line) (executeLines execute rest)

theorem executeLines_eq_executeLine (execute : Executor σ) (line : String) (rest : List String)
    (last : ExitStatus) :
    executeLines execute (line :: rest) last =
      executeLine execute last (Line.joint.intercalate (line :: rest)) := by
  induction rest generalizing line last with
  | nil =>
      rw [String.intercalate_singleton]
      exact followedBy_idle (executeLine_agrees execute last line)
  | cons next rest ih =>
      rw [String.intercalate_cons_cons, executeLine_joint]
      simp only [← ih]
      rfl

end Session

/-- From `t`, which it keeps to itself, the supply gives exactly these lines and then its end,
whatever the session does meanwhile. -/
inductive LineSupply.Gives {σ τ : Type} (supply : LineSupply (σ × τ)) : τ → List String → Prop
  | none {t t' : τ} (h : ∀ s, supply Session.prompt (s, t) = (.ok none, (s, t'))) :
      Gives supply t []
  | some {t t' : τ} {line : String} {rest : List String}
      (h : ∀ s, supply Session.prompt (s, t) = (.ok (some line), (s, t')))
      (later : Gives supply t' rest) : Gives supply t (line :: rest)

theorem LineSupply.gives_listed {σ : Type} (lines : List String) (prompts : List String) :
    Gives (listed (σ := σ)) ⟨lines.map .ok, prompts⟩ lines := by
  induction lines generalizing prompts with
  | nil => exact .none fun s => rfl
  | cons line rest ih => exact .some (fun s => rfl) (ih _)

namespace Session

variable {σ τ : Type} [Environment σ]

theorem executeJobs_beside (execute : Executor σ) (jobs : List Job) (last : ExitStatus)
    (status : Status) :
    executeJobs (fun job => beside (τ := τ) (execute job)) last status jobs =
      beside (executeJobs execute last status jobs) := by
  funext ⟨s, t⟩
  induction jobs generalizing last status s with
  | nil => rfl
  | cons job rest ih =>
      simp only [executeJobs, bind_apply, beside]
      rcases execute job s with ⟨result, s'⟩
      cases result with
      | ok status =>
          cases status with
          | proceed exit => exact ih exit _ s'
          | terminate exit => rfl
      | error e =>
          cases e with
          | pipe e => exact ih .failure _ _
          | _ => rfl

/-- A session that is fed by such a supply executes the lines that it gives. -/
theorem run_eq_executeLines (execute : Executor σ) {supply : LineSupply (σ × τ)} {t : τ}
    {lines : List String} (h : supply.Gives t lines) {bound : Nat} (hbound : lines.length < bound)
    (last : ExitStatus) (s : σ) :
    ∃ t', run (fun job => beside (execute job)) supply bound last (s, t) =
      ((executeLines execute lines last s).1, ((executeLines execute lines last s).2, t')) := by
  induction h generalizing bound last s with
  -- The round after the last line is the one that meets the end of the supply.
  | @none t t' h =>
      obtain ⟨bound, rfl⟩ := Nat.exists_eq_succ_of_ne_zero (Nat.ne_of_gt hbound)
      exact ⟨t', by simp only [run, bind_apply, h]; rfl⟩
  | @some t t' line rest h _ ih =>
      obtain ⟨bound, rfl⟩ := Nat.exists_eq_succ_of_ne_zero (Nat.ne_zero_of_lt hbound)
      have hrest : rest.length < bound := by simpa using hbound
      simp only [run, bind_apply, h, executeLine, executeJobs_beside, executeLines, followedBy]
      simp only [beside]
      rcases executeJobs execute last (.proceed last) (Line.tokenize line) s with
        ⟨⟨result, last'⟩, s'⟩
      cases result with
      | ok status =>
          cases status with
          | proceed exit => exact ih hrest last' s'
          | terminate exit => exact ⟨t', rfl⟩
      | error e => exact ⟨t', rfl⟩

/-- A line that is put together from two runs as the one and then, if that lets the shell go on, as
the other; and a script runs as the line that is put together from all of its lines. -/
theorem execute_joint_lines (execute : Executor σ) (last : ExitStatus) :
    (∀ a b : String, executeLine execute last (a ++ " ; " ++ b) =
      followedBy (executeLine execute last a) fun last => executeLine execute last b) ∧
    ∀ (lines : List String) (_ : lines ≠ []) (supply : LineSupply (σ × τ)) (t : τ)
      (_ : supply.Gives t lines) (bound : Nat) (_ : lines.length < bound) (s : σ), ∃ t',
      run (fun job => beside (execute job)) supply bound last (s, t) =
        ((executeLine execute last (" ; ".intercalate lines) s).1,
          ((executeLine execute last (" ; ".intercalate lines) s).2, t')) := by
  refine ⟨executeLine_joint execute last, ?_⟩
  intro lines hne supply t hgives bound hbound s
  obtain ⟨t', hrun⟩ := run_eq_executeLines execute hgives hbound last s
  cases lines with
  | nil => exact absurd rfl hne
  | cons line rest =>
      rw [executeLines_eq_executeLine] at hrun
      exact ⟨t', hrun⟩

/-- The third line ends the shell, so the fourth is not executed. -/
theorem execute_joint_lines_rehearsed :
    ∃ s : (Console Rehearsal) × Listed,
      run (fun job => beside do return (← job.execute Registry.standard).1) LineSupply.listed 9
          .success (({ kernel := {} } : Console Rehearsal),
            ⟨["cd / ; cd", "true | cat", "exit 2", "false"].map .ok, []⟩) =
        ((.ok (.terminate (.ofCode 2)), .ofCode 2), s) := by
  let execute : Executor (Console Rehearsal) := fun job => do
    return (← job.execute Registry.standard).1
  let lines := ["cd / ; cd", "true | cat", "exit 2", "false"]
  obtain ⟨t', hrun⟩ := (execute_joint_lines execute .success).2 lines (by simp [lines])
    LineSupply.listed _ (LineSupply.gives_listed lines []) 9 (by decide) { kernel := {} }
  have hline : (executeLine execute .success (" ; ".intercalate lines) { kernel := {} }).1 =
      (.ok (.terminate (.ofCode 2)), .ofCode 2) := by
    obtain ⟨_, _, _, hstandard⟩ := Registry.exists_standard (σ := Console Rehearsal)
    simp only [execute, hstandard]
    cbv
  rw [hline] at hrun
  exact ⟨_, hrun⟩

end Session

end LineShell
