import LineShell.CommandLine
import LineShell.Proofs.Job.Plain
import LineShell.Proofs.Rehearsal
import LineShell.Proofs.Session.Contained
import LineShell.Proofs.Session.Joined
import Mathlib

/-!
The exit statuses of a shell that has been made to do one thing after another. If its commands return
statuses of plain exits, all statuses that there are in the shell or come of what it does are such, so
each has a code, and the shell leaves with that code.
-/

namespace LineShell

namespace Session

variable {σ : Type} [Environment σ] {execute : Executor σ}

structure PlainOutcome (outcome : Outcome) : Prop where
  result : PlainResult outcome.1
  last : outcome.2.Plain

section Plain

variable (hexecute : ∀ job : Job, job.Plain → EndsPlainly (execute job))

include hexecute

theorem plain_executeJobs {jobs : List Job} (hjobs : ∀ job ∈ jobs, job.Plain) {last : ExitStatus}
    (hlast : last.Plain) {status : Status} (hstatus : status.Plain) (s : σ) :
    PlainOutcome (executeJobs execute last status jobs s).1 := by
  induction jobs generalizing last status s with
  | nil => exact ⟨hstatus.result, hlast⟩
  | cons job rest ih =>
      rw [List.forall_mem_cons] at hjobs
      have hjob := hexecute job hjobs.1 s
      simp only [executeJobs, bind_apply]
      rcases hrun : execute job s with ⟨result, s'⟩
      rw [hrun] at hjob
      cases result with
      | ok status =>
          have hexit : status.exit.Plain := hjob status rfl
          cases status with
          | proceed exit => exact ih hjobs.2 hexit hexit s'
          | terminate exit => exact ⟨Status.Plain.result hexit, hexit⟩
      | error e =>
          cases e with
          | pipe e =>
              have hfailure : Status.failure.Plain := ExitStatus.plain_ofCode 1
              exact ih hjobs.2 hfailure hfailure _
          | _ => exact ⟨plainResult_error _, hlast⟩

theorem plain_executeLine (line : String) {last : ExitStatus} (hlast : last.Plain) (s : σ) :
    PlainOutcome (executeLine execute last line s).1 :=
  plain_executeJobs hexecute (fun _ => Line.plain_of_mem_tokenize) hlast
    (show Status.Plain (.proceed last) from hlast) s

theorem plain_run (supply : LineSupply σ) (bound : Nat) {last : ExitStatus} (hlast : last.Plain)
    (s : σ) : PlainOutcome (run execute supply bound last s).1 := by
  induction bound generalizing last s with
  | zero => exact ⟨Status.Plain.result hlast, hlast⟩
  | succ bound ih =>
      simp only [run, bind_apply]
      rcases supply prompt s with ⟨answer, s'⟩
      rcases answer with e | _ | line
      · exact ⟨plainResult_error e, hlast⟩
      · exact ⟨Status.Plain.result hlast, hlast⟩
      · have hline := plain_executeLine hexecute line hlast s'
        simp only [bind_apply]
        rcases hrun : executeLine execute last line s' with ⟨⟨result, last'⟩, s''⟩
        rw [hrun] at hline
        cases result with
        | error e => exact hline
        | ok status =>
            cases status with
            | proceed exit => exact ih hline.last s''
            | terminate exit => exact hline

end Plain

theorem fst_mem_of_mem_taken {jobs : List Job} {s : σ} {p : Job × σ}
    (h : p ∈ taken execute jobs s) : p.1 ∈ jobs := by
  induction jobs generalizing s with
  | nil => simp [taken] at h
  | cons job rest ih =>
      rw [taken, List.mem_cons] at h
      rcases h with rfl | h
      · exact List.mem_cons_self
      · cases hpassed : passed execute job s with
        | none => simp [hpassed] at h
        | some s' => exact List.mem_cons_of_mem _ (ih (by simpa [hpassed] using h))

end Session

namespace Shell

variable {κ : Type}

/-- What a shell can be made to do. -/
inductive Operation (κ : Type) : Type 1 where
  | line (text : String)
  | file (path : String)
  | input
  /-- To execute at most `bound` lines of a source, which keeps `t` to itself. -/
  | lines {τ : Type} (supply : LineSupply (Console κ × τ)) (bound : Nat) (t : τ)

/-- The shell has these commands, and the status that it keeps is plain. -/
structure Keeps (registry : Registry (Console κ)) (shell : Shell κ) : Prop where
  registry : shell.registry = registry
  last : shell.lastStatus.Plain

/-- What an operation comes to is plain, and so is what the shell keeps. -/
structure PlainStep (registry : Registry (Console κ)) (outcome : Except Error Status × Shell κ) :
    Prop where
  result : PlainResult outcome.1
  keeps : Keeps registry outcome.2

section

variable {registry : Registry (Console κ)} {shell : Shell κ} (h : Keeps registry shell)

include h

theorem Keeps.withEditor (editor : Option Editor) :
    Keeps registry ({ shell with editor := editor }) := ⟨h.registry, h.last⟩

theorem Keeps.withLast {outcome : Session.Outcome} (houtcome : Session.PlainOutcome outcome) :
    PlainStep registry (outcome.1, shell.withLast outcome.2) :=
  ⟨houtcome.result, h.registry, houtcome.last⟩

end

variable [Kernel κ]

def Operation.perform (shell : Shell κ) :
    Operation κ → StateM (Console κ) (Except Error Status × Shell κ)
  | line text => shell.executeLine text
  | file path => shell.runFile path
  | input => shell.runInput
  | lines supply bound t => do
      let (result, shell, _) ← shell.runWith supply bound t
      return (result, shell)

/-- A new shell that has been made to do one thing after another, whatever has happened to the system
meanwhile. -/
inductive Reached (registry : Registry (Console κ)) : Shell κ → Prop
  | made {config : Config} {shell : Shell κ} {c : Console κ}
      (h : (Shell.new config registry c).1 = .ok shell) : Reached registry shell
  | performed {shell : Shell κ} (h : Reached registry shell) (operation : Operation κ)
      (c : Console κ) : Reached registry (operation.perform shell c).1.2

/-! ### What an operation does to the statuses -/

variable {registry : Registry (Console κ)} {shell : Shell κ}

theorem Keeps.loadHistory (h : Keeps registry shell) (editor : Editor) (c : Console κ) :
    ∀ loaded, (shell.loadHistory editor c).1 = .ok loaded → Keeps registry loaded := by
  simp only [Shell.loadHistory, bind_apply]
  cases (Environment.home? c).1 with
  | none =>
      rintro _ ⟨⟩
      exact h.withEditor _
  | some home =>
      simp only [bind_apply]
      rcases editor.load (home.file historyFileName) (Environment.home? c).2 with
        ⟨⟨answer, editor'⟩, c'⟩
      cases answer with
      | error e => rintro _ ⟨⟩
      | ok _ =>
          rintro _ ⟨⟩
          exact ⟨h.registry, h.last⟩

theorem keeps_new (config : Config) (registry : Registry (Console κ)) (c : Console κ) :
    ∀ shell, (Shell.new config registry c).1 = .ok shell → Keeps registry shell := by
  have h : Keeps registry ({ registry := registry, config := config } : Shell κ) :=
    ⟨rfl, ExitStatus.plain_ofCode 0⟩
  simp only [Shell.new]
  split
  · exact h.loadHistory _ _
  · rintro _ ⟨⟩
    exact h

namespace Keeps

variable (h : Keeps registry shell) (hplain : registry.Plain)

include h hplain

theorem executor (job : Job) (hjob : job.Plain) : EndsPlainly (shell.executor job) := by
  obtain rfl := h.registry
  exact fun c => (hjob.execute hplain c).2

theorem executeLine (line : String) (c : Console κ) :
    PlainStep registry (shell.executeLine line c).1 :=
  h.withLast (Session.plain_executeLine (h.executor hplain) line h.last c)

theorem runWith {τ : Type} (supply : LineSupply (Console κ × τ)) (bound : Nat) (t : τ)
    (c : Console κ) :
    PlainStep registry ((shell.runWith supply bound t c).1.1, (shell.runWith supply bound t c).1.2.1) :=
  h.withLast (Session.plain_run (fun job hjob s => h.executor hplain job hjob s.1) supply bound
    h.last (c, t))

theorem runDescriptor (d : Descriptor) (c : Console κ) :
    PlainStep registry (shell.runDescriptor d c).1 :=
  h.withLast (Session.plain_run (h.executor hplain) (LineSupply.descriptor d) (lineBound d c).1
    h.last (lineBound d c).2)

theorem runFile (path : String) (c : Console κ) : PlainStep registry (shell.runFile path c).1 := by
  simp only [Shell.runFile, bind_apply]
  rcases Console.call (Kernel.openFile path) c with ⟨answer, c'⟩
  cases answer with
  | error fault => exact ⟨plainResult_error _, h⟩
  | ok d => exact h.runDescriptor hplain d c'

theorem runInput (c : Console κ) : PlainStep registry (shell.runInput c).1 := by
  rw [Shell.runInput]
  cases shell.editor with
  | none =>
      simp only [bind_apply]
      rcases Console.call (Kernel.keep Descriptor.input) c with ⟨answer, c'⟩
      cases answer with
      | error e => exact ⟨plainResult_error _, h⟩
      | ok d => exact h.runDescriptor hplain d c'
  | some editor =>
      have hrun := h.runWith hplain LineSupply.editor
        (editor.ahead.length + (lineBound Descriptor.input c).1) editor
        (lineBound Descriptor.input c).2
      exact ⟨hrun.result, hrun.keeps.withEditor _⟩

theorem perform (operation : Operation κ) (c : Console κ) :
    PlainStep registry (operation.perform shell c).1 := by
  cases operation with
  | line text => exact h.executeLine hplain text c
  | file path => exact h.runFile hplain path c
  | input => exact h.runInput hplain c
  | lines supply bound t => exact h.runWith hplain supply bound t c

end Keeps

theorem Reached.keeps (hplain : registry.Plain) (h : Reached registry shell) :
    Keeps registry shell := by
  induction h with
  | made h => exact keeps_new _ _ _ _ h
  | performed _ operation c ih => exact (ih.perform hplain operation c).keeps

/-! ### Leaving -/

/-- How the shell leaves that is to leave with this code. It crashes if it has to say farewell and
cannot. -/
def parting (shell : Shell κ) (code : Int) (c : Console κ) : Departure :=
  if shell.config.messages && !(Console.print (Utf8.encode farewell) c).1.isOk then .crash
  else .code code

theorem leave_fst (shell : Shell κ) (exit? : Option ExitStatus) (c : Console κ) :
    (shell.leave exit? c).1 = shell.parting (exit?.getD shell.lastStatus).leavingCode c := by
  simp only [leave, parting]
  cases shell.config.messages with
  | false => rfl
  | true =>
      simp only [if_true, bind_apply, Bool.true_and]
      cases (Console.print (Utf8.encode farewell) c).1 <;> rfl

theorem exists_leave_fst {shell : Shell κ} {exit? : Option ExitStatus}
    (h : (exit?.getD shell.lastStatus).Plain) (c : Console κ) :
    ∃ code, (exit?.getD shell.lastStatus).IsExit code ∧
      (shell.leave exit? c).1 = shell.parting code c := by
  obtain ⟨code, hcode⟩ := h
  exact ⟨code, hcode, by rw [leave_fst, hcode.leavingCode]⟩

/-- The status with which a shell leaves that has come to this. -/
def finalStatus : Except Error Status → ExitStatus
  | .ok status => status.exit
  | .error _ => .failure

theorem exists_conclude_fst {result : Except Error Status} (h : PlainResult result)
    (shell : Shell κ) (c : Console κ) :
    ∃ code, (finalStatus result).IsExit code ∧
      ∃ c', (CommandLine.conclude shell result c).1 = shell.parting code c' := by
  cases result with
  | ok status =>
      have hstatus : ((some status.exit).getD shell.lastStatus).Plain := h status rfl
      obtain ⟨code, hcode, hleave⟩ := exists_leave_fst hstatus c
      exact ⟨code, hcode, c, hleave⟩
  | error e =>
      have hfailure : ((some ExitStatus.failure).getD shell.lastStatus).Plain :=
        ExitStatus.plain_ofCode 1
      obtain ⟨code, hcode, hleave⟩ := exists_leave_fst hfailure (Environment.reportError e c).2
      exact ⟨code, hcode, _, hleave⟩

/-- All statuses that there are in the shell or come of what it does are those of plain exits, and the
shell leaves with the code of its last status. -/
structure Plain (shell : Shell κ) : Prop where
  /-- The status that the shell keeps. -/
  last : shell.lastStatus.Plain
  /-- The status that it keeps after the first jobs of a line. -/
  amid (line : String) (k : Nat) (c : Console κ) :
    (Session.executeJobs shell.executor shell.lastStatus (.proceed shell.lastStatus)
      ((Line.tokenize line).take k) c).1.2.Plain
  /-- The status to which an operation comes. -/
  operation (operation : Operation κ) (c : Console κ) :
    PlainResult (operation.perform shell c).1.1
  /-- The statuses of the tasks of a job that is executed, and that of the job. The job can have been
  executed before, if it was given no others. -/
  job (job : Job) (c : Console κ) : job.Plain →
    (job.execute shell.registry c).1.2.Plain ∧ PlainResult (job.execute shell.registry c).1.1
  /-- The statuses that the jobs of a line have when they are taken up, and those that they have when
  they are finished or given up. -/
  line (line : String) (c : Console κ) : ∀ p ∈ shell.taken line c,
    p.1.Plain ∧ (p.1.execute shell.registry p.2).1.2.Plain
  /-- The shell leaves with the code of a plain status that it is given, or of the one that it keeps. -/
  leave (exit? : Option ExitStatus) (c : Console κ) : (∀ exit ∈ exit?, exit.Plain) →
    ∃ code, (exit?.getD shell.lastStatus).IsExit code ∧
      (shell.leave exit? c).1 = shell.parting code c
  /-- After an operation it leaves with the code of what the operation came to. -/
  conclude (operation : Operation κ) (c : Console κ) :
    let ((result, after), c') := operation.perform shell c
    ∃ code, (finalStatus result).IsExit code ∧
      ∃ c'', (CommandLine.conclude after result c').1 = after.parting code c''

/-- Whatever a shell is made to do, and whatever the system does, all its statuses are those of plain
exits if its commands return such statuses. The commands that every shell has do. -/
theorem plain_of_reached :
    (Registry.standard : Registry (Console κ)).Plain ∧
    ∀ (registry : Registry (Console κ)) (shell : Shell κ), registry.Plain →
      Reached registry shell → Plain shell := by
  refine ⟨Registry.plain_standard, fun registry shell hplain hreached => ?_⟩
  have hkeeps := hreached.keeps hplain
  have hexecutor := hkeeps.executor hplain
  -- No operation changes the commands, so they are still those of which the assumption speaks.
  obtain rfl := hkeeps.registry
  have hlast : Status.Plain (.proceed shell.lastStatus) := hkeeps.last
  exact {
    last := hkeeps.last
    amid line k c := by
      have hjobs : ∀ job ∈ (Line.tokenize line).take k, job.Plain :=
        fun job hjob => Line.plain_of_mem_tokenize (List.mem_of_mem_take hjob)
      exact (Session.plain_executeJobs hexecutor hjobs hkeeps.last hlast c).last
    operation operation c := (hkeeps.perform hplain operation c).result
    job job c hjob := hjob.execute hplain c
    line line c p hp := by
      have hjob := Line.plain_of_mem_tokenize (Session.fst_mem_of_mem_taken hp)
      exact ⟨hjob, (hjob.execute hplain p.2).1⟩
    leave exit? c hexit := by
      refine exists_leave_fst ?_ c
      cases exit? with
      | none => exact hkeeps.last
      | some exit => exact hexit exit rfl
    conclude operation c :=
      exists_conclude_fst (hkeeps.perform hplain operation c).result _ _ }

/-- A command fails with a code that no process can leave with, and then a process is killed. -/
theorem plain_of_reached_rehearsed :
    let odd : Command (Console Rehearsal) := Builtin.Scripted.command
      { name := "odd", description := "", help := "", failure := some (.command "" (-1)) }
    let registry := Registry.standard.add odd
    let c : Console Rehearsal := { kernel := { endings := [[.error .interrupted, .ok 9]] } }
    ∃ first second : Shell Rehearsal,
      Reached registry first ∧ Plain first ∧ first.lastStatus.word = 256 * 255 ∧
      Reached registry second ∧ Plain second ∧ second.lastStatus.word = 256 * 137 ∧
      (second.leave none c).1 = .code 137 := by
  intro odd registry c
  have hplain : registry.Plain := by
    refine Registry.plain_of_commands ?_
    simp only [registry, Registry.standard, Registry.add, List.cons_append, List.nil_append,
      List.forall_mem_cons]
    exact ⟨Builtin.Help.plain_command, Builtin.Exit.plain_command,
      Builtin.ChangeDirectory.plain_command,
      Builtin.Scripted.plain_command Status.plain_success, by simp⟩
  have hnew : (Shell.new .noninteractive registry c).1 =
      .ok ({ registry := registry } : Shell Rehearsal) := rfl
  have hfirst := (Reached.made hnew).performed (.line "odd") c
  have hsecond := hfirst.performed (.line "odd ; sleep") c
  refine ⟨_, _, hfirst, plain_of_reached.2 _ _ hplain hfirst, ?_,
    hsecond, plain_of_reached.2 _ _ hplain hsecond, ?_, ?_⟩
  · cbv
  · cbv
  · cbv

end Shell

end LineShell
