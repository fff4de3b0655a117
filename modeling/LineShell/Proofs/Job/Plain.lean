import LineShell.Builtin
import LineShell.Builtin.Scripted
import LineShell.Job.Tokenize
import LineShell.Proofs.Job.Processes
import LineShell.Proofs.Job.Stage
import Mathlib

/-!
Plain exits. A status can say that a process was killed or has stopped, but no status that the shell
comes by does. Whatever becomes of a task, the shell makes a status of it that has a code and no signal;
only the statuses that builtin commands return are their own, and it is up to them to have a code.
-/

namespace LineShell

namespace ExitStatus

/-- The status is that of a process that left with this code. -/
structure IsExit (s : ExitStatus) (code : Int) : Prop where
  nonneg : 0 ≤ code
  le : code ≤ 255
  word : s.word = 256 * code
  code? : s.code? = some code
  signal? : s.signal? = none

def Plain (s : ExitStatus) : Prop := ∃ code, s.IsExit code

theorem isExit_of_word {s : ExitStatus} {code : Int} (hnonneg : 0 ≤ code) (hle : code ≤ 255)
    (hword : s.word = 256 * code) : s.IsExit code := by
  have hending : s.ending = 0 := by
    rw [ending, hword]
    omega
  have hcode : s.word / 256 % 256 = code := by omega
  exact ⟨hnonneg, hle, hword, by rw [ExitStatus.code?, if_pos hending, hcode],
    by simp [ExitStatus.signal?, hending]⟩

/-- The statuses of plain exits are those that are made of a code. -/
theorem plain_iff {s : ExitStatus} : s.Plain ↔ ∃ code, s = ofCode code := by
  constructor
  · rintro ⟨code, h⟩
    refine ⟨code, ?_⟩
    obtain ⟨word⟩ := s
    have hword : word = 256 * code := h.word
    have := h.nonneg
    have := h.le
    rw [ofCode, mk.injEq]
    omega
  · rintro ⟨code, rfl⟩
    have hword : (ofCode code).word = code % 256 * 256 := rfl
    exact ⟨code % 256, isExit_of_word (by omega) (by omega) (by omega)⟩

theorem plain_ofCode (code : Int) : (ofCode code).Plain := plain_iff.mpr ⟨code, rfl⟩

/-- Nothing is put in the place of the code. -/
theorem IsExit.leavingCode {s : ExitStatus} {code : Int} (h : s.IsExit code) :
    s.leavingCode = code := by
  rw [ExitStatus.leavingCode, h.code?, Option.getD_some]

end ExitStatus

def Status.Plain (status : Status) : Prop := status.exit.Plain

theorem Status.plain_success : success.Plain := ExitStatus.plain_ofCode 0

/-- The result is no status, or the status of a plain exit. -/
def PlainResult (result : Except Error Status) : Prop :=
  ∀ status, result = .ok status → status.Plain

theorem plainResult_error (e : Error) : PlainResult (.error e) := by
  rintro status ⟨⟩

theorem Status.Plain.result {status : Status} (h : status.Plain) : PlainResult (.ok status) := by
  rintro _ ⟨⟩
  exact h

/-- Whatever the state is, the program comes to such a result. -/
def EndsPlainly {σ : Type} (m : StateM σ (Except Error Status)) : Prop := ∀ s, PlainResult (m s).1

namespace EndsPlainly

variable {σ α : Type}

theorem pure {result : Except Error Status} (h : PlainResult result) :
    EndsPlainly (pure result : StateM σ (Except Error Status)) := fun _ => h

theorem bind_of {m : StateM σ α} {f : α → StateM σ (Except Error Status)} {P : α → Prop}
    (hm : ∀ s, P (m s).1) (h : ∀ a, P a → EndsPlainly (f a)) : EndsPlainly (m >>= f) :=
  fun s => h (m s).1 (hm s) (m s).2

theorem bind {m : StateM σ α} {f : α → StateM σ (Except Error Status)}
    (h : ∀ a, EndsPlainly (f a)) : EndsPlainly (m >>= f) := fun s => h (m s).1 (m s).2

end EndsPlainly

/-! ### Builtin commands -/

/-- What the command returns is plain, if what the command that it runs comes to is. -/
def Command.Plain {σ : Type} (command : Command σ) : Prop :=
  ∀ call : Invocation σ, (∀ s, ∀ status ∈ (call.onward s).1, status.Plain) →
    EndsPlainly (command.body call)

namespace Registry

variable {σ : Type} [Environment σ]

/-- What the commands return is plain. They can fail with any error. -/
def Plain (r : Registry σ) : Prop :=
  ∀ sink argv s, ∀ result ∈ (r.answer sink argv s).1, PlainResult result

variable {r : Registry σ}

theorem plain_verdict {result : Except Error Status} (h : PlainResult result) :
    (verdict result).Plain := by
  cases result with
  | ok status => exact h status rfl
  | error e => exact ExitStatus.plain_ofCode e.exitCode

theorem plain_run {sink : Sink σ} {argv : List String} {s : σ}
    (h : ∀ result ∈ (r.answer sink argv s).1, PlainResult result) :
    ∀ status ∈ (r.run sink argv s).1, status.Plain := by
  intro status hstatus
  rw [run_fst, Option.mem_map] at hstatus
  obtain ⟨result, hresult, rfl⟩ := hstatus
  exact plain_verdict (h result hresult)

theorem plain_of_commands (h : ∀ command ∈ r.commands, command.Plain) : r.Plain := by
  intro sink argv
  induction argv with
  | nil => simp [answer]
  | cons name args ih =>
      intro s result hresult
      rw [answer] at hresult
      cases hfind : r.find? name with
      | none => simp [hfind] at hresult
      | some command =>
          obtain rfl : _ = result := by simpa [hfind] using hresult
          -- What the command runs has one argument less.
          exact h command (List.mem_of_find?_eq_some hfind) _ (fun s => plain_run (ih s)) s

end Registry

namespace Builtin

variable {σ : Type}

theorem Help.plain_command : (Help.command (σ := σ)).Plain := by
  rintro call -
  refine .bind fun written => ?_
  cases written with
  | error fault => exact .pure (plainResult_error _)
  | ok _ =>
      dsimp only
      cases missing? call.topics (call.argv.drop 1) with
      | some e => exact .pure (plainResult_error e)
      | none => exact .pure Status.plain_success.result

theorem Exit.plain_command [Environment σ] : (Exit.command (σ := σ)).Plain := by
  rintro call -
  simp only [command, body]
  cases call.argv[1]? with
  | none => exact .pure (Status.Plain.result (ExitStatus.plain_ofCode 0))
  | some arg =>
      dsimp only
      cases Numeral.signed64? arg with
      | some n => exact .pure (Status.Plain.result (ExitStatus.plain_ofCode n))
      | none => exact .bind fun _ => .pure (Status.Plain.result (ExitStatus.plain_ofCode misuseCode))

theorem ChangeDirectory.plain_goTo [Environment σ] (path : SystemText) :
    EndsPlainly (goTo (σ := σ) path) := by
  refine .bind fun previous => .bind fun changed => ?_
  cases changed with
  | error fault => exact .pure (plainResult_error _)
  | ok _ =>
      cases previous with
      | ok name => exact .bind fun _ => .pure Status.plain_success.result
      | error fault => exact .pure Status.plain_success.result

theorem ChangeDirectory.plain_command [Environment σ] : (ChangeDirectory.command (σ := σ)).Plain := by
  rintro call -
  simp only [command, body]
  cases call.argv[1]? with
  | none => exact .pure (plainResult_error _)
  | some arg =>
      refine .bind fun destination => ?_
      cases destination with
      | error e => exact .pure (plainResult_error e)
      | ok path => exact plain_goTo path

theorem Scripted.plain_conclude {script : Scripted} (h : script.result.Plain) :
    PlainResult script.conclude := by
  rw [conclude]
  cases script.failure with
  | some e => exact plainResult_error e
  | none => exact h.result

theorem Scripted.plain_command [Environment σ] {script : Scripted} (h : script.result.Plain) :
    (script.command (σ := σ)).Plain := by
  intro call honward
  simp only [command, body]
  -- The rest is the same whether the command reads its input or not.
  split
  all_goals
    refine .bind fun input => .bind fun written => ?_
    cases written with
    | error fault => exact .pure (plainResult_error _)
    | ok _ =>
        dsimp only
        split
        · refine .bind_of (P := fun handed => ∀ status ∈ handed, status.Plain) honward
            fun handed hhanded => ?_
          cases handed with
          | some status => exact .pure (hhanded status rfl).result
          | none => exact .pure (plain_conclude h)
        · exact .pure (plain_conclude h)

end Builtin

theorem Registry.plain_standard {σ : Type} [Environment σ] : (standard : Registry σ).Plain := by
  refine plain_of_commands ?_
  simp only [standard, List.forall_mem_cons]
  exact ⟨Builtin.Help.plain_command, Builtin.Exit.plain_command,
    Builtin.ChangeDirectory.plain_command, by simp⟩

/-! ### Tasks and jobs -/

namespace Wait

theorem plain_exit (replies : List WaitReply) : (exit replies).Plain := by
  rw [exit]
  cases hsettle : settle replies with
  | error e => exact ExitStatus.plain_ofCode 1
  | ok status =>
      have hsettled := settled replies
      rw [hsettle] at hsettled
      cases hsettled with
      | @ended _ _ ending => cases ending <;> exact ExitStatus.plain_ofCode _

end Wait

/-- The task has no status, or that of a plain exit. -/
def Task.Plain (task : Task) : Prop := ∀ exit ∈ task.status, exit.Plain

theorem Task.plain_withStatus (task : Task) {exit : ExitStatus} (h : exit.Plain) :
    (task.withStatus exit).Plain := by
  rintro _ ⟨⟩
  exact h

structure Job.Plain (job : Job) : Prop where
  tasks : ∀ task ∈ job.tasks, task.Plain
  last : ∀ status ∈ job.lastStatus, status.Plain

/-- The jobs of a line have no statuses. -/
theorem Line.plain_of_mem_tokenize {line : String} {job : Job} (h : job ∈ tokenize line) :
    job.Plain := by
  obtain ⟨argvs, _, rfl⟩ := List.mem_map.mp h
  refine ⟨fun task htask => ?_, by simp [Job.ofArgvs]⟩
  obtain ⟨argv, _, rfl⟩ := List.mem_map.mp htask
  simp [Task.Plain, Task.ofArgv]

namespace Turn

def Plain (turn : Turn) : Prop := ∀ status, turn = command status → status.Plain

theorem plain_mark {turn : Turn} (hturn : turn.Plain) {task : Task} (htask : task.Plain) :
    (mark task turn).Plain := by
  cases turn with
  | command status => exact task.plain_withStatus (hturn status rfl)
  | launched pid => exact htask
  | refused e => exact htask
  | _ => exact task.plain_withStatus (ExitStatus.plain_ofCode 1)

theorem plain_markAll {turns : List Turn} (hturns : ∀ turn ∈ turns, turn.Plain) {tasks : List Task}
    (htasks : ∀ task ∈ tasks, task.Plain) : ∀ task ∈ markAll turns tasks, task.Plain := by
  induction turns generalizing tasks with
  | nil => simpa using htasks
  | cons turn turns ih =>
      cases tasks with
      | nil => simp [markAll]
      | cons task rest =>
          rw [List.forall_mem_cons] at hturns htasks
          rw [markAll_cons, List.forall_mem_cons]
          exact ⟨plain_mark hturns.1 htasks.1, ih hturns.2 htasks.2⟩

theorem mem_of_outcome {turns : List Turn} {status : Status}
    (h : outcome turns = .ok (some status)) : command status ∈ turns := by
  induction turns with
  | nil => simp [outcome] at h
  | cons turn rest ih =>
      cases hlast : turn.isLast with
      | false => exact List.mem_cons_of_mem _ (ih (outcome_cons hlast rest ▸ h))
      | true =>
          rcases eq_of_isLast hlast with ⟨e, rfl⟩ | ⟨exit, rfl⟩
          · simp [outcome] at h
          · obtain rfl : .terminate exit = status := by simpa [outcome] using h
            exact List.mem_cons_self

variable {κ : Type} [Kernel κ] {registry : Registry (Console κ)}

theorem Fits.plain {argv : List String} {turn : Turn} (h : Fits registry argv turn)
    (hplain : registry.Plain) : turn.Plain := by
  rintro status rfl
  cases h with
  | command _ streams c hrun =>
      obtain ⟨c', hstatus⟩ := Streams.result_of_within hrun
      exact Registry.plain_run (hplain _ _ c') status hstatus

theorem Sequence.plain {argvs : List (List String)} {turns : List Turn}
    (h : Sequence registry argvs turns) (hplain : registry.Plain) : ∀ turn ∈ turns, turn.Plain := by
  induction h with
  | nil => simp
  | last hfits _ => simpa using hfits.plain hplain
  | cons hfits _ _ ih => exact List.forall_mem_cons.mpr ⟨hfits.plain hplain, ih⟩

end Turn

namespace Job

theorem plain_settleAll {tasks : List Task} (h : ∀ task ∈ tasks, task.Plain)
    (replies : List (List WaitReply)) : ∀ task ∈ settleAll tasks replies, task.Plain := by
  induction tasks generalizing replies with
  | nil => simp [settleAll]
  | cons task rest ih =>
      rw [List.forall_mem_cons] at h
      rw [settleAll]
      cases task.pid with
      | none => exact List.forall_mem_cons.mpr ⟨h.1, ih h.2 _⟩
      | some pid =>
          exact List.forall_mem_cons.mpr ⟨task.plain_withStatus (Wait.plain_exit _), ih h.2 _⟩

theorem plain_lastTaskStatus {tasks : List Task} (h : ∀ task ∈ tasks, task.Plain) :
    (lastTaskStatus tasks).Plain := by
  show ((tasks.getLast?.bind Task.status).getD .success).Plain
  cases hlast : tasks.getLast?.bind Task.status with
  | none => exact ExitStatus.plain_ofCode 0
  | some exit =>
      obtain ⟨task, htask, hexit⟩ := Option.bind_eq_some_iff.mp hlast
      exact h task (List.mem_of_getLast? htask) exit hexit

/-- The status of a job is that of the command that ended the shell, or that of its last task. -/
theorem plain_outcome {turns : List Turn} (hturns : ∀ turn ∈ turns, turn.Plain)
    {stop : Option Status} (hstop : Turn.outcome turns = .ok stop) {tasks : List Task}
    (htasks : ∀ task ∈ tasks, task.Plain) : (stop.getD (lastTaskStatus tasks)).Plain := by
  cases stop with
  | none => exact plain_lastTaskStatus htasks
  | some status => exact hturns _ (Turn.mem_of_outcome hstop) status rfl

/-- Executing a job keeps the statuses of its tasks plain, and comes to a plain one. -/
theorem Plain.execute {κ : Type} [Kernel κ] {registry : Registry (Console κ)}
    (hplain : registry.Plain) {job : Job} (h : job.Plain) (c : Console κ) :
    (job.execute registry c).1.2.Plain ∧ PlainResult (job.execute registry c).1.1 := by
  simp only [Job.execute, bind_apply]
  rcases Console.call (Pipe.openMany (job.tasks.length - 1)) c with ⟨answer, c'⟩
  cases answer with
  | error e => exact ⟨h, plainResult_error _⟩
  | ok pipes =>
      simp only [start_eq_turns, bind_apply, map_apply]
      rcases hturns : turns registry none pipes (job.tasks.map Task.argv) c' with ⟨turns, c''⟩
      have hplainTurns : ∀ turn ∈ turns, turn.Plain := by
        have := (turns_sequence registry none pipes (job.tasks.map Task.argv) c').plain hplain
        rwa [hturns] at this
      have hmarked := Turn.plain_markAll hplainTurns h.tasks
      cases houtcome : Turn.outcome turns with
      | error e => exact ⟨⟨hmarked, h.last⟩, plainResult_error e⟩
      | ok stop =>
          simp only [bind_apply, pure_apply, Console.call_apply, reap_eq]
          have hreaped := plain_settleAll hmarked
            (waitAll ((Turn.markAll turns job.tasks).filterMap Task.pid) c''.kernel).1
          have hstatus := plain_outcome hplainTurns houtcome hreaped
          refine ⟨⟨hreaped, ?_⟩, hstatus.result⟩
          rintro _ ⟨⟩
          exact hstatus

end Job

end LineShell
