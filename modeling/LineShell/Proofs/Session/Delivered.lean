import LineShell.Proofs.Job.Delivered
import LineShell.Proofs.Session.Contained
import LineShell.Proofs.Setback
import Mathlib

/-!
Where the output of builtin commands gets to over any sequence of jobs. As long as every write
succeeds it gets to the standard output of its task, whole and in time. Where writes fail that holds of
what is not lost, but only if the buffer is empty whenever standard output is replaced or put back;
for what a flush leaves in the buffer goes wherever descriptor 1 leads next.
-/

namespace LineShell

namespace Session

variable {κ : Type} [Kernel κ] {own : Descriptor → Option Nat}

/-- The executor of a shell with these commands. -/
def executor (commands : List Spoken) : Executor (Console (Recorded κ)) :=
  Shell.executor { registry := Spoken.registry commands }

/-- The stages of jobs that are executed one after another. -/
def stages (commands : List Spoken) (jobs : List Job) (c : Console (Recorded κ)) :
    List (Stage (Recorded κ)) :=
  (taken (executor commands) jobs c).flatMap fun (job, c) =>
    job.stagesOf (Spoken.registry commands) c

theorem stages_cons (commands : List Spoken) (job : Job) (rest : List Job)
    (c : Console (Recorded κ)) :
    stages commands (job :: rest) c = job.stagesOf (Spoken.registry commands) c ++
      (passed (executor commands) job c).elim [] (stages commands rest) := by
  rw [stages, taken, List.flatMap_cons]
  cases passed (executor commands) job c <;> rfl

theorem stages_singleton (commands : List Spoken) (job : Job) (c : Console (Recorded κ)) :
    stages commands [job] c = job.stagesOf (Spoken.registry commands) c := by
  rw [stages_cons]
  cases passed (executor commands) job c <;> exact List.append_nil _

theorem delivered_executeJobs (hown : Standing own) (commands : List Spoken) (jobs : List Job)
    (last : ExitStatus) (status : Status) (c : Console (Recorded κ)) :
    let after := (executeJobs (executor commands) last status jobs c).2
    ∃ events, after.kernel.log = c.kernel.log ++ events ∧
      ((c.ledger own).table = .ofOwn own → (c.ledger own).Lawful events →
        Delivered own commands c events (stages commands jobs c) after) := by
  induction jobs generalizing last status c with
  | nil => exact ⟨[], (List.append_nil _).symm, fun _ _ =>
      .quiet (List.append_nil _).symm rfl rfl⟩
  | cons job rest ih =>
      obtain ⟨events, hlog, hjob⟩ := Job.delivered_execute commands hown job c
      have hexecute : executor commands job c =
          ((job.execute (Spoken.registry commands) c).1.1,
            (job.execute (Spoken.registry commands) c).2) := rfl
      -- The line goes on, if it does, from a state with the same record and the same buffer.
      have hnext (c' : Console (Recorded κ))
          (hlog' : c'.kernel.log = (job.execute (Spoken.registry commands) c).2.kernel.log)
          (hbuffered : c'.buffered = (job.execute (Spoken.registry commands) c).2.buffered)
          (last : ExitStatus) (status : Status) :
          ∃ events, (executeJobs (executor commands) last status rest c').2.kernel.log =
              c.kernel.log ++ events ∧
            ((c.ledger own).table = .ofOwn own → (c.ledger own).Lawful events →
              Delivered own commands c events
                (job.stagesOf (Spoken.registry commands) c ++ stages commands rest c')
                (executeJobs (executor commands) last status rest c').2) := by
        obtain ⟨later, hlater, hrest⟩ := ih last status c'
        refine ⟨events ++ later, by rw [hlater, hlog', hlog, List.append_assoc], ?_⟩
        intro htable hlawful
        rw [Ledger.lawful_append] at hlawful
        obtain ⟨hdelivered, htable'⟩ := hjob htable hlawful.1
        have hledger : c'.ledger own = (job.execute (Spoken.registry commands) c).2.ledger own := by
          rw [Console.ledger, hlog', Console.ledger]
        have hquiet : Delivered own commands (job.execute (Spoken.registry commands) c).2 [] [] c' :=
          .quiet (by rw [hlog', List.append_nil]) rfl hbuffered
        have hafter : (c.ledger own).after events = c'.ledger own := by
          rw [hledger, Console.ledger_of_log hlog]
        have hboth := (hdelivered.trans hquiet).trans (hrest (by rw [hledger, htable'])
          (hafter ▸ hlawful.2))
        simpa using hboth
      simp only [executeJobs, bind_apply, stages_cons, passed, hexecute]
      cases (job.execute (Spoken.registry commands) c).1.1 with
      | ok status =>
          cases status with
          | proceed exit => exact hnext _ rfl rfl exit _
          | terminate exit => exact ⟨events, hlog, fun htable hlawful => by
              simpa using (hjob htable hlawful).1⟩
      | error e =>
          cases e with
          | pipe errno => exact hnext (Environment.reportError (.pipe errno)
              (job.execute (Spoken.registry commands) c).2).2 rfl rfl .failure .failure
          | _ => exact ⟨events, hlog, fun htable hlawful => by
              simpa using (hjob htable hlawful).1⟩

/-- If every write succeeds, each byte that a builtin command says gets to the standard output of its
task once, in order, and before anything of a later stage is launched; and nothing else gets anywhere.
The buffer is empty whenever the streams of a command are bound, a process is made, or the shell's own
streams are put back, and after the last job. -/
theorem flow_executeJobs (commands : List Spoken) (jobs : List Job) (last : ExitStatus)
    (status : Status) (hown : Standing own) (k : κ) :
    let c : Console (Recorded κ) := { kernel := { kernel := k } }
    let after := (executeJobs (executor commands) last status jobs c).2
    (Ledger.start own).Lawful after.kernel.log → (∀ e ∈ after.kernel.log, e.IsWhole) →
      (Ledger.start own).flow after.kernel.log =
          (stages commands jobs c).flatMap (Stage.effects commands · own) ∧
        (∀ stage ∈ stages commands jobs c, stage.Course (Spoken.registry commands) ∧
          stage.Settled (Spoken.registry commands)) ∧
        after.buffered = [] := by
  intro c after hlawful hwhole
  obtain ⟨events, hlog, hdelivered⟩ := delivered_executeJobs hown commands jobs last status c
  obtain rfl : after.kernel.log = events := hlog
  obtain ⟨hflow, hsettled, hempty⟩ := (hdelivered rfl hlawful).whole hwhole rfl
  exact ⟨hflow, fun stage hstage => ⟨stage.course _, hsettled stage hstage⟩, hempty⟩

/-- A command whose output does not end its line, and that ends the shell. -/
def farewell : Builtin.Scripted where
  name := "bye"
  description := "say goodbye"
  help := "bye: bye"
  out := some "bye"
  result := .terminate .success

def visitors : List Spoken := [Builtin.ChangeDirectory.spoken, farewell.spoken]

def visit : List Job :=
  [.ofArgvs [["cd", "-"], ["cat"]], .ofArgvs [["bye"]], .ofArgvs [["cd", "-"]]]

def visited : Rehearsal := { settings := [(Builtin.ChangeDirectory.previousVariable, "/tmp")] }

theorem log_visit : (executeJobs (executor visitors) .success .success visit
    { kernel := { kernel := visited } }).2.kernel.log = [.piped (.ok (3, 4)),
      .duplicated 1 (.ok 5), .replaced 4 1 (.ok ()), .wrote 1 (Utf8.encode "/tmp\n") (.ok ()),
      .replaced 5 1 (.ok ()), .closed 5, .closed 4, .forked ⟨["cat"], [(3, 0)], [3]⟩ (.ok 2),
      .closed 3, .waited 2, .wrote 1 (Utf8.encode "bye") (.ok ())] := by
  cbv

/-- What `cd` says gets into the pipe of its stage, before the program that reads from it is launched;
what is said in the next job gets out, and the last job is not taken up. -/
theorem flow_executeJobs_rehearsed :
    (stages visitors visit { kernel := { kernel := visited } }).flatMap
        (Stage.effects visitors · customary) =
      Effect.deliveries (some (.writer 0)) (Utf8.encode "/tmp\n") ++ [Effect.launched ["cat"]] ++
        Effect.deliveries (some (.own 1)) (Utf8.encode "bye") ∧
      (executeJobs (executor visitors) .success .success visit
        { kernel := { kernel := visited } }).2.buffered = [] := by
  obtain ⟨hflow, _, hempty⟩ :=
    flow_executeJobs visitors visit .success .success standing_customary visited
      (by rw [log_visit]; cbv; simp) (by simp [log_visit, Event.IsWhole])
  refine ⟨hflow.symm.trans ?_, hempty⟩
  rw [log_visit]
  cbv

/-- Whatever writes fail, as long as the buffer is empty whenever the standard output of a builtin
command is put in the place of the shell's own and when that is put back, all that gets anywhere is
what builtin commands said, in order, and it gets to the standard output of the task that said it. So
does what stays in the buffer in the end, for the shell's own standard output. -/
theorem deliveries_executeJobs (commands : List Spoken) (jobs : List Job) (last : ExitStatus)
    (status : Status) (hown : Standing own) (k : κ) :
    let c : Console (Recorded κ) := { kernel := { kernel := k } }
    let after := (executeJobs (executor commands) last status jobs c).2
    (Ledger.start own).Lawful after.kernel.log →
      (∀ stage ∈ stages commands jobs c, stage.Redirects (Spoken.registry commands) →
        stage.Settled (Spoken.registry commands)) →
      (((Ledger.start own).flow after.kernel.log).filter Effect.IsDelivery ++
          Effect.deliveries ((Ledger.start own).table Descriptor.output) after.buffered).Sublist
        (((stages commands jobs c).flatMap (Stage.effects commands · own)).filter
          Effect.IsDelivery) := by
  intro c after hlawful hsettled
  obtain ⟨events, hlog, hdelivered⟩ := delivered_executeJobs hown commands jobs last status c
  obtain rfl : after.kernel.log = events := hlog
  exact (hdelivered rfl hlawful).kept hsettled

def mover : List Spoken := [Builtin.ChangeDirectory.spoken]

/-- The device behind standard output is full, but pipes work. -/
def crowded : Setback where
  rehearsal := { settings := [(Builtin.ChangeDirectory.previousVariable, "/tmp")] }
  full := [1]

/-- The state in which the first task of a pipeline is started there. -/
def entered (log : List Event) (buffered : Bytes) : Console (Recorded Setback) where
  kernel :=
    { kernel := { crowded with rehearsal := { crowded.rehearsal with inUse := [4, 3, 0, 1, 2] } }
      log := log ++ [Event.piped (.ok (3, 4))] }
  buffered := buffered

def backTwice : Job := .ofArgvs [["cd", "-"], ["cd", "-"]]

theorem log_backTwice : (executeJobs (executor mover) .success .success [backTwice]
    { kernel := { kernel := crowded } }).2.kernel.log =
      [.piped (.ok (3, 4)), .duplicated 1 (.ok 5), .replaced 4 1 (.ok ()),
        .wrote 1 (Utf8.encode "/tmp\n") (.ok ()), .replaced 5 1 (.ok ()), .closed 5, .closed 4,
        .duplicated 0 (.ok 4), .replaced 3 0 (.ok ()),
        .wrote 1 (Utf8.encode "/\n") (.error (0, .noSpace)),
        .wrote 1 (Utf8.encode "/\n") (.error (0, .noSpace)),
        .wrote 1 (Utf8.encode "/\n") (.error (0, .noSpace)),
        .replaced 4 0 (.ok ()), .closed 4, .closed 3] := by
  cbv

theorem buffered_backTwice : (executeJobs (executor mover) .success .success [backTwice]
    { kernel := { kernel := crowded } }).2.buffered = Utf8.encode "/\n" := by
  cbv

/-- Of two stages only the first has its output replaced. What the second one says is left in the
buffer. -/
theorem deliveries_executeJobs_crowded :
    (Effect.deliveries (some (.writer 0)) (Utf8.encode "/tmp\n") ++
        Effect.deliveries (some (.own 1)) (Utf8.encode "/\n")).Sublist
      (((stages mover [backTwice] { kernel := { kernel := crowded } }).flatMap
        (Stage.effects mover · customary)).filter Effect.IsDelivery) := by
  have hflow : (Ledger.start customary).flow (executeJobs (executor mover) .success .success
      [backTwice] { kernel := { kernel := crowded } }).2.kernel.log =
        Effect.deliveries (some (.writer 0)) (Utf8.encode "/tmp\n") := by
    rw [log_backTwice]
    cbv
  have hsettled : ∀ stage ∈ stages mover [backTwice] { kernel := { kernel := crowded } },
      stage.Redirects (Spoken.registry mover) → stage.Settled (Spoken.registry mover) := by
    rintro stage hstage ⟨_, _, houtput⟩
    have hjob : backTwice.stagesOf (Spoken.registry mover) { kernel := { kernel := crowded } } =
        Job.stages (Spoken.registry mover) none [⟨3, 4⟩] [["cd", "-"], ["cd", "-"]]
          (entered [] []) := rfl
    rw [stages_singleton, hjob] at hstage
    rcases Job.mem_stages_pair hstage with rfl | rfl
    · have htold : ((Stage.first none [⟨3, 4⟩] ["cd", "-"] (entered [] [])).told
          (Spoken.registry mover)).buffered.isEmpty = true := by
        cbv
      exact ⟨rfl, fun _ => List.isEmpty_iff.mp htold⟩
    · cases houtput
  have hdelivered := deliveries_executeJobs mover [backTwice] .success .success
    standing_customary crowded (by rw [log_backTwice]; cbv; simp) hsettled
  rw [hflow, buffered_backTwice, Effect.filter_deliveries] at hdelivered
  exact hdelivered

def back : Job := .ofArgvs [["cd", "-"]]

/-- The command says nothing, and its standard output is a pipe. -/
def homePiped : Job := .ofArgvs [["cd", "/"], ["cat"]]

/-- What becomes of the attempts to get the output of the first job out. -/
def refused : List Event :=
  List.replicate 3 (.wrote 1 (Utf8.encode "/tmp\n") (.error (0, .noSpace)))

/-- The state that the first job leaves. -/
def leftover : Console (Recorded Setback) where
  kernel := { kernel := crowded, log := refused }
  buffered := Utf8.encode "/tmp\n"

theorem passed_back : passed (executor mover) back { kernel := { kernel := crowded } } =
    some leftover := by
  cbv

/-- What the first job could not get out is in the buffer while the command of the second one has a
pipe for its standard output, and there it goes; but no command that has it says anything. -/
theorem stray_output :
    (Ledger.start customary).Lawful (executeJobs (executor mover) .success .success
        [back, homePiped] { kernel := { kernel := crowded } }).2.kernel.log ∧
      (Ledger.start customary).flow (executeJobs (executor mover) .success .success
        [back, homePiped] { kernel := { kernel := crowded } }).2.kernel.log =
          Effect.deliveries (some (.writer 0)) (Utf8.encode "/tmp\n") ++ [Effect.launched ["cat"]] ∧
      ∀ stage ∈ stages mover [back, homePiped] { kernel := { kernel := crowded } },
        stage.port customary = some (.writer 0) → stage.said mover = [] := by
  refine ⟨by cbv; simp, by cbv, fun stage hstage hport => ?_⟩
  have hback : back.stagesOf (Spoken.registry mover) { kernel := { kernel := crowded } } =
      [Stage.first none [] ["cd", "-"] { kernel := { kernel := crowded } }] :=
    (congrArg _ (ite_self _)).trans rfl
  have hhome : homePiped.stagesOf (Spoken.registry mover) leftover =
      Job.stages (Spoken.registry mover) none [⟨3, 4⟩] [["cd", "/"], ["cat"]]
        (entered refused leftover.buffered) := rfl
  rw [stages_cons, passed_back, Option.elim_some, stages_singleton, hback, hhome] at hstage
  rcases List.mem_cons.mp hstage with rfl | hstage
  · cases hport
  rcases Job.mem_stages_pair hstage with rfl | rfl
  · have hsaid : ((Stage.first none [⟨3, 4⟩] ["cd", "/"]
        (entered refused leftover.buffered)).said mover).isEmpty = true := by
      cbv
    exact List.isEmpty_iff.mp hsaid
  · refine Stage.said_eq_nil ?_
    rintro ⟨program, hprogram, hbuiltin⟩
    cases hprogram
    revert hbuiltin
    decide

end Session

end LineShell
