import LineShell.Proofs.Session.Joined
import LineShell.Proofs.Setback
import LineShell.Shell
import Mathlib

/-!
What a session does, in order. Its source calls for one long agenda: to ask for a line, to execute the
jobs of that line, to ask for the next line, and so on. A session goes through the agenda from its
start up to the first thing that ends it, and no further. What it comes to, and the exit status that
it keeps meanwhile, can be told from what it did.
-/

namespace LineShell

/-- What a session is to do next. -/
inductive Duty where
  /-- To ask the source for a line. The source answers so. -/
  | ask (answer : Except Error (Option String))
  | execute (job : Job)

/-- What a session did, and what came of it. -/
inductive Deed where
  | asked (answer : Except Error (Option String))
  | executed (job : Job) (result : Except Error Status)

namespace Deed

def duty : Deed → Duty
  | asked answer => .ask answer
  | executed job _ => .execute job

/-- The session goes on after it. A job whose pipes could not be made does not keep it from that. -/
def passes : Deed → Bool
  | asked (.ok (some _)) | executed _ (.ok (.proceed _)) | executed _ (.error (.pipe _)) => true
  | _ => false

/-- The exit status of a job that finished. One whose pipes could not be made has failed. -/
def exit? : Deed → Option ExitStatus
  | executed _ (.ok status) => some status.exit
  | executed _ (.error (.pipe _)) => some .failure
  | _ => none

/-- What a session comes to that ends so, if `last` is the exit status that it has kept. -/
def verdict (last : ExitStatus) : Deed → Except Error Status
  | asked (.error e) => .error e
  | asked (.ok _) => .ok (.proceed last)
  | executed _ result => result

end Deed

/-- Whatever the session does meanwhile, the supply gives these lines and failures from `t` on, which it
keeps to itself, and then its end. -/
inductive LineSupply.Answers {σ τ : Type} (supply : LineSupply (σ × τ)) :
    τ → List (Except Error String) → Prop
  | ended {t : τ} (h : ∀ s, ∃ t', supply Session.prompt (s, t) = (.ok none, (s, t'))) :
      Answers supply t []
  | given {t t' : τ} {item : Except Error String} {rest : List (Except Error String)}
      (h : ∀ s, supply Session.prompt (s, t) = (item.map some, (s, t')))
      (later : Answers supply t' rest) : Answers supply t (item :: rest)

theorem LineSupply.answers_listed {σ : Type} (items : List (Except Error String))
    (prompts : List String) : Answers (listed (σ := σ)) ⟨items, prompts⟩ items := by
  induction items generalizing prompts with
  | nil => exact .ended fun s => ⟨_, rfl⟩
  | cons item rest ih => exact .given (fun s => rfl) (ih _)

namespace Session

/-- What a source calls for that gives these lines and failures and then its end. -/
def agenda : List (Except Error String) → List Duty
  | [] => [.ask (.ok none)]
  | .error e :: rest => .ask (.error e) :: agenda rest
  | .ok line :: rest =>
      .ask (.ok (some line)) :: ((Line.tokenize line).map .execute ++ agenda rest)

/-- The exit status of the job that finished last. It was `last` before. -/
def standing (last : ExitStatus) (deeds : List Deed) : ExitStatus :=
  (deeds.filterMap Deed.exit?).getLast?.getD last

@[simp] theorem standing_nil (last : ExitStatus) : standing last [] = last := rfl

theorem standing_cons (last : ExitStatus) (deed : Deed) (deeds : List Deed) :
    standing last (deed :: deeds) = standing (deed.exit?.getD last) deeds := by
  rw [standing, List.filterMap_cons]
  cases deed.exit? with
  | none => rfl
  | some exit => simp [standing, List.getLast?_cons]

/-! ### What is left of a session -/

section Resume

variable {ρ : Type} [Environment ρ] (execute : Executor ρ) (supply : LineSupply ρ)

/-- What is left of a session when these jobs of the line in hand are still to be executed. -/
def resume (bound : Nat) (jobs : List Job) (last : ExitStatus) : StateM ρ Outcome :=
  followedBy (executeJobs execute last (.proceed last) jobs) (run execute supply bound)

theorem resume_nil (bound : Nat) (last : ExitStatus) :
    resume execute supply bound [] last = run execute supply bound last := rfl

theorem resume_execute (bound : Nat) (job : Job) (rest : List Job) (last : ExitStatus) (r : ρ) :
    resume execute supply bound (job :: rest) last r =
      match execute job r with
      | (.ok (.proceed exit), r) => resume execute supply bound rest exit r
      | (.ok (.terminate exit), r) => ((.ok (.terminate exit), exit), r)
      | (.error (.pipe e), r) =>
          resume execute supply bound rest .failure (Environment.reportError (.pipe e) r).2
      | (.error e, r) => ((.error e, last), r) := by
  simp only [resume, followedBy, executeJobs, bind_apply]
  rcases execute job r with ⟨result, r'⟩
  cases result with
  | ok status => cases status <;> rfl
  | error e => cases e <;> rfl

theorem resume_ask (bound : Nat) (last : ExitStatus) (r : ρ) :
    resume execute supply (bound + 1) [] last r =
      match supply prompt r with
      | (.error e, r) => ((.error e, last), r)
      | (.ok none, r) => ((.ok (.proceed last), last), r)
      | (.ok (some line), r) => resume execute supply bound (Line.tokenize line) last r := by
  rw [resume_nil]
  simp only [run, bind_apply, resume, followedBy, executeLine]
  rcases supply prompt r with ⟨answer, r'⟩
  rcases answer with e | _ | line
  · rfl
  · rfl
  · dsimp only
    rw [bind_apply]
    rcases executeJobs execute last (.proceed last) (Line.tokenize line) r' with
      ⟨⟨result, last'⟩, r''⟩
    rcases result with e | (exit | exit) <;> rfl

end Resume

/-! ### Writing down what a session does -/

section Logging

variable {ρ : Type}

/-- Executes a job, and writes down what came of it. -/
def logging (execute : Executor ρ) : Executor (ρ × List Deed) := fun job (r, log) =>
  let (result, r) := execute job r
  (result, (r, log ++ [.executed job result]))

end Logging

end Session

/-- Gives a line, and writes down what was answered. -/
def LineSupply.logging {ρ : Type} (supply : LineSupply ρ) : LineSupply (ρ × List Deed) :=
  fun prompt (r, log) =>
    let (answer, r) := supply prompt r
    (answer, (r, log ++ [.asked answer]))

namespace Session

variable {σ τ : Type} [Environment σ]

/-- A session in its course. -/
structure Point (supply : LineSupply (σ × τ)) where
  /-- The jobs of the line in hand that are still to be executed. -/
  jobs : List Job
  /-- The lines and failures that the source is still to give. -/
  items : List (Except Error String)
  /-- The exit status that is kept. -/
  last : ExitStatus
  session : σ
  source : τ
  /-- How many lines can still be asked for. -/
  bound : Nat
  answers : supply.Answers source items
  enough : items.length < bound

namespace Point

variable (execute : Executor σ) {supply : LineSupply (σ × τ)} (p : Point supply)

/-- All that is called for from there on. -/
def duties : List Duty := p.jobs.map .execute ++ agenda p.items

/-- The outcome of the session, and the state that it leaves. -/
def finish : Outcome × (σ × τ) :=
  resume (fun job => beside (execute job)) supply p.bound p.jobs p.last (p.session, p.source)

/-- The same, with what is done added to a log. -/
def finishLogging (log : List Deed) : Outcome × ((σ × τ) × List Deed) :=
  resume (logging fun job => beside (execute job)) supply.logging p.bound p.jobs p.last
    ((p.session, p.source), log)

/-- What is done from there on, and how it accounts for the outcome of the session. -/
structure Account (deeds : List Deed) : Prop where
  /-- This is what is done; to write it down changes nothing. -/
  logged (log : List Deed) :
    p.finishLogging execute log = ((p.finish execute).1, ((p.finish execute).2, log ++ deeds))
  /-- What is called for is done in order, and nothing else is done. -/
  order : deeds.map Deed.duty <+: p.duties
  /-- Only the last thing that is done does not let the session go on, and it decides the outcome. -/
  ends : ∃ before final, deeds = before ++ [final] ∧ (∀ deed ∈ before, deed.passes = true) ∧
    final.passes = false ∧ (p.finish execute).1.1 = final.verdict (standing p.last deeds)
  last : (p.finish execute).1.2 = standing p.last deeds
  /-- As long as something is to come, the session goes on with the exit status of the job that
  finished last, and with what is called for next. -/
  points (before after : List Deed) : deeds = before ++ after → after ≠ [] →
    ∃ q : Point supply, q.last = standing p.last before ∧
      p.duties = before.map Deed.duty ++ q.duties ∧ q.finish execute = p.finish execute ∧
      ∀ log, q.finishLogging execute (log ++ before) = p.finishLogging execute log

variable {execute p}

/-- The session ends with the next thing that is called for. -/
theorem Account.stop (deed : Deed) {later : List Duty} {after : σ × τ}
    (hduties : p.duties = deed.duty :: later) (hstop : deed.passes = false)
    (hfinish : p.finish execute =
      ((deed.verdict (standing p.last [deed]), standing p.last [deed]), after))
    (hlogging : ∀ log, p.finishLogging execute log =
      ((deed.verdict (standing p.last [deed]), standing p.last [deed]), (after, log ++ [deed]))) :
    p.Account execute [deed] where
  logged log := by rw [hlogging, hfinish]
  order := by
    rw [hduties]
    exact ⟨later, rfl⟩
  ends := ⟨[], deed, rfl, by simp, hstop, by rw [hfinish]⟩
  last := by rw [hfinish]
  points before rest heq hne := by
    have hbefore : before = [] := by
      rcases List.append_eq_singleton_iff.mp heq.symm with ⟨h, _⟩ | ⟨_, h⟩
      · exact h
      · exact absurd h hne
    subst hbefore
    exact ⟨p, rfl, rfl, rfl, fun log => by rw [List.append_nil]⟩

/-- The session goes on after the next thing that is called for. -/
theorem Account.step (deed : Deed) {q : Point supply} {deeds : List Deed}
    (h : q.Account execute deeds) (hduties : p.duties = deed.duty :: q.duties)
    (hpasses : deed.passes = true) (hlast : q.last = deed.exit?.getD p.last)
    (hfinish : p.finish execute = q.finish execute)
    (hlogging : ∀ log, p.finishLogging execute log = q.finishLogging execute (log ++ [deed])) :
    p.Account execute (deed :: deeds) where
  logged log := by rw [hlogging, h.logged, hfinish, List.append_assoc, List.singleton_append]
  order := by
    rw [hduties]
    exact List.cons_prefix_cons.mpr ⟨rfl, h.order⟩
  ends := by
    obtain ⟨before, final, rfl, hbefore, hfinal, hverdict⟩ := h.ends
    refine ⟨deed :: before, final, rfl, ?_, hfinal, ?_⟩
    · exact List.forall_mem_cons.mpr ⟨hpasses, hbefore⟩
    · rw [hfinish, hverdict, hlast, standing_cons]
  last := by rw [hfinish, h.last, hlast, standing_cons]
  points before after heq hne := by
    cases before with
    | nil => exact ⟨p, rfl, rfl, rfl, fun log => by rw [List.append_nil]⟩
    | cons first before =>
        -- Once the deed is done, the point is one of what is left.
        obtain ⟨rfl, hdeeds⟩ := List.cons.inj heq
        obtain ⟨r, hr, hrest, hsame, hsameLogging⟩ := h.points before after hdeeds hne
        refine ⟨r, ?_, ?_, hsame.trans hfinish.symm, fun log => ?_⟩
        · rw [hr, hlast, standing_cons]
        · rw [hduties, hrest]
          rfl
        · rw [hlogging, ← hsameLogging, List.append_assoc, List.singleton_append]

end Point

section Account

variable (execute : Executor σ) {supply : LineSupply (σ × τ)} {t : τ}
  {items : List (Except Error String)} (h : supply.Answers t items) {bound : Nat}
  (hbound : items.length < bound)

/-- After the jobs of the line in hand, and whatever comes of them, the source is asked for a line. -/
theorem exists_account_of_jobs
    (hasks : ∀ last s, ∃ deeds,
      Point.Account execute ⟨[], items, last, s, t, bound, h, hbound⟩ deeds)
    (jobs : List Job) (last : ExitStatus) (s : σ) :
    ∃ deeds, Point.Account execute ⟨jobs, items, last, s, t, bound, h, hbound⟩ deeds := by
  induction jobs generalizing last s with
  | nil => exact hasks last s
  | cons job rest ih =>
      have hfinish :=
        resume_execute (fun job => beside (execute job)) supply bound job rest last (s, t)
      have hlogging (log : List Deed) := resume_execute
        (logging fun job => beside (execute job)) supply.logging bound job rest last ((s, t), log)
      simp only [beside, logging] at hfinish hlogging
      rcases hrun : execute job s with ⟨result, s'⟩
      rw [hrun] at hfinish hlogging
      -- Want of a pipe is the only error after which the jobs left are executed.
      rcases result with e | (exit | exit)
      · cases e with
        | pipe e =>
            obtain ⟨deeds, hdeeds⟩ := ih .failure (Environment.reportError (.pipe e) s').2
            exact ⟨_, .step (.executed job (.error (.pipe e))) hdeeds rfl rfl rfl hfinish hlogging⟩
        | _ => exact ⟨_, .stop (.executed job (.error _)) rfl rfl hfinish hlogging⟩
      · obtain ⟨deeds, hdeeds⟩ := ih exit s'
        exact ⟨_, .step (.executed job (.ok (.proceed exit))) hdeeds rfl rfl rfl hfinish hlogging⟩
      · exact ⟨_, .stop (.executed job (.ok (.terminate exit))) rfl rfl hfinish hlogging⟩

end Account

/-- What is done from any point of a session on accounts for its outcome. -/
theorem exists_account (execute : Executor σ) {supply : LineSupply (σ × τ)} {t : τ}
    {items : List (Except Error String)} (h : supply.Answers t items) (jobs : List Job)
    (last : ExitStatus) (s : σ) {bound : Nat} (hbound : items.length < bound) :
    ∃ deeds, Point.Account execute ⟨jobs, items, last, s, t, bound, h, hbound⟩ deeds := by
  -- By what the source is still to give. The jobs of the line in hand come first in either case, so
  -- it only remains to see what is done when the source is asked.
  induction h generalizing jobs last s bound with
  | @ended t h =>
      refine exists_account_of_jobs execute _ _ (fun last s => ?_) jobs last s
      obtain ⟨bound, rfl⟩ := Nat.exists_eq_succ_of_ne_zero (Nat.ne_of_gt hbound)
      have hfinish := resume_ask (fun job => beside (execute job)) supply bound last (s, t)
      have hlogging (log : List Deed) := resume_ask
        (logging fun job => beside (execute job)) supply.logging bound last ((s, t), log)
      obtain ⟨t', ht'⟩ := h s
      simp only [LineSupply.logging, ht'] at hfinish hlogging
      exact ⟨_, .stop (.asked (.ok none)) rfl rfl hfinish hlogging⟩
  | @given t t' item rest h later ih =>
      refine exists_account_of_jobs execute _ _ (fun last s => ?_) jobs last s
      obtain ⟨bound, rfl⟩ := Nat.exists_eq_succ_of_ne_zero (Nat.ne_zero_of_lt hbound)
      have hrest : rest.length < bound := by simpa using hbound
      have hfinish := resume_ask (fun job => beside (execute job)) supply bound last (s, t)
      have hlogging (log : List Deed) := resume_ask
        (logging fun job => beside (execute job)) supply.logging bound last ((s, t), log)
      simp only [LineSupply.logging, h] at hfinish hlogging
      cases item with
      | error e => exact ⟨_, .stop (.asked (.error e)) rfl rfl hfinish hlogging⟩
      | ok line =>
          obtain ⟨deeds, hdeeds⟩ := ih (Line.tokenize line) last s hrest
          exact ⟨_, .step (.asked (.ok (some line))) hdeeds rfl rfl rfl hfinish hlogging⟩

/-- A session does what its source calls for, in order, up to and with the first thing that does not let
it go on: the end or a failure of the source, a job that asks the shell to end, or one that fails for
anything but want of a pipe. That decides the outcome. The exit status that is kept is always that of
the job that finished last. -/
theorem run_accounted (execute : Executor σ) {supply : LineSupply (σ × τ)} {t : τ}
    {items : List (Except Error String)} (hanswers : supply.Answers t items) {bound : Nat}
    (hbound : items.length < bound) (last : ExitStatus) (s : σ) :
    let outcome := run (fun job => beside (execute job)) supply bound last (s, t)
    ∃ deeds,
      run (logging fun job => beside (execute job)) supply.logging bound last ((s, t), []) =
        (outcome.1, (outcome.2, deeds)) ∧
      deeds.map Deed.duty <+: agenda items ∧
      (∃ before final, deeds = before ++ [final] ∧ (∀ deed ∈ before, deed.passes = true) ∧
        final.passes = false ∧ outcome.1.1 = final.verdict (standing last deeds)) ∧
      outcome.1.2 = standing last deeds ∧
      ∀ before after, deeds = before ++ after → after ≠ [] →
        ∃ q : Point supply, q.last = standing last before ∧
          agenda items = before.map Deed.duty ++ q.duties ∧ q.finish execute = outcome ∧
          q.finishLogging execute before = (outcome.1, (outcome.2, deeds)) := by
  obtain ⟨deeds, h⟩ := exists_account execute hanswers [] last s hbound
  refine ⟨deeds, h.logged [], h.order, h.ends, h.last, fun before after hdeeds hafter => ?_⟩
  obtain ⟨q, hlast, hduties, hsame, hlogging⟩ := h.points before after hdeeds hafter
  exact ⟨q, hlast, hduties, hsame, (hlogging []).trans (h.logged [])⟩

/-- There is no room for a pipe, so the first two jobs fail. The fourth ends the shell, and neither the
job after it is executed nor another line asked for. -/
theorem run_accounted_cramped :
    let execute : Executor (Console Setback) := fun job => do
      return (← job.execute Registry.standard).1
    let items := ["cd | cd ; exit | cd ; cd", "exit 7 ; cd", "cd"].map .ok
    let c : Console Setback := { kernel := { limit := 3 } }
    let log : List Deed :=
      [.asked (.ok (some "cd | cd ; exit | cd ; cd")),
        .executed (.ofArgvs [["cd"], ["cd"]]) (.error (.pipe .tooManyOpen)),
        .executed (.ofArgvs [["exit"], ["cd"]]) (.error (.pipe .tooManyOpen)),
        .executed (.ofArgvs [["cd"]]) (.ok (.proceed (.ofCode 1))),
        .asked (.ok (some "exit 7 ; cd")),
        .executed (.ofArgvs [["exit", "7"]]) (.ok (.terminate (.ofCode 7)))]
    (run (logging fun job => beside (execute job)) LineSupply.listed.logging 4 .success
        ((c, ⟨items, []⟩), [])).2.2 = log ∧
      log.map Deed.duty <+: agenda items ∧
      (run (fun job => beside (execute job)) LineSupply.listed 4 .success (c, ⟨items, []⟩)).1 =
        (.ok (.terminate (.ofCode 7)), .ofCode 7) := by
  intro execute items c log
  have hlog : (run (logging fun job => beside (execute job)) LineSupply.listed.logging 4 .success
      ((c, ⟨items, []⟩), [])).2.2 = log := by
    cbv
  obtain ⟨deeds, hlogged, horder, ⟨before, final, hdeeds, _, _, hverdict⟩, hlast, _⟩ :=
    run_accounted execute (LineSupply.answers_listed items []) (by decide : items.length < 4)
      .success c
  have hsame : deeds = log := by
    rw [hlogged] at hlog
    exact hlog
  rw [hsame] at horder hdeeds hverdict hlast
  have hfinal : log.getLast? = some final := by rw [hdeeds, List.getLast?_concat]
  rw [← Option.some.inj hfinal] at hverdict
  exact ⟨hlog, horder, Prod.ext hverdict hlast⟩

end Session

end LineShell
