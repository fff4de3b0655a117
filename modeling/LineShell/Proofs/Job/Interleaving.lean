import LineShell.Proofs.Job.Ends
import LineShell.Proofs.Rehearsal
import Mathlib

/-!
The shell and its children side by side. The children see to their descriptors while the shell goes
on with its own work, one step of one process at a time and in any order. However the steps fall,
the shell holds no end of a pipe when it begins to wait, and no child keeps an end that it does not
use.
-/

namespace LineShell

/-! ### Scenes -/

/-- A child of the shell, up to where it runs its program. -/
structure Offspring where
  pid : Pid
  table : Holdings
  /-- What it has yet to do with its descriptors. -/
  chores : List Chore

/-- The child that an event makes, if it makes one. -/
def Event.offspring? (t : Holdings) : Event → Option Offspring
  | .forked child (.ok pid) => some ⟨pid, t, child.chores⟩
  | _ => none

structure Scene where
  shell : Ledger
  /-- What the shell has yet to do. -/
  pending : List Event
  children : List Offspring := []

namespace Scene

def start (own : Descriptor → Option Nat) (log : List Event) : Scene :=
  { shell := .start own, pending := log }

/-- One step of one process. -/
inductive Step : Scene → Scene → Prop
  | shell (l : Ledger) (e : Event) (pending : List Event) (children : List Offspring) :
      Step ⟨l, e :: pending, children⟩
        ⟨l.record e, pending, children ++ (e.offspring? l.table).toList⟩
  | chore (l : Ledger) (pending : List Event) (before later : List Offspring) (pid : Pid)
      (t : Holdings) (chore : Chore) (chores : List Chore) :
      Step ⟨l, pending, before ++ ⟨pid, t, chore :: chores⟩ :: later⟩
        ⟨l, pending, before ++ ⟨pid, chore.apply t, chores⟩ :: later⟩
  /-- A child may end at any moment, so also when a replacement or its program fails. -/
  | quit (l : Ledger) (pending : List Event) (before later : List Offspring) (child : Offspring) :
      Step ⟨l, pending, before ++ child :: later⟩
        ⟨l, pending, before ++ ⟨child.pid, fun _ => none, []⟩ :: later⟩

def Reachable : Scene → Scene → Prop := Relation.ReflTransGen Step

/-- The shell begins to wait, goes on waiting, or has nothing left to do. -/
def Waiting (s : Scene) : Prop := ∀ e ∈ s.pending.head?, e.IsWait

/-- Every child has come to its program, or to its end. -/
def Settled (s : Scene) : Prop := ∀ child ∈ s.children, child.chores = []

end Scene

/-- What the child has yet to do gives it what it was meant to hold, unless it is gone. -/
def Offspring.Owes (child : Offspring) (b : Birth) : Prop :=
  child.pid = b.pid ∧ (child.chores.foldl Chore.apply child.table = b.settled ∨
    child.table = (fun _ => none) ∧ child.chores = [])

/-- The child is the process of that stage and holds no other end than a stage may have. -/
def Offspring.At (child : Offspring) (stage : Nat × Pid) : Prop :=
  child.pid = stage.2 ∧ child.table.Confined stage.1

theorem Offspring.Owes.at {child : Offspring} {b : Birth} {stage : Nat × Pid} (h : child.Owes b)
    (hb : b.At stage) (hchores : child.chores = []) : child.At stage := by
  obtain ⟨hpid, hsettled | ⟨hgone, _⟩⟩ := h
  · rw [hchores, List.foldl_nil] at hsettled
    exact ⟨hpid.trans hb.1, hsettled ▸ hb.2⟩
  · refine ⟨hpid.trans hb.1, ?_, ?_⟩
    · simp [hgone]
    · simp [hgone]

theorem Offspring.at_of_owes {children : List Offspring} {births : List Birth}
    {stages : List (Nat × Pid)} (h : List.Forall₂ Owes children births)
    (hbirths : List.Forall₂ Birth.At births stages)
    (hsettled : ∀ child ∈ children, child.chores = []) : List.Forall₂ At children stages := by
  induction h generalizing stages with
  | nil =>
      cases hbirths
      exact .nil
  | cons howes _ ih =>
      cases hbirths with
      | cons hat hlater =>
          obtain ⟨hchores, hrest⟩ := List.forall_mem_cons.mp hsettled
          exact .cons (howes.at hat hchores) (ih hlater hrest)

theorem forall₂_replace {α β : Type} {R : α → β → Prop} {before later : List α} {a a' : α}
    {bs : List β} (h : List.Forall₂ R (before ++ a :: later) bs) (ha : ∀ b, R a b → R a' b) :
    List.Forall₂ R (before ++ a' :: later) bs := by
  induction before generalizing bs with
  | nil =>
      cases h with
      | cons hab hlater => exact .cons (ha _ hab) hlater
  | cons _ before ih =>
      cases h with
      | cons hab hlater => exact .cons hab (ih hlater)

namespace Scene

/-- What holds of every scene: the shell has done a first part of its work, and each child does what
it was made for. -/
structure Sound (l₀ : Ledger) (log : List Event) (s : Scene) : Prop where
  done : ∃ events, log = events ++ s.pending ∧ s.shell = l₀.after events
  children : List.Forall₂ Offspring.Owes s.children s.shell.births

theorem births_record (l : Ledger) (e : Event) :
    ∃ births, (l.record e).births = l.births ++ births ∧
      List.Forall₂ Offspring.Owes (e.offspring? l.table).toList births := by
  cases e with
  | forked child answer =>
      cases answer with
      | ok pid => exact ⟨_, rfl, .cons ⟨rfl, .inl rfl⟩ .nil⟩
      | error e => exact ⟨[], (List.append_nil _).symm, .nil⟩
  | piped answer => cases answer <;> exact ⟨[], (List.append_nil _).symm, .nil⟩
  | duplicated d answer => cases answer <;> exact ⟨[], (List.append_nil _).symm, .nil⟩
  | replaced source target answer => cases answer <;> exact ⟨[], (List.append_nil _).symm, .nil⟩
  | _ => exact ⟨[], (List.append_nil _).symm, .nil⟩

theorem Sound.step {l₀ : Ledger} {log : List Event} {s s' : Scene} (h : Sound l₀ log s)
    (hstep : Step s s') : Sound l₀ log s' := by
  obtain ⟨⟨events, hlog, hshell⟩, hchildren⟩ := h
  cases hstep with
  | shell l e pending children =>
      obtain ⟨births, hbirths, howes⟩ := births_record l e
      refine ⟨⟨events ++ [e], by simpa using hlog, by simp [← hshell]⟩, ?_⟩
      rw [hbirths]
      exact List.rel_append hchildren howes
  | chore l pending before later pid t chore chores =>
      -- The chore moves from what is still to be done into what is held; both together stay.
      exact ⟨⟨events, hlog, hshell⟩, forall₂_replace hchildren fun b hb =>
        ⟨hb.1, .inl (by simpa using hb.2)⟩⟩
  | quit l pending before later child =>
      exact ⟨⟨events, hlog, hshell⟩, forall₂_replace hchildren fun b hb => ⟨hb.1, .inr ⟨rfl, rfl⟩⟩⟩

theorem Reachable.sound {own : Descriptor → Option Nat} {log : List Event} {s : Scene}
    (h : Reachable (start own log) s) : Sound (.start own) log s := by
  induction h with
  | refl => exact ⟨⟨[], rfl, rfl⟩, .nil⟩
  | tail _ hstep ih => exact ih.step hstep

/-- Where the work before the waiting is all done, it has had its full effect. -/
theorem Sound.shell_eq {l₀ : Ledger} {worked waited : List Event} {s : Scene}
    (h : Sound l₀ (worked ++ waited) s) (hworked : ∀ e ∈ worked, ¬ e.IsWait)
    (hwaited : ∀ e ∈ waited, e.IsWait) (hwaiting : s.Waiting) : s.shell = l₀.after worked := by
  obtain ⟨events, hlog, hshell⟩ := h.done
  -- The shell is either somewhere in its waiting, or else still at work, and then it does not wait.
  rcases List.append_eq_append_iff.mp hlog with ⟨more, rfl, rfl⟩ | ⟨left, rfl, hpending⟩
  · rw [hshell, Ledger.after_append]
    exact Ledger.after_of_isWait _ fun e he => hwaited e (List.mem_append_left _ he)
  · cases left with
    | nil => rw [hshell, List.append_nil]
    | cons e left =>
        have he : e.IsWait := hwaiting e (by simp [hpending])
        exact absurd he (hworked e (by simp))

/-! ### How far the processes can get -/

theorem reachable_finish (l : Ledger) (before later : List Offspring) (pid : Pid) (t : Holdings)
    (chores : List Chore) :
    Reachable ⟨l, [], before ++ ⟨pid, t, chores⟩ :: later⟩
      ⟨l, [], before ++ ⟨pid, chores.foldl Chore.apply t, []⟩ :: later⟩ := by
  induction chores generalizing t with
  | nil => exact .refl
  | cons chore chores ih => exact .head (.chore l [] before later pid t chore chores) (ih _)

theorem reachable_settled (l : Ledger) (before later : List Offspring)
    (hbefore : ∀ child ∈ before, child.chores = []) :
    ∃ children, Reachable ⟨l, [], before ++ later⟩ ⟨l, [], children⟩ ∧
      ∀ child ∈ children, child.chores = [] := by
  induction later generalizing before with
  | nil => exact ⟨before, by rw [List.append_nil]; exact .refl, hbefore⟩
  | cons child later ih =>
      obtain ⟨pid, t, chores⟩ := child
      have hnext : ∀ child ∈ before ++ [⟨pid, chores.foldl Chore.apply t, []⟩],
          child.chores = [] :=
        List.forall_mem_append.mpr ⟨hbefore, by simp⟩
      obtain ⟨children, hreachable, hsettled⟩ := ih _ hnext
      rw [List.append_assoc] at hreachable
      exact ⟨children, (reachable_finish l before later pid t chores).trans hreachable, hsettled⟩

theorem reachable_after (l : Ledger) (pending : List Event) (children : List Offspring) :
    ∃ children', Reachable ⟨l, pending, children⟩ ⟨l.after pending, [], children'⟩ := by
  induction pending generalizing l children with
  | nil => exact ⟨children, .refl⟩
  | cons e pending ih =>
      obtain ⟨children', hreachable⟩ := ih (l.record e) (children ++ (e.offspring? l.table).toList)
      exact ⟨children', .head (.shell l e pending children) hreachable⟩

/-- The shell can always do all of its work, and the children theirs. -/
theorem exists_settled (own : Descriptor → Option Nat) (log : List Event) :
    ∃ s, Reachable (start own log) s ∧ s.Waiting ∧ s.Settled := by
  obtain ⟨children, hworked⟩ := reachable_after (.start own) log []
  obtain ⟨children', hreachable, hsettled⟩ :=
    reachable_settled ((Ledger.start own).after log) [] children (by simp)
  exact ⟨_, hworked.trans hreachable, by simp [Waiting], hsettled⟩

end Scene

/-! ### The scenes of a job -/

namespace Job

/-- The stages of a job that have a process, each with its number and that of the process. -/
def launched (job : Job) : List (Nat × Pid) := stagesFrom 0 (job.tasks.map Task.pid)

theorem Trace.shell_eq {own : Descriptor → Option Nat} (hown : Standing own) {job job' : Job}
    {log : List Event} (h : Trace job job' log) (hfresh : ∀ task ∈ job.tasks, task.pid = none)
    (hlawful : (Ledger.start own).Lawful log) {s : Scene} (hsound : s.Sound (.start own) log)
    (hwaiting : s.Waiting) :
    s.shell.table = .ofOwn own ∧ List.Forall₂ Birth.At s.shell.births job'.launched := by
  have hlaid : Laid (.ofOwn own) 0 none [] (Ledger.start own).table := .nil _ 0
  cases h with
  | unopened e hopened =>
      obtain ⟨hbirths, _, hfailed⟩ := hopened.laid hlaid rfl hlawful
      rw [← List.append_nil log] at hsound
      rw [hsound.shell_eq (fun e he => (hopened.isWiring e he).not_isWait) (by simp) hwaiting]
      have hlaunched : job.launched = [] := by
        have hpids : job.tasks.map Task.pid = List.replicate job.tasks.length none := by
          simpa [List.eq_replicate_iff] using hfresh
        rw [launched, hpids]
        exact stagesFrom_append_none 0 [] _
      refine ⟨hfailed e rfl, ?_⟩
      rw [hbirths, hlaunched]
      exact .nil
  | @started _ pipes turns opened started waited hopened hstarted hwaited hpids =>
      simp only [Ledger.lawful_append] at hlawful
      obtain ⟨hbirths, hpipes, _⟩ := hopened.laid hlaid rfl hlawful.1
      obtain ⟨htable, births, hbirths', hstages⟩ :=
        hstarted.released hown (hpipes pipes rfl) hlawful.2.1
      rw [← List.append_assoc] at hsound
      have hworked : ∀ e ∈ opened ++ started, ¬ e.IsWait :=
        List.forall_mem_append.mpr ⟨fun e he => (hopened.isWiring e he).not_isWait,
          hstarted.not_isWait⟩
      rw [hsound.shell_eq hworked hwaited hwaiting, Ledger.after_append]
      have hlength : turns.length ≤ job.tasks.length := by
        simpa [Job.argvs] using hstarted.length_le
      refine ⟨htable, ?_⟩
      rw [hbirths', hbirths, launched, hpids, Turn.map_pid_markAll hfresh hlength,
        stagesFrom_append_none]
      exact hstages

/-- However the steps of the shell and its children fall: when the shell waits, it holds just what
it held before the job, which is no end of a pipe. Once the children are settled, the process of
each stage holds no end but the writing end of its own pipe, as its standard output, and the reading
end of the pipe before it, as its standard input; and there are no other children. -/
theorem ends_released {κ : Type} [Kernel κ] {registry : Registry (Console (Recorded κ))}
    (hmodest : registry.Modest) (job : Job) (hfresh : ∀ task ∈ job.tasks, task.pid = none)
    {own : Descriptor → Option Nat} (hown : Standing own) (c : Console (Recorded κ)) :
    ∃ log, (execute registry job c).2.kernel.log = c.kernel.log ++ log ∧
      ((Ledger.start own).Lawful log → ∀ scene, Scene.Reachable (.start own log) scene →
        scene.Waiting → scene.shell.table = .ofOwn own ∧
          (scene.Settled →
            List.Forall₂ Offspring.At scene.children (execute registry job c).1.2.launched)) := by
  obtain ⟨log, hlog, htrace⟩ := logs_execute hmodest job c
  refine ⟨log, hlog, fun hlawful scene hreachable hwaiting => ?_⟩
  obtain ⟨htable, hbirths⟩ :=
    htrace.shell_eq hown hfresh hlawful hreachable.sound hwaiting
  exact ⟨htable, Offspring.at_of_owes hreachable.sound.children hbirths⟩

/-- Of four stages the first and the last are launched, with a builtin command and an empty stage in
between. -/
theorem ends_released_rehearsed :
    ∃ scene : Scene,
      Scene.Reachable (.start customary
        (execute Registry.standard (.ofArgvs [["cat"], ["cd"], [], ["wc"]])
          ({ kernel := { kernel := {} } } : Console (Recorded Rehearsal))).2.kernel.log) scene ∧
      scene.Waiting ∧ scene.Settled ∧ scene.shell.table = .ofOwn customary ∧
      List.Forall₂ Offspring.At scene.children [(0, 2), (3, 3)] := by
  generalize hjob : Job.ofArgvs [["cat"], ["cd"], [], ["wc"]] = job
  generalize hc : ({ kernel := { kernel := {} } } : Console (Recorded Rehearsal)) = c
  have hfresh : ∀ task ∈ job.tasks, task.pid = none := by
    rw [← hjob]
    decide
  have hlawful :
      (Ledger.start customary).Lawful (execute Registry.standard job c).2.kernel.log := by
    rw [← hjob, ← hc]
    cbv
    simp
  have hlaunched : (execute Registry.standard job c).1.2.launched = [(0, 2), (3, 3)] := by
    rw [← hjob, ← hc]
    cbv
  obtain ⟨log, hlog, hends⟩ :=
    ends_released Registry.modest_standard job hfresh standing_customary c
  rw [show c.kernel.log = [] by rw [← hc], List.nil_append] at hlog
  obtain ⟨scene, hreachable, hwaiting, hsettled⟩ := Scene.exists_settled customary log
  obtain ⟨htable, hchildren⟩ := hends (hlog ▸ hlawful) scene hreachable hwaiting
  refine ⟨scene, hlog ▸ hreachable, hwaiting, hsettled, htable, ?_⟩
  rw [← hlaunched]
  exact hchildren hsettled

end Job

end LineShell
