import LineShell.Proofs.Job.Reference
import LineShell.Proofs.Job.Trace
import LineShell.Proofs.Kernel.Ledger
import LineShell.Proofs.Setback
import Mathlib

/-!
A builtin command leaves the descriptors of the shell as they were. Putting its streams in the place
of the shell's own may fail at any point, and the command may end in any way: what was replaced until
then is put back, and no duplicate stays open. If the streams could not be bound the command is not
run, and its task has failed like any other.
-/

namespace LineShell

/-! ### Putting back what was replaced -/

/-- A replacement that was asked for was made. -/
def Event.Succeeded : Event → Prop
  | .replaced _ _ answer => answer = .ok ()
  | _ => True

/-- All that the system promises of a duplicate is that it was free before. -/
def Ledger.Fresh (l : Ledger) : Event → Prop
  | .duplicated _ (.ok copy) => l.table copy = none
  | _ => True

/-- Putting back what was replaced, whatever it stands for, turns `t` into `t₀`. -/
def Returns (t₀ : Holdings) : List Saved → Holdings → Prop
  | [], t => t = t₀
  | s :: earlier, t =>
      Returns t₀ earlier (Function.update (Function.update t s.target (t s.copy)) s.copy none)

theorem Restored.table_after {saved : List Saved} {events : List Event} (h : Restored saved events)
    {t₀ : Holdings} {l : Ledger} (hreturns : Returns t₀ saved l.table)
    (hsucceeded : ∀ e ∈ events, e.Succeeded) : (l.after events).table = t₀ := by
  induction h generalizing l with
  | all => exact hreturns
  | @one s earlier later answer _ ih =>
      obtain ⟨hanswer, hrest⟩ := List.forall_mem_cons.mp hsucceeded
      obtain rfl : answer = .ok () := hanswer
      exact ih hreturns (List.forall_mem_cons.mp hrest).2

theorem Bound.returns {saved : List Saved} {bindings : List (Descriptor × Descriptor)}
    {answer : Except Errno Unit × List Saved} {events : List Event}
    (h : Bound saved bindings answer events) {t₀ : Holdings} {l : Ledger}
    (hreturns : Returns t₀ saved l.table) (hdistinct : (bindings.map Prod.snd).Nodup)
    (hopen : ∀ b ∈ bindings, l.table b.2 ≠ none) (hfresh : l.Along Ledger.Fresh events) :
    Returns t₀ answer.2 (l.after events).table := by
  induction h generalizing l with
  | all saved => exact hreturns
  | @one saved rest answer later source target copy _ ih =>
      obtain ⟨hcopy, _, hlater⟩ := hfresh
      replace hcopy : l.table copy = none := hcopy
      obtain ⟨htarget, hrest⟩ := List.forall_mem_cons.mp hopen
      obtain ⟨hnotMem, hdistinct⟩ := List.nodup_cons.mp hdistinct
      have hne : copy ≠ target := fun heq => htarget (heq ▸ hcopy)
      refine ih ?_ hdistinct (fun b hb => ?_) hlater
      · obtain ⟨_, hundone⟩ := Holdings.undone hcopy hne
          (Function.update l.table copy (l.table target) source)
        rw [← hundone] at hreturns
        exact hreturns
      -- The targets to come are open and none of them is the one that was just replaced.
      · have hb₂ : b.2 ≠ target := fun heq => hnotMem (List.mem_map.mpr ⟨b, hb, heq⟩)
        have hbcopy : b.2 ≠ copy := fun heq => hrest b hb (heq ▸ hcopy)
        simpa [Ledger.record, Holdings.rebind, hb₂, hbcopy] using hrest b hb
  | unsaved saved rest source target e => exact hreturns
  | unbound saved rest source target copy e =>
      have hcopy : l.table copy = none := hfresh.1
      simpa [Ledger.record, ← hcopy] using hreturns

theorem Ledger.table_record_of_not_isWiring (l : Ledger) {e : Event} (h : ¬ e.IsWiring) :
    (l.record e).table = l.table := by
  cases e with
  | forked child answer => cases answer <;> rfl
  | wrote d bytes answer => rfl
  | waited pid => rfl
  | _ => exact absurd trivial h

theorem Ledger.table_after_of_not_isWiring (l : Ledger) {events : List Event}
    (h : ∀ e ∈ events, ¬ e.IsWiring) : (l.after events).table = l.table := by
  induction events generalizing l with
  | nil => rfl
  | cons e rest ih =>
      obtain ⟨he, hrest⟩ := List.forall_mem_cons.mp h
      rw [Ledger.after_cons, ih _ hrest, l.table_record_of_not_isWiring he]

/-! ### The record of a builtin command -/

/-- The record of a builtin command, if it does nothing to descriptors itself: how its streams were
bound, or how far, with what it asked for after that; and how they were put back. -/
inductive Episode (streams : Streams) : Except Errno Unit → List Event → List Event → Prop
  | intro {answer : Except Errno Unit} {saved : List Saved}
      {before bound acted restored : List Event} (hbefore : ∀ e ∈ before, e.IsOutput)
      (hbound : Bound [] streams.bindings (answer, saved) bound)
      (hacted : ∀ e ∈ acted, ¬ e.IsWiring) (hrestored : Restored saved restored) :
      Episode streams answer (before ++ (bound ++ acted)) restored

theorem Streams.nodup_targets (streams : Streams) : (streams.bindings.map Prod.snd).Nodup := by
  obtain ⟨input, output⟩ := streams
  cases input <;> cases output <;> simp [bindings, Descriptor.input, Descriptor.output]

theorem Episode.table_after {streams : Streams} {answer : Except Errno Unit}
    {work restored : List Event} (h : Episode streams answer work restored) {l : Ledger}
    (hinput : l.table Descriptor.input ≠ none) (houtput : l.table Descriptor.output ≠ none)
    (hfresh : l.Along Ledger.Fresh work) (hsucceeded : ∀ e ∈ restored, e.Succeeded) :
    (l.after (work ++ restored)).table = l.table := by
  obtain ⟨hbefore, hbound, hacted, hrestored⟩ := h
  simp only [Ledger.along_append, l.after_of_isOutput hbefore] at hfresh
  have hopen : ∀ b ∈ streams.bindings, l.table b.2 ≠ none := fun b hb => by
    rcases Streams.target_eq hb with heq | heq
    · rwa [heq]
    · rwa [heq]
  have hstart : Returns l.table [] l.table := rfl
  have hreturns := hbound.returns hstart streams.nodup_targets hopen hfresh.2.1
  simp only [Ledger.after_append, l.after_of_isOutput hbefore]
  refine hrestored.table_after ?_ hsucceeded
  rwa [Ledger.table_after_of_not_isWiring _ hacted]

namespace Streams

variable {κ α : Type} [Kernel κ] {streams : Streams}

/-- Where the streams of a task cannot be bound, it makes no difference what was to be run. -/
theorem within_eq_of_error {action : StateM (Console κ) α} {c : Console κ} {e : Errno}
    (h : (streams.within action c).1 = .error e) (other : StateM (Console κ) α) :
    streams.within other c = streams.within action c := by
  rcases hbound : Console.call (bindAfter [] streams.bindings) (Console.flush c).2 with
    ⟨⟨bound, saved⟩, c'⟩
  cases bound with
  | ok _ =>
      rw [within_of_bound hbound] at h
      cases h
  | error e => rw [within_of_unbound hbound, within_of_unbound hbound]

theorem logs_within_episode {action : StateM (Console (Recorded κ)) α}
    (haction : Logs action fun _ events => ∀ e ∈ events, ¬ e.IsWiring) :
    Logs (streams.within action) fun result events => ∃ work restored,
      events = work ++ restored ∧ Episode streams (result.map fun _ => ()) work restored := by
  have houtput : ∀ e : Event, e.IsOutput → ¬ e.IsWiring := by
    rintro e ⟨bytes, answer, rfl⟩
    exact id
  refine (logs_within haction houtput streams).mono fun result events h => ?_
  obtain ⟨saved, answer, before, bound, acted, restored, rfl, hbefore, hbound, hacted, hrestored,
    rfl⟩ := h
  exact ⟨_, restored, by simp, .intro hbefore hbound hacted hrestored⟩

end Streams

namespace Task

variable {κ : Type} [Kernel κ]

theorem runBuiltin_of_error {registry : Registry (Console κ)} {streams : Streams}
    {argv : List String} {c : Console κ} {e : Errno}
    (h : (streams.within (registry.run Console.standardOutput argv) c).1 = .error e) :
    (runBuiltin registry streams argv c).1 = .unbound e ∧
      ∀ (other : Registry (Console κ)) (argv' : List String),
        runBuiltin other streams argv' c = runBuiltin registry streams argv c := by
  simp only [runBuiltin, bind_apply]
  refine ⟨by rw [h]; rfl, fun other argv' => ?_⟩
  rw [Streams.within_eq_of_error h]

theorem logs_runBuiltin {registry : Registry (Console (Recorded κ))} {argv : List String}
    (hquiet : Logs (registry.run Console.standardOutput argv) fun _ events =>
      ∀ e ∈ events, ¬ e.IsWiring) (streams : Streams) (c : Console (Recorded κ)) :
    ∃ work restored,
      (runBuiltin registry streams argv c).2.kernel.log = c.kernel.log ++ (work ++ restored) ∧
        Episode streams
          ((streams.within (registry.run Console.standardOutput argv) c).1.map fun _ => ())
          work restored := by
  obtain ⟨_, hlog, work, restored, rfl, hepisode⟩ := Streams.logs_within_episode hquiet c
  -- What is reported if the streams could not be bound goes unrecorded.
  have hunrecorded : (runBuiltin registry streams argv c).2.kernel.log =
      (streams.within (registry.run Console.standardOutput argv) c).2.kernel.log := by
    simp only [runBuiltin, bind_apply]
    cases (streams.within (registry.run Console.standardOutput argv) c).1 <;> rfl
  exact ⟨work, restored, hunrecorded.trans hlog, hepisode⟩

/-- A builtin command whose streams could not be bound has had its turn, and the next task is taken
up. -/
theorem start_cons_of_unbound {registry : Registry (Console κ)} {task : Task} {program : String}
    {args : List String} (hargv : task.argv = program :: args)
    (hbuiltin : registry.isBuiltin program = true) {i : Nat} {pipes : List HeldPipe}
    {c : Console κ} {e : Errno}
    (h : (runBuiltin registry (.ofTask pipes i) task.argv c).1 = .unbound e) (rest : List Task) :
    Job.start registry i pipes (task :: rest) c = (do
      let _ ← runBuiltin registry (.ofTask pipes i) task.argv
      Console.call (Pipe.closeAll (Streams.ofTask pipes i).ends)
      let (result, tasks) ← Job.start registry (i + 1) (HeldPipe.release pipes i) rest
      return (result, task.withStatus .failure :: tasks)) c := by
  have hturn (held : List Descriptor) : turn registry (.ofTask pipes i) held task.argv =
      runBuiltin registry (.ofTask pipes i) task.argv := by
    rw [hargv, turn, if_pos hbuiltin]
  simp only [Job.start, run, hturn, bind_apply, pure_apply, h]
  rfl

/-- A builtin command that does nothing to descriptors itself leaves them all as they were,
whichever streams it is given, wherever it fails to get them and however it ends, provided only that
what is to be put back can be put back. If it fails to get its streams it is not run: whatever else
were to be run, the same would happen. Its task has then failed, and the next one is taken up. -/
theorem runBuiltin_restores {registry : Registry (Console (Recorded κ))} {program : String}
    {args : List String} (hbuiltin : registry.isBuiltin program = true)
    (hquiet : Logs (registry.run Console.standardOutput (program :: args)) fun _ events =>
      ∀ e ∈ events, ¬ e.IsWiring) (streams : Streams) (c : Console (Recorded κ)) :
    let outcome := (streams.within (registry.run Console.standardOutput (program :: args)) c).1
    let after := runBuiltin registry streams (program :: args) c
    (∃ work restored, after.2.kernel.log = c.kernel.log ++ (work ++ restored) ∧
      Episode streams (outcome.map fun _ => ()) work restored ∧
      ∀ l : Ledger, l.table Descriptor.input ≠ none → l.table Descriptor.output ≠ none →
        l.Along Ledger.Fresh work → (∀ e ∈ restored, e.Succeeded) →
          (l.after (work ++ restored)).table = l.table) ∧
    ∀ e, outcome = .error e →
      (∀ (other : Registry (Console (Recorded κ))) (argv : List String),
        runBuiltin other streams argv c = after) ∧
      after.1 = .unbound e ∧ after.1.result = .ok (some .failure) ∧
      ∀ (task : Task) (rest : List Task) (i : Nat) (pipes : List HeldPipe),
        task.argv = program :: args → Streams.ofTask pipes i = streams →
          Job.start registry i pipes (task :: rest) c = (do
            let _ ← runBuiltin registry streams task.argv
            Console.call (Pipe.closeAll streams.ends)
            let (result, tasks) ← Job.start registry (i + 1) (HeldPipe.release pipes i) rest
            return (result, task.withStatus .failure :: tasks)) c := by
  refine ⟨?_, fun e he => ?_⟩
  · obtain ⟨work, restored, hlog, hepisode⟩ := logs_runBuiltin hquiet streams c
    exact ⟨work, restored, hlog, hepisode, fun l => hepisode.table_after⟩
  · obtain ⟨hunbound, hsame⟩ := runBuiltin_of_error he
    refine ⟨hsame, hunbound, congrArg Turn.result hunbound, ?_⟩
    rintro task rest i pipes hargv rfl
    exact start_cons_of_unbound hargv hbuiltin (by rw [hargv]; exact hunbound) rest

/-- There is room for one more descriptor, so the input is replaced and the output is not. The shell
does not end, for the command is not run. -/
theorem runBuiltin_restores_cramped :
    let c : Console (Recorded Setback) :=
      { kernel := { kernel := { rehearsal := { inUse := [0, 1, 2, 3, 5, 6] }, limit := 7 } } }
    let l : Ledger :=
      { table := fun
          | 0 => some (.own 0)
          | 1 => some (.own 1)
          | 3 => some (.reader 0)
          | 5 => some (.reader 1)
          | 6 => some (.writer 1)
          | _ => none }
    let after := runBuiltin Registry.standard ⟨some 3, some 6⟩ ["exit", "3"] c
    after.2.kernel.log = [.duplicated 0 (.ok 4), .replaced 3 0 (.ok ()),
      .duplicated 1 (.error .tooManyOpen), .replaced 4 0 (.ok ()), .closed 4] ∧
    (l.after after.2.kernel.log).table = l.table ∧ after.1 = .unbound .tooManyOpen := by
  intro c l after
  have hlog : after.2.kernel.log = [.duplicated 0 (.ok 4), .replaced 3 0 (.ok ()),
      .duplicated 1 (.error .tooManyOpen), .replaced 4 0 (.ok ()), .closed 4] := by
    cbv
  have hquiet : Logs (Registry.standard.run (Console.standardOutput (κ := Recorded Setback))
      ["exit", "3"]) fun _ events => ∀ e ∈ events, ¬ e.IsWiring :=
    (Registry.modest_standard.run _).mono fun _ events h e he => by
      obtain ⟨bytes, answer, rfl⟩ := h e he
      exact id
  obtain ⟨⟨work, restored, hsplit, _, htable⟩, hunbound⟩ :=
    runBuiltin_restores rfl hquiet ⟨some 3, some 6⟩ c
  replace hsplit : after.2.kernel.log = work ++ restored := hsplit
  have hfresh : l.Along Ledger.Fresh after.2.kernel.log := by
    rw [hlog]
    exact ⟨rfl, trivial, trivial, trivial, trivial, trivial⟩
  have hsucceeded : ∀ e ∈ after.2.kernel.log, e.Succeeded := by
    simp [hlog, Event.Succeeded]
  rw [hsplit, Ledger.along_append] at hfresh
  rw [hsplit, List.forall_mem_append] at hsucceeded
  refine ⟨hlog, ?_, (hunbound .tooManyOpen (by cbv)).2.1⟩
  rw [hsplit]
  exact htable l (by simp [l, Descriptor.input]) (by simp [l, Descriptor.output]) hfresh.1
    hsucceeded.2

end Task

end LineShell
