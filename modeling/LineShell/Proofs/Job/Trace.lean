import LineShell.Proofs.Builtin.Modest
import LineShell.Proofs.Job.Turn

/-!
The record of a job: what the shell asks for, step by step, while it makes the pipes, starts the
tasks and waits for them. Each part of a run has a relation of its own, with one case for each way
that part can go.
-/

namespace LineShell

/-- The record of making pipes after those in `made`. -/
inductive Opened : List Pipe → Nat → Except Errno (List Pipe) → List Event → Prop
  | all (made : List Pipe) : Opened made 0 (.ok made) []
  | one {made : List Pipe} {count : Nat} {answer : Except Errno (List Pipe)} {later : List Event}
      (reader writer : Descriptor) (h : Opened (made ++ [⟨reader, writer⟩]) count answer later) :
      Opened made (count + 1) answer (.piped (.ok (reader, writer)) :: later)
  | failed (made : List Pipe) (count : Nat) (e : Errno) :
      Opened made (count + 1) (.error e) (.piped (.error e) :: closes (made.flatMap Pipe.ends))

/-- The record of putting descriptors in the place of others, after the replacements in `saved`. -/
inductive Bound : List Saved → List (Descriptor × Descriptor) → Except Errno Unit × List Saved →
    List Event → Prop
  | all (saved : List Saved) : Bound saved [] (.ok (), saved) []
  | one {saved : List Saved} {rest : List (Descriptor × Descriptor)}
      {answer : Except Errno Unit × List Saved} {later : List Event}
      (source target copy : Descriptor) (h : Bound (⟨target, copy⟩ :: saved) rest answer later) :
      Bound saved ((source, target) :: rest) answer
        (.duplicated target (.ok copy) :: .replaced source target (.ok ()) :: later)
  | unsaved (saved : List Saved) (rest : List (Descriptor × Descriptor))
      (source target : Descriptor) (e : Errno) :
      Bound saved ((source, target) :: rest) (.error e, saved) [.duplicated target (.error e)]
  | unbound (saved : List Saved) (rest : List (Descriptor × Descriptor))
      (source target copy : Descriptor) (e : Errno) :
      Bound saved ((source, target) :: rest) (.error e, saved)
        [.duplicated target (.ok copy), .replaced source target (.error e), .closed copy]

/-- The record of putting back what was replaced. -/
inductive Restored : List Saved → List Event → Prop
  | all : Restored [] []
  | one {s : Saved} {earlier : List Saved} {later : List Event} (answer : Except Errno Unit)
      (h : Restored earlier later) :
      Restored (s :: earlier) (.replaced s.copy s.target answer :: .closed s.copy :: later)

/-- The record of the turn of a task. -/
inductive Taken (streams : Streams) (held : List Descriptor) (argv : List String) :
    Turn → List Event → Prop
  /-- The task was passed over. -/
  | idle {turn : Turn} (hpid : turn.pid? = none) : Taken streams held argv turn []
  /-- The turn was that of a builtin command. -/
  | inside {turn : Turn} {saved : List Saved} {answer : Except Errno Unit}
      {before bound output restored : List Event} (hpid : turn.pid? = none)
      (hbefore : ∀ e ∈ before, e.IsOutput)
      (hbound : Bound [] streams.bindings (answer, saved) bound)
      (houtput : ∀ e ∈ output, e.IsOutput) (hrestored : Restored saved restored) :
      Taken streams held argv turn (before ++ (bound ++ (output ++ restored)))
  | launched {before : List Event} (pid : Pid) (hbefore : ∀ e ∈ before, e.IsOutput) :
      Taken streams held argv (.launched pid)
        (before ++ [.forked ⟨argv, streams.bindings, held⟩ (.ok pid)])
  | refused {before : List Event} (e : Errno) (hbefore : ∀ e ∈ before, e.IsOutput) :
      Taken streams held argv (.refused e)
        (before ++ [.forked ⟨argv, streams.bindings, held⟩ (.error e)])

/-- The record of starting tasks. -/
inductive Started : Option Descriptor → List Pipe → List (List String) → List Turn →
    List Event → Prop
  | all (input : Option Descriptor) (pipes : List Pipe) :
      Started input pipes [] [] (closes (Pipe.endsFrom input pipes))
  | last {input : Option Descriptor} {pipes : List Pipe} {argv : List String}
      {rest : List (List String)} {turn : Turn} {events : List Event}
      (h : Taken (.first input pipes) (Pipe.endsFrom input pipes) argv turn events) :
      Started input pipes (argv :: rest) [turn]
        (events ++ (closes (Streams.first input pipes).ends ++ closes (Pipe.left pipes)))
  | next {input : Option Descriptor} {pipes : List Pipe} {argv : List String}
      {rest : List (List String)} {turn : Turn} {turns : List Turn} {events later : List Event}
      (h : Taken (.first input pipes) (Pipe.endsFrom input pipes) argv turn events)
      (hlater : Started (pipes.head?.map Pipe.reader) pipes.tail rest turns later) :
      Started input pipes (argv :: rest) (turn :: turns)
        (events ++ (closes (Streams.first input pipes).ends ++ later))

/-! ### What the parts of a record consist of -/

theorem isWiring_of_closes {ds : List Descriptor} : ∀ e ∈ closes ds, e.IsWiring := by
  simp [closes, Event.IsWiring]

theorem Opened.isWiring {made : List Pipe} {count : Nat} {answer : Except Errno (List Pipe)}
    {events : List Event} (h : Opened made count answer events) : ∀ e ∈ events, e.IsWiring := by
  induction h with
  | all => simp
  | one reader writer _ ih => exact List.forall_mem_cons.mpr ⟨trivial, ih⟩
  | failed => exact List.forall_mem_cons.mpr ⟨trivial, isWiring_of_closes⟩

theorem Bound.isWiring {saved : List Saved} {bindings : List (Descriptor × Descriptor)}
    {answer : Except Errno Unit × List Saved} {events : List Event}
    (h : Bound saved bindings answer events) : ∀ e ∈ events, e.IsWiring := by
  induction h with
  | one source target copy _ ih => simpa [Event.IsWiring] using ih
  | _ => simp [Event.IsWiring]

theorem Restored.isWiring {saved : List Saved} {events : List Event}
    (h : Restored saved events) : ∀ e ∈ events, e.IsWiring := by
  induction h with
  | all => simp
  | one answer _ ih => simpa [Event.IsWiring] using ih

theorem Taken.not_isWait {streams : Streams} {held : List Descriptor} {argv : List String}
    {turn : Turn} {events : List Event} (h : Taken streams held argv turn events) :
    ∀ e ∈ events, ¬ e.IsWait := by
  cases h with
  | idle => simp
  | inside _ hbefore hbound houtput hrestored =>
      simp only [List.forall_mem_append]
      exact ⟨fun e he => (hbefore e he).not_isWait, fun e he => (hbound.isWiring e he).not_isWait,
        fun e he => (houtput e he).not_isWait, fun e he => (hrestored.isWiring e he).not_isWait⟩
  | launched pid hbefore =>
      simp only [List.forall_mem_append]
      exact ⟨fun e he => (hbefore e he).not_isWait, by simp [Event.IsWait]⟩
  | refused e hbefore =>
      simp only [List.forall_mem_append]
      exact ⟨fun e he => (hbefore e he).not_isWait, by simp [Event.IsWait]⟩

theorem Started.not_isWait {input : Option Descriptor} {pipes : List Pipe}
    {argvs : List (List String)} {turns : List Turn} {events : List Event}
    (h : Started input pipes argvs turns events) : ∀ e ∈ events, ¬ e.IsWait := by
  have hcloses {ds : List Descriptor} : ∀ e ∈ closes ds, ¬ e.IsWait := fun e he =>
    (isWiring_of_closes e he).not_isWait
  induction h with
  | all => exact hcloses
  | last htaken =>
      simp only [List.forall_mem_append]
      exact ⟨htaken.not_isWait, hcloses, hcloses⟩
  | next htaken _ ih =>
      simp only [List.forall_mem_append]
      exact ⟨htaken.not_isWait, hcloses, ih⟩

theorem Started.length_le {input : Option Descriptor} {pipes : List Pipe}
    {argvs : List (List String)} {turns : List Turn} {events : List Event}
    (h : Started input pipes argvs turns events) : turns.length ≤ argvs.length := by
  induction h with
  | all => exact Nat.le_refl _
  | last => simp
  | next _ _ ih => simpa using ih

/-! ### Parts of a run and their records -/

namespace Pipe

variable {κ : Type} [Kernel κ]

theorem logs_closeAll (ds : List Descriptor) :
    Logs (closeAll (κ := Recorded κ) ds) fun _ events => events = closes ds := by
  induction ds with
  | nil => exact .pure rfl
  | cons d rest ih =>
      refine .bind (.noting _ _ fun _ => rfl) fun _ events hevents => ?_
      obtain rfl := hevents
      exact ih.mono fun _ later hlater => by simp [hlater, closes]

theorem logs_openAfter (made : List Pipe) (count : Nat) :
    Logs (openAfter (κ := Recorded κ) made count) (Opened made count) := by
  induction count generalizing made with
  | zero => exact .pure (.all made)
  | succ count ih =>
      refine .bind (.noting _ _ fun _ => rfl) fun answer events hevents => ?_
      obtain rfl := hevents
      cases answer with
      | ok ends => exact (ih _).mono fun _ later hlater => .one ends.1 ends.2 hlater
      | error e =>
          refine .bind (logs_closeAll _) fun _ events hevents => .pure ?_
          obtain rfl := hevents
          simpa using Opened.failed made count e

end Pipe

namespace Streams

variable {κ : Type} [Kernel κ]

theorem logs_bindOne (source target : Descriptor) :
    Logs (bindOne (κ := Recorded κ) source target) fun answer events =>
      (∃ copy, answer = .ok ⟨target, copy⟩ ∧
        events = [.duplicated target (.ok copy), .replaced source target (.ok ())]) ∨
      ∃ e, answer = .error e ∧ (events = [.duplicated target (.error e)] ∨ ∃ copy, events =
        [.duplicated target (.ok copy), .replaced source target (.error e), .closed copy]) := by
  refine .bind (.noting _ _ fun _ => rfl) fun answer events hevents => ?_
  obtain rfl := hevents
  cases answer with
  | error e => exact .pure (.inr ⟨e, rfl, .inl rfl⟩)
  | ok copy =>
      refine .bind (.noting _ _ fun _ => rfl) fun answer events hevents => ?_
      obtain rfl := hevents
      cases answer with
      | ok _ => exact .pure (.inl ⟨copy, rfl, rfl⟩)
      | error e =>
          refine .bind (.noting _ _ fun _ => rfl) fun _ events hevents => .pure ?_
          obtain rfl := hevents
          exact .inr ⟨e, rfl, .inr ⟨copy, rfl⟩⟩

theorem logs_bindAfter (saved : List Saved) (bindings : List (Descriptor × Descriptor)) :
    Logs (bindAfter (κ := Recorded κ) saved bindings) (Bound saved bindings) := by
  induction bindings generalizing saved with
  | nil => exact .pure (.all saved)
  | cons binding rest ih =>
      obtain ⟨source, target⟩ := binding
      refine .bind (logs_bindOne source target) fun answer events hevents => ?_
      rcases hevents with ⟨copy, rfl, rfl⟩ | ⟨e, rfl, rfl | ⟨copy, rfl⟩⟩
      · exact (ih _).mono fun _ later hlater => .one source target copy hlater
      · exact .pure (.unsaved saved rest source target e)
      · exact .pure (.unbound saved rest source target copy e)

theorem logs_restore (saved : List Saved) :
    Logs (restore (κ := Recorded κ) saved) fun _ events => Restored saved events := by
  induction saved with
  | nil => exact .pure .all
  | cons s earlier ih =>
      refine .bind (.noting _ _ fun _ => rfl) fun answer events hevents => ?_
      refine .bind (.noting _ _ fun _ => rfl) fun _ events' hevents' => ?_
      obtain rfl := hevents
      obtain rfl := hevents'
      exact ih.mono fun _ later hlater => .one answer hlater

/-- What is asked for within the streams of a task. The run tells whether they could be bound. -/
theorem logs_within {α : Type} {p : Event → Prop} {action : StateM (Console (Recorded κ)) α}
    (haction : Logs action fun _ events => ∀ e ∈ events, p e) (hp : ∀ e : Event, e.IsOutput → p e)
    (streams : Streams) :
    Logs (streams.within action) fun result events =>
      ∃ (saved : List Saved) (answer : Except Errno Unit)
        (before bound acted restored : List Event),
        events = before ++ (bound ++ (acted ++ restored)) ∧ (∀ e ∈ before, e.IsOutput) ∧
        Bound [] streams.bindings (answer, saved) bound ∧ (∀ e ∈ acted, p e) ∧
        Restored saved restored ∧ answer = result.map fun _ => () := by
  refine .bind Console.modest_flush fun _ before hbefore => ?_
  refine .bind (.call (logs_bindAfter [] streams.bindings)) fun answer bound hbound => ?_
  obtain ⟨answer, saved⟩ := answer
  -- Whether or not the streams could be bound, the run ends alike.
  have hend (result : Except Errno α) : Logs (σ := Console (Recorded κ)) (do
        let _ ← Console.flush
        Console.call (restore saved)
        return result) fun result' events => result' = result ∧ ∃ output restored,
          events = output ++ restored ∧ (∀ e ∈ output, p e) ∧ Restored saved restored := by
    refine .bind Console.modest_flush fun _ output houtput => ?_
    refine .bind (.call (logs_restore saved)) fun _ restored hrestored => .pure ?_
    exact ⟨rfl, output, restored, by simp, fun e he => hp e (houtput e he), hrestored⟩
  cases answer with
  | ok _ =>
      refine .bind haction fun a acted hacted => ?_
      rw [pure_bind]
      refine (hend _).mono fun _ later hlater => ?_
      obtain ⟨rfl, output, restored, rfl, houtput, hrestored⟩ := hlater
      exact ⟨saved, .ok (), before, bound, acted ++ output, restored, by simp, hbefore, hbound,
        List.forall_mem_append.mpr ⟨hacted, houtput⟩, hrestored, rfl⟩
  | error e =>
      dsimp only
      rw [pure_bind]
      refine (hend _).mono fun _ later hlater => ?_
      obtain ⟨rfl, output, restored, rfl, houtput, hrestored⟩ := hlater
      exact ⟨saved, .error e, before, bound, output, restored, by simp, hbefore, hbound, houtput,
        hrestored, rfl⟩

end Streams

namespace Task

variable {κ : Type} [Kernel κ]

theorem taken_runBuiltin {registry : Registry (Console (Recorded κ))} (h : registry.Modest)
    (streams : Streams) (held : List Descriptor) (argv : List String) :
    Logs (runBuiltin registry streams argv) (Taken streams held argv) := by
  refine .bind (Streams.logs_within (h.run _) (fun _ => id) streams) fun result events hevents => ?_
  obtain ⟨saved, answer, before, bound, output, restored, rfl, hbefore, hbound, houtput, hrestored,
    _⟩ := hevents
  cases result with
  | ok status =>
      refine .pure ?_
      rw [List.append_nil]
      exact .inside rfl hbefore hbound houtput hrestored
  | error e =>
      refine .bind (.call (.quietly _ fun _ => rfl)) fun _ events hevents => .pure ?_
      obtain rfl := hevents
      rw [List.append_nil, List.append_nil]
      exact .inside rfl hbefore hbound houtput hrestored

theorem taken_launch (streams : Streams) (held : List Descriptor) (argv : List String) :
    Logs (launch (κ := Recorded κ) streams held argv) (Taken streams held argv) := by
  rw [launch]
  split
  · refine .bind (.call (.quietly _ fun _ => rfl)) fun _ events hevents => .pure ?_
    obtain rfl := hevents
    exact .idle rfl
  · refine .bind Console.modest_flush fun _ before hbefore => ?_
    refine .bind (.call (.noting _ _ fun _ => rfl)) fun answer events hevents => ?_
    obtain rfl := hevents
    cases answer with
    | ok pid => exact .pure (.launched pid hbefore)
    | error e => exact .pure (.refused e hbefore)

theorem logs_turn {registry : Registry (Console (Recorded κ))} (h : registry.Modest)
    (streams : Streams) (held : List Descriptor) (argv : List String) :
    Logs (turn registry streams held argv) (Taken streams held argv) := by
  cases argv with
  | nil =>
      refine .bind (.call (.quietly _ fun _ => rfl)) fun _ events hevents => .pure ?_
      obtain rfl := hevents
      exact .idle rfl
  | cons program args =>
      rw [turn]
      split
      · exact taken_runBuiltin h streams held _
      · exact taken_launch streams held _

end Task

namespace Job

variable {κ : Type} [Kernel κ]

theorem logs_turns {registry : Registry (Console (Recorded κ))} (h : registry.Modest)
    (input : Option Descriptor) (pipes : List Pipe) (argvs : List (List String)) :
    Logs (turns registry input pipes argvs) (Started input pipes argvs) := by
  induction argvs generalizing input pipes with
  | nil =>
      refine .bind (.call (Pipe.logs_closeAll _)) fun _ events hevents => .pure ?_
      obtain rfl := hevents
      rw [List.append_nil]
      exact .all input pipes
  | cons argv rest ih =>
      refine .bind (Task.logs_turn h _ _ argv) fun turn events htaken => ?_
      refine .bind (.call (Pipe.logs_closeAll _)) fun _ closed hclosed => ?_
      obtain rfl := hclosed
      split
      · refine .bind (.call (Pipe.logs_closeAll _)) fun _ closed hclosed => .pure ?_
        obtain rfl := hclosed
        rw [List.append_nil]
        exact .last htaken
      · refine .bind (ih _ _) fun turns later hlater => .pure ?_
        rw [List.append_nil]
        exact .next htaken hlater

theorem logs_reap (tasks : List Task) :
    Logs (reap (κ := Recorded κ) tasks) fun tasks' events =>
      tasks'.map Task.pid = tasks.map Task.pid ∧ ∀ e ∈ events, e.IsWait := by
  induction tasks with
  | nil => exact .pure (by simp)
  | cons task rest ih =>
      have hend (task' : Task) (hpid : task'.pid = task.pid) :
          Logs (σ := Recorded κ) (do return task' :: (← reap rest)) fun tasks' events =>
            tasks'.map Task.pid = (task :: rest).map Task.pid ∧ ∀ e ∈ events, e.IsWait := by
        refine .bind ih fun tasks' events hevents => .pure ?_
        simpa [hpid] using hevents
      rw [reap]
      split
      · rw [pure_bind]
        exact hend task rfl
      · rename_i pid hpid
        refine .bind (.noting _ _ fun _ => rfl) fun replies events hevents => ?_
        obtain rfl := hevents
        have hwaited (status : ExitStatus) := (hend (task.withStatus status) rfl).mono
          fun tasks' events h => show tasks'.map Task.pid = (task :: rest).map Task.pid ∧
              ∀ e ∈ .waited pid :: events, e.IsWait from
            ⟨h.1, List.forall_mem_cons.mpr ⟨⟨pid, rfl⟩, h.2⟩⟩
        cases Wait.settle replies with
        | ok status => exact hwaited status
        | error _ => exact hwaited .failure

/-- The record of a run. It may end before the tasks are started, and with or without waiting. -/
inductive Trace (job : Job) : Job → List Event → Prop
  | unopened {events : List Event} (e : Errno) (h : Opened [] (job.size - 1) (.error e) events) :
      Trace job job events
  | started {job' : Job} {pipes : List Pipe} {turns : List Turn}
      {opened started waited : List Event} (hopened : Opened [] (job.size - 1) (.ok pipes) opened)
      (hstarted : Started none pipes job.argvs turns started) (hwaited : ∀ e ∈ waited, e.IsWait)
      (hpids : job'.tasks.map Task.pid = (Turn.markAll turns job.tasks).map Task.pid) :
      Trace job job' (opened ++ (started ++ waited))

theorem logs_execute {registry : Registry (Console (Recorded κ))} (h : registry.Modest)
    (job : Job) : Logs (execute registry job) fun answer events => Trace job answer.2 events := by
  refine .bind (.call (Pipe.logs_openAfter [] _)) fun answer opened hopened => ?_
  cases answer with
  | error e =>
      refine .pure ?_
      rw [List.append_nil]
      exact .unopened e hopened
  | ok pipes =>
      dsimp only
      rw [start_eq_turns]
      refine .bind (P := fun answer events => ∃ turns,
          answer = (Turn.outcome turns, Turn.markAll turns job.tasks) ∧
          Started none pipes job.argvs turns events)
        (.map ((logs_turns h none pipes _).mono fun turns _ h => ⟨turns, rfl, h⟩))
        fun answer started hstarted => ?_
      obtain ⟨turns, rfl, hstarted⟩ := hstarted
      have hend {job' : Job} {waited : List Event} (hwaited : ∀ e ∈ waited, e.IsWait)
          (hpids : job'.tasks.map Task.pid = (Turn.markAll turns job.tasks).map Task.pid) :
          Trace job job' (opened ++ (started ++ waited)) :=
        .started hopened hstarted hwaited hpids
      dsimp only
      cases Turn.outcome turns with
      | error e => exact .pure (hend (by simp) rfl)
      | ok terminated =>
          refine .bind (.call (logs_reap _)) fun tasks waited hwaited => .pure ?_
          rw [List.append_nil]
          exact hend hwaited.2 hwaited.1

end Job

end LineShell
