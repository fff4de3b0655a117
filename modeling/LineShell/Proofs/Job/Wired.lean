import LineShell.Proofs.Job.Delivered
import LineShell.Proofs.Rehearsal

/-!
How the stages of a job are wired. By the time that the turn of a stage comes, the shell has closed
the ends of pipes that the stages before it were given, each once, and no others. So what a stage is
given is still open, and it is given the shell's own streams only at the two ends of the job.
-/

namespace LineShell

/-! ### The ends that are closed -/

namespace Ledger

/-- The end of a pipe that an event closes, if it closes one. -/
def closing? (l : Ledger) : Event → Option Port
  | .closed d => (l.table d).filter Port.IsEnd
  | _ => none

/-- The ends of pipes that are closed, one after another. -/
def shut : Ledger → List Event → List Port
  | _, [] => []
  | l, e :: later => (l.closing? e).toList ++ shut (l.record e) later

@[simp] theorem shut_nil (l : Ledger) : l.shut [] = [] := rfl

theorem shut_cons (l : Ledger) (e : Event) (later : List Event) :
    l.shut (e :: later) = (l.closing? e).toList ++ (l.record e).shut later := rfl

@[simp] theorem shut_append (l : Ledger) (events later : List Event) :
    l.shut (events ++ later) = l.shut events ++ (l.after events).shut later := by
  induction events generalizing l with
  | nil => rfl
  | cons e rest ih => simp [shut_cons, ih]

theorem shut_of_isOutput (l : Ledger) {events : List Event} (h : ∀ e ∈ events, e.IsOutput) :
    l.shut events = [] := by
  induction events generalizing l with
  | nil => rfl
  | cons e rest ih =>
      obtain ⟨⟨bytes, answer, rfl⟩, hrest⟩ := List.forall_mem_cons.mp h
      exact ih _ hrest

theorem closing?_of_own {l : Ledger} {d : Descriptor} {stream : Nat}
    (h : l.table d = some (.own stream)) : l.closing? (.closed d) = none := by
  simp [closing?, h]

theorem closing?_of_isEnd {l : Ledger} {d : Descriptor} {port : Port} (h : l.table d = some port)
    (hend : port.IsEnd) : l.closing? (.closed d) = some port := by
  simp [closing?, h, hend]

theorem closing?_record_closed (l : Ledger) {d d' : Descriptor} (hne : d' ≠ d) :
    (l.record (.closed d)).closing? (.closed d') = l.closing? (.closed d') := by
  simp [closing?, record, hne]

theorem shut_closes (l : Ledger) {ds : List Descriptor} (h : ds.Nodup) :
    l.shut (closes ds) = ds.filterMap fun d => l.closing? (.closed d) := by
  induction ds generalizing l with
  | nil => rfl
  | cons d rest ih =>
      obtain ⟨hnotMem, hrest⟩ := List.nodup_cons.mp h
      have hkept : ∀ d' ∈ rest, (l.record (.closed d)).closing? (.closed d') =
          l.closing? (.closed d') := fun d' hd' =>
        l.closing?_record_closed (ne_of_mem_of_not_mem hd' hnotMem)
      rw [closes, List.map_cons, shut_cons, List.filterMap_cons]
      have hlater := (ih (l.record (.closed d)) hrest).trans (List.filterMap_congr hkept)
      rw [← closes, hlater]
      cases l.closing? (.closed d) <;> rfl

end Ledger

/-- Making pipes closes none of their ends, if all of them are made. -/
theorem Opened.shut {made : List Pipe} {count : Nat} {answer : Except Errno (List Pipe)}
    {events : List Event} (h : Opened made count answer events) {pipes : List Pipe}
    (hanswer : answer = .ok pipes) (l : Ledger) :
    l.shut events = [] ∧ pipes.length = made.length + count := by
  induction h generalizing l with
  | all made =>
      obtain rfl := Except.ok.inj hanswer
      exact ⟨rfl, rfl⟩
  | one reader writer _ ih =>
      obtain ⟨hshut, hlength⟩ := ih hanswer (l.record (.piped (.ok (reader, writer))))
      refine ⟨hshut, ?_⟩
      rw [hlength, List.length_append, List.length_singleton]
      omega
  | failed => cases hanswer

/-- What is closed once a stream is put back is its duplicate, and that is no end of a pipe. -/
theorem Restored.shut {saved : List Saved} {events : List Event} (h : Restored saved events)
    {t₀ : Holdings} {l : Ledger} (hundoes : Undoes t₀ saved l.table) (hlawful : l.Lawful events) :
    l.shut events = [] := by
  induction h generalizing l with
  | all => rfl
  | @one s earlier later answer _ ih =>
      obtain ⟨⟨stream, hstream⟩, hundoes⟩ := hundoes
      obtain ⟨hgrants, _, hlater⟩ := hlawful
      obtain rfl := hgrants stream hstream
      have hcopy : (l.record (.replaced s.copy s.target (.ok ()))).table s.copy =
          some (.own stream) := by
        show l.table.rebind (s.copy, s.target) s.copy = _
        rw [Holdings.rebind_apply, hstream, ite_self]
      rw [Ledger.shut_cons, Ledger.shut_cons, Ledger.closing?_of_own hcopy]
      exact ih hundoes hlater

theorem Bound.shut {saved : List Saved} {bindings : List (Descriptor × Descriptor)}
    {answer : Except Errno Unit × List Saved} {events : List Event}
    (h : Bound saved bindings answer events) {l : Ledger} (hbindings : Replaceable bindings l.table)
    (hlawful : l.Lawful events) : l.shut events = [] := by
  induction h generalizing l with
  | all saved => rfl
  | @one saved rest answer later source target copy _ ih =>
      obtain ⟨hcopy, _, hlater⟩ := hlawful
      exact ih (hbindings.tail (update_of_open hcopy _ _)) hlater
  | unsaved saved rest source target e => rfl
  | unbound saved rest source target copy e =>
      -- The duplicate of a stream that could not be replaced is given up again.
      obtain ⟨stream, htarget⟩ := hbindings.target _ List.mem_cons_self
      have hcopy : ((l.record (.duplicated target (.ok copy))).record
          (.replaced source target (.error e))).table copy = some (.own stream) := by
        rw [← htarget]
        exact Function.update_self ..
      rw [Ledger.shut_cons, Ledger.shut_cons, Ledger.shut_cons,
        Ledger.closing?_of_own hcopy]
      rfl

/-- The turn of a task closes no end of a pipe. -/
theorem Taken.shut {streams : Streams} {held : List Descriptor} {argv : List String} {turn : Turn}
    {events : List Event} (h : Taken streams held argv turn events) {l : Ledger}
    (hbindings : Replaceable streams.bindings l.table) (hlawful : l.Lawful events) :
    l.shut events = [] := by
  cases h with
  | idle => rfl
  | @inside _ saved answer before bound output restored _ hbefore hbound houtput hrestored =>
      simp only [Ledger.lawful_append, l.after_of_isOutput hbefore] at hlawful
      obtain ⟨_, hlawful, _, hlawful'⟩ := hlawful
      have hnone : Undoes l.table [] l.table := rfl
      obtain ⟨t, hafter, hundoes⟩ := hbound.undoes hnone hbindings hlawful
      rw [hafter, Ledger.after_of_isOutput _ houtput] at hlawful'
      simp only [Ledger.shut_append, l.shut_of_isOutput hbefore, l.after_of_isOutput hbefore,
        hbound.shut hbindings hlawful, Ledger.shut_of_isOutput _ houtput, hafter,
        Ledger.after_of_isOutput _ houtput, hrestored.shut hundoes hlawful', List.append_nil]
  | launched pid hbefore =>
      rw [Ledger.shut_append, l.shut_of_isOutput hbefore]
      rfl
  | refused e hbefore =>
      rw [Ledger.shut_append, l.shut_of_isOutput hbefore]
      rfl

/-! ### The ends that a stage uses -/

/-- The ends that a stage is given, if it is not the last of its job. -/
def Port.usedBy : Nat → List Port
  | 0 => [.writer 0]
  | k + 1 => [.reader k, .writer (k + 1)]

/-- Before stage `k` the writing ends of all pipes before it have been used, and their reading ends
except that of the last, which is for the stage. -/
theorem Port.flatMap_usedBy_perm (k : Nat) : ((List.range k).flatMap Port.usedBy).Perm
    ((List.range k).map .writer ++ (List.range (k - 1)).map .reader) := by
  induction k with
  | zero => exact .nil
  | succ k ih =>
      rw [List.range_succ, List.flatMap_append, List.flatMap_singleton, List.map_append]
      cases k with
      | zero => exact .refl _
      | succ k =>
          refine (ih.append_right _).trans ?_
          simp only [Nat.add_sub_cancel, List.append_assoc]
          refine .append_left _ ?_
          rw [usedBy, List.append_cons, List.range_succ, List.map_append]
          exact List.perm_append_comm

theorem Pipe.inputAt_succ (input : Option Descriptor) (pipes : List Pipe) (i : Nat) :
    Pipe.inputAt (pipes.head?.map Pipe.reader) pipes.tail i = Pipe.inputAt input pipes (i + 1) := by
  cases i with
  | zero => rw [Pipe.inputAt, Pipe.inputAt, List.head?_eq_getElem?]
  | succ i => rw [Pipe.inputAt, Pipe.inputAt, List.getElem?_tail]

/-- The first task has no input, and each other one is given that of a pipe. -/
theorem Pipe.inputAt_eq_none_iff {pipes : List Pipe} {i : Nat} (hi : i ≤ pipes.length) :
    Pipe.inputAt none pipes i = none ↔ i = 0 := by
  cases i with
  | zero => exact ⟨fun _ => rfl, fun _ => rfl⟩
  | succ i =>
      rw [Pipe.inputAt, List.getElem?_eq_getElem hi]
      simp

namespace Laid

variable {own : Descriptor → Option Nat} {k : Nat} {input : Option Descriptor} {pipes : List Pipe}
  {t : Holdings}

theorem mem_of_isEnd (h : Laid (.ofOwn own) k input pipes t) {d : Descriptor} {port : Port}
    (hd : t d = some port) (hend : port.IsEnd) : d ∈ Pipe.endsFrom input pipes := by
  by_contra hmem
  rw [h.apply_of_notMem hmem] at hd
  obtain ⟨stream, _, rfl⟩ := Option.map_eq_some_iff.mp hd
  exact hend stream rfl

theorem reader_held_iff (h : Laid (.ofOwn own) k input pipes t) (j : Nat) :
    (∃ d, t d = some (.reader j)) ↔
      (input.isSome = true ∧ k = j + 1) ∨ (k ≤ j ∧ j < k + pipes.length) := by
  constructor
  · rintro ⟨d, hd⟩
    rcases h.apply_of_mem (h.mem_of_isEnd hd (by simp)) with
      ⟨hinput, i, hk, hport⟩ | ⟨i, hi, hport | hport⟩
    · rw [hd, Option.some.injEq, Port.reader.injEq] at hport
      exact .inl ⟨hinput, hport ▸ hk⟩
    · rw [hd, Option.some.injEq, Port.reader.injEq] at hport
      exact .inr (by omega)
    · rw [hd] at hport
      cases hport
  · rintro (⟨hinput, rfl⟩ | ⟨hle, hlt⟩)
    · obtain ⟨d, hd⟩ := Option.isSome_iff_exists.mp hinput
      obtain ⟨i, hi, hport⟩ := h.inputPort d hd
      obtain rfl := Nat.succ.inj hi
      exact ⟨d, hport⟩
    · obtain ⟨i, rfl⟩ := Nat.exists_eq_add_of_le hle
      have hi : i < pipes.length := by omega
      exact ⟨_, (h.pipePorts i _ (List.getElem?_eq_getElem hi)).1⟩

theorem writer_held_iff (h : Laid (.ofOwn own) k input pipes t) (j : Nat) :
    (∃ d, t d = some (.writer j)) ↔ k ≤ j ∧ j < k + pipes.length := by
  constructor
  · rintro ⟨d, hd⟩
    rcases h.apply_of_mem (h.mem_of_isEnd hd (by simp)) with
      ⟨_, i, _, hport⟩ | ⟨i, hi, hport | hport⟩
    · rw [hd] at hport
      cases hport
    · rw [hd] at hport
      cases hport
    · rw [hd, Option.some.injEq, Port.writer.injEq] at hport
      omega
  · rintro ⟨hle, hlt⟩
    obtain ⟨i, rfl⟩ := Nat.exists_eq_add_of_le hle
    have hi : i < pipes.length := by omega
    exact ⟨_, (h.pipePorts i _ (List.getElem?_eq_getElem hi)).2⟩

/-- A stage that is not the last closes the ends that it was given. -/
theorem shut_ends {l : Ledger} {pipe : Pipe} {later : List Pipe}
    (h : Laid (.ofOwn own) k input (pipe :: later) l.table) (hinput : input = none → k = 0) :
    l.shut (closes (Streams.first input (pipe :: later)).ends) = Port.usedBy k := by
  have hdistinct := (Pipe.endsFrom_perm input (pipe :: later)).nodup_iff.mp h.distinct
  have hwriter := (h.head_ports rfl).2
  rw [l.shut_closes (List.nodup_append.mp hdistinct).1]
  cases input with
  | none =>
      obtain rfl := hinput rfl
      have hclosing := Ledger.closing?_of_isEnd hwriter (Port.isEnd_writer 0)
      simp [Streams.first, Streams.ends, hclosing, Port.usedBy]
  | some d =>
      obtain ⟨i, rfl, hreader⟩ := h.inputPort d rfl
      have hclosing := Ledger.closing?_of_isEnd hreader (Port.isEnd_reader i)
      have hclosing' := Ledger.closing?_of_isEnd hwriter (Port.isEnd_writer (i + 1))
      simp [Streams.first, Streams.ends, hclosing, hclosing', Port.usedBy]

end Laid

/-! ### The stages of a job -/

/-- Nothing is struck from the record. -/
theorem Logs.grows {σ α : Type} [Recording σ] {m : StateM σ α} {P : α → List Event → Prop}
    (h : Logs m P) (s : σ) : Recording.log s <+: Recording.log (m s).2 := by
  obtain ⟨events, hlog, _⟩ := h s
  exact ⟨events, hlog.symm⟩

namespace Stage

variable {κ : Type} [Kernel κ]

/-- The stage is wired as number `i` of `count`, by what the shell holds as its turn comes and what
it has closed by then. -/
structure Wired (own : Descriptor → Option Nat) (count i : Nat) (stage : Stage (Recorded κ)) :
    Prop where
  /-- What the standard input of the task is. -/
  input : (stage.console.ledger own).table (stage.streams.input.getD Descriptor.input) =
    if i = 0 then Holdings.ofOwn own Descriptor.input else some (.reader (i - 1))
  output : stage.port own =
    if i + 1 = count then Holdings.ofOwn own Descriptor.output else some (.writer i)
  /-- The ends that have been closed, in some order. -/
  closed : ((Ledger.start own).shut stage.console.kernel.log).Perm
    ((List.range i).map .writer ++ (List.range (i - 1)).map .reader)
  /-- The ends that are open. -/
  readers (j : Nat) : (∃ d, (stage.console.ledger own).table d = some (.reader j)) ↔
    i ≤ j + 1 ∧ j + 1 < count
  writers (j : Nat) : (∃ d, (stage.console.ledger own).table d = some (.writer j)) ↔
    i ≤ j ∧ j + 1 < count

end Stage

theorem Streams.first_drop_output {input : Option Descriptor} {pipes : List Pipe} {i : Nat}
    (hi : i ≤ pipes.length) :
    (Streams.first input (pipes.drop i)).output = none ↔ i = pipes.length := by
  rw [Streams.first, List.head?_drop, Option.map_eq_none_iff, List.getElem?_eq_none_iff]
  omega

/-- What a stage is given while its pipes are laid is what it is to be given. -/
theorem Stage.wired_of_laid {κ : Type} [Kernel κ] {own : Descriptor → Option Nat}
    (hown : Standing own) {stage : Stage (Recorded κ)} {pipes : List Pipe} {i : Nat}
    (hi : i ≤ pipes.length)
    (hstreams : stage.streams = .first (Pipe.inputAt none pipes i) (pipes.drop i))
    (hlaid : Laid (.ofOwn own) i (Pipe.inputAt none pipes i) (pipes.drop i)
      (stage.console.ledger own).table)
    (hshut : (Ledger.start own).shut stage.console.kernel.log =
      (List.range i).flatMap Port.usedBy) :
    stage.Wired own (pipes.length + 1) i where
  input := by
    rw [hstreams]
    cases i with
    | zero => exact hlaid.apply_eq_ofOwn hown.input
    | succ i =>
        have hinput : Pipe.inputAt none pipes (i + 1) = some pipes[i].reader := by
          rw [Pipe.inputAt, List.getElem?_eq_getElem hi, Option.map_some]
        obtain ⟨j, hj, hreader⟩ := hlaid.inputPort _ hinput
        obtain rfl := Nat.succ.inj hj
        simpa [Streams.first, hinput] using hreader
  output := by
    rw [Stage.port, hstreams]
    rcases Nat.lt_or_eq_of_le hi with hlt | rfl
    · have hhead : (pipes.drop i).head? = some pipes[i] := by
        rw [List.head?_drop, List.getElem?_eq_getElem hlt]
      rw [if_neg (by omega), Streams.first, hhead]
      exact (hlaid.head_ports hhead).2
    · rw [if_pos rfl, List.drop_length]
      exact hlaid.apply_eq_ofOwn hown.output
  closed := hshut ▸ Port.flatMap_usedBy_perm i
  readers j := by
    rw [hlaid.reader_held_iff, List.length_drop, Option.isSome_iff_ne_none, ne_eq,
      Pipe.inputAt_eq_none_iff hi]
    omega
  writers j := by
    rw [hlaid.writer_held_iff, List.length_drop]
    omega

namespace Job

variable {κ : Type} [Kernel κ]

/-- Each stage is given an end of the pipe before it and one of the pipe after it. -/
theorem streams_of_stages {registry : Registry (Console κ)} {input : Option Descriptor}
    {pipes : List Pipe} {argvs : List (List String)} {c : Console κ} {i : Nat} {stage : Stage κ}
    (hi : (stages registry input pipes argvs c)[i]? = some stage) :
    i < argvs.length ∧ stage.streams = .first (Pipe.inputAt input pipes i) (pipes.drop i) := by
  induction argvs generalizing input pipes c i with
  | nil => cases hi
  | cons argv rest ih =>
      cases i with
      | zero =>
          obtain rfl := Option.some.inj hi
          exact ⟨Nat.succ_pos _, rfl⟩
      | succ i =>
          rw [stages, List.getElem?_cons_succ] at hi
          split at hi
          · cases hi
          · obtain ⟨hlt, hstreams⟩ := ih hi
            rw [Pipe.inputAt_succ, List.drop_tail] at hstreams
            exact ⟨Nat.succ_lt_succ hlt, hstreams⟩

section Wired

variable {registry : Registry (Console (Recorded κ))} (hmodest : registry.Modest)

include hmodest

theorem grows_turns {input : Option Descriptor} {pipes : List Pipe} {argvs : List (List String)}
    {c : Console (Recorded κ)} {stage : Stage (Recorded κ)}
    (hstage : stage ∈ stages registry input pipes argvs c) :
    stage.console.kernel.log <+: (turns registry input pipes argvs c).2.kernel.log := by
  induction argvs generalizing input pipes c with
  | nil => cases hstage
  | cons argv rest ih =>
      rcases List.mem_cons.mp hstage with rfl | hlater
      · exact (logs_turns hmodest input pipes (argv :: rest)).grows c
      · rw [List.mem_ite_nil_left] at hlater
        rw [turns_cons, if_neg hlater.1]
        exact ih hlater.2

theorem grows_execute {job : Job} {c : Console (Recorded κ)} {stages : List (Stage (Recorded κ))}
    (h : job.reached registry c = .ok stages) {stage : Stage (Recorded κ)}
    (hstage : stage ∈ stages) :
    stage.console.kernel.log <+: (job.execute registry c).2.kernel.log := by
  obtain ⟨pipes, c', hopen, rfl⟩ := exists_opened_of_reached h
  have hturns := grows_turns hmodest hstage
  simp only [execute_of_opened hopen]
  cases Turn.outcome (turns registry none pipes job.argvs c').1 with
  | error e => exact hturns
  | ok terminated => exact hturns.trans ((logs_reap _).call.grows _)

variable {own : Descriptor → Option Nat} (hown : Standing own)

include hown

/-- A stage that is not the last of its job closes the ends that it was given, and no others. -/
theorem exists_shut (input : Option Descriptor) (pipe : Pipe) (later : List Pipe)
    (argv : List String) (c : Console (Recorded κ)) :
    let done := (Stage.first input (pipe :: later) argv c).done registry
    ∃ events, done.kernel.log = c.kernel.log ++ events ∧
      ∀ k, Laid (.ofOwn own) k input (pipe :: later) (c.ledger own).table →
        (input = none → k = 0) → (c.ledger own).Lawful events →
          Laid (.ofOwn own) (k + 1) (some pipe.reader) later (done.ledger own).table ∧
            (c.ledger own).shut events = Port.usedBy k := by
  intro done
  obtain ⟨events, _, htaken, hlog⟩ :=
    (Stage.first input (pipe :: later) argv c).exists_taken hmodest
  refine ⟨_, hlog, fun k hlaid hinput hlawful => ?_⟩
  obtain ⟨hlawful, _⟩ := ((c.ledger own).lawful_append _ _).mp hlawful
  have hbindings := hlaid.replaceable hown
  refine ⟨?_, ?_⟩
  · rw [Console.ledger_of_log hlog]
    exact hlaid.passed hown htaken hlawful
  · rw [Ledger.shut_append, htaken.shut hbindings hlawful, htaken.after hbindings hlawful,
      List.nil_append]
    exact Laid.shut_ends (show Laid _ k input (pipe :: later) _ from hlaid) hinput

/-- Before the turn of a stage come those of the stages before it, and nothing else. -/
theorem exists_laid {input : Option Descriptor} {pipes : List Pipe} {argvs : List (List String)}
    {c : Console (Recorded κ)} {i : Nat} {stage : Stage (Recorded κ)}
    (hi : (stages registry input pipes argvs c)[i]? = some stage)
    (hlength : argvs.length ≤ pipes.length + 1) :
    ∃ events, stage.console.kernel.log = c.kernel.log ++ events ∧
      ∀ k, Laid (.ofOwn own) k input pipes (c.ledger own).table → (input = none → k = 0) →
        (c.ledger own).Lawful events →
          Laid (.ofOwn own) (k + i) (Pipe.inputAt input pipes i) (pipes.drop i)
              (stage.console.ledger own).table ∧
            (c.ledger own).shut events = (List.range' k i).flatMap Port.usedBy := by
  -- By induction on the tasks. What the next one starts from is that its pipes are `Laid`.
  induction argvs generalizing input pipes c i with
  | nil => cases hi
  | cons argv rest ih =>
      cases i with
      | zero =>
          obtain rfl := Option.some.inj hi
          exact ⟨[], (List.append_nil _).symm, fun k hlaid _ _ => ⟨hlaid, rfl⟩⟩
      | succ i =>
          rw [stages, List.getElem?_cons_succ] at hi
          split at hi
          · cases hi
          · -- There is a task after this one, and so a pipe.
            have hlt := (streams_of_stages hi).1
            obtain ⟨pipe, later, rfl⟩ : ∃ pipe later, pipes = pipe :: later := by
              rw [List.length_cons] at hlength
              exact List.exists_cons_of_length_pos (by omega)
            obtain ⟨events, hlog, hdone⟩ := exists_shut hmodest hown input pipe later argv c
            obtain ⟨events', hlog', hlater⟩ := ih hi (by simpa using hlength)
            refine ⟨events ++ events', ?_, fun k hlaid hinput hlawful => ?_⟩
            · rw [hlog', hlog, List.append_assoc]
            · rw [Ledger.lawful_append, ← Console.ledger_of_log hlog] at hlawful
              obtain ⟨hpassed, hshut⟩ := hdone k hlaid hinput hlawful.1
              obtain ⟨hlaid', hshut'⟩ := hlater (k + 1) hpassed (by simp) hlawful.2
              refine ⟨?_, ?_⟩
              · rwa [Pipe.inputAt_succ input, Nat.add_right_comm] at hlaid'
              · rw [Ledger.shut_append, ← Console.ledger_of_log hlog, hshut, hshut',
                  List.range'_succ, List.flatMap_cons]

/-- Whatever the stages before it were, a stage is given the shell's own standard input just if it is
the first of its job and the shell's own standard output just if it is the last, and otherwise ends of
the pipes before and after it that are still open. The ends that have been closed by then are those
that the stages before it used, each once. So no stage finds an end gone that its number calls for. -/
theorem wired_of_reached (job : Job) (k : κ) (buffered : Bytes) :
    let c : Console (Recorded κ) := { kernel := { kernel := k }, buffered := buffered }
    ∀ stages, job.reached registry c = .ok stages → ∀ i stage, stages[i]? = some stage →
      stage.console.kernel.log <+: (job.execute registry c).2.kernel.log ∧
        i < job.size ∧
        (∃ pipes c', Console.call (Pipe.openMany (job.size - 1)) c = (.ok pipes, c') ∧
          stage.streams =
            .ofTask ((List.range i).foldl HeldPipe.release (pipes.map HeldPipe.ofPipe)) i) ∧
        (stage.streams.input = none ↔ i = 0) ∧
        (stage.streams.output = none ↔ i + 1 = job.size) ∧
        ((Ledger.start own).Lawful stage.console.kernel.log → stage.Wired own job.size i) := by
  intro c stages h i stage hi
  have hgrows := grows_execute hmodest h (List.mem_of_getElem? hi)
  obtain ⟨pipes, c', hopen, rfl⟩ := exists_opened_of_reached h
  obtain ⟨opened, hlog, hopened, _⟩ := exists_opened hopen
  obtain ⟨hshut, hlength⟩ := hopened.shut rfl (Ledger.start own)
  obtain ⟨hlt, hstreams⟩ := streams_of_stages hi
  -- There is a task, and each but the last has a pipe after it.
  have hargvs : job.argvs.length = job.size := List.length_map ..
  have hsize : pipes.length + 1 = job.size := by
    rw [hlength, List.length_nil]
    omega
  have hle' : i ≤ pipes.length := by omega
  have hheld : stage.streams =
      .ofTask ((List.range i).foldl HeldPipe.release (pipes.map HeldPipe.ofPipe)) i := by
    rw [hstreams, Pipe.foldl_release, Pipe.ofTask_heldAt]
  refine ⟨hgrows, by omega, ⟨pipes, c', hopen, hheld⟩, ?_⟩
  rw [← hsize]
  refine ⟨?_, ?_, fun hlawful => ?_⟩
  · rw [hstreams]
    exact Pipe.inputAt_eq_none_iff hle'
  · rw [hstreams, Streams.first_drop_output hle']
    omega
  · obtain ⟨events, hlog', hwired⟩ := exists_laid hmodest hown hi (by omega)
    rw [hlog', hlog, List.nil_append, Ledger.lawful_append] at hlawful
    have hledger : c'.ledger own = (Ledger.start own).after opened := Console.ledger_of_log hlog
    obtain ⟨_, hlaid, _⟩ := hopened.laid (Laid.nil (.ofOwn own) 0) rfl hlawful.1
    rw [← hledger] at hlawful
    obtain ⟨hlaid', hshut'⟩ := hwired 0 (hledger ▸ hlaid pipes rfl) (fun _ => rfl) hlawful.2
    rw [Nat.zero_add] at hlaid'
    refine Stage.wired_of_laid hown hle' hstreams hlaid' ?_
    rw [hlog', hlog, List.nil_append, Ledger.shut_append, hshut, ← hledger, hshut',
      List.range_eq_range', List.nil_append]

end Wired

/-- A program, a builtin command and no command at all before another program. -/
def medley : Job := .ofArgvs [["cat"], ["cd", "/"], [], ["wc"]]

/-- The duplicate of standard input gets the number of an end that has been closed. -/
theorem log_medley : (medley.execute Registry.standard
    ({ kernel := { kernel := {} } } : Console (Recorded Rehearsal))).2.kernel.log =
      [.piped (.ok (3, 4)), .piped (.ok (5, 6)), .piped (.ok (7, 8)),
        .forked ⟨["cat"], [(4, 1)], [3, 4, 5, 6, 7, 8]⟩ (.ok 2), .closed 4,
        .duplicated 0 (.ok 4), .replaced 3 0 (.ok ()), .duplicated 1 (.ok 9),
        .replaced 6 1 (.ok ()), .replaced 9 1 (.ok ()), .closed 9, .replaced 4 0 (.ok ()),
        .closed 4, .closed 3, .closed 6, .closed 5, .closed 8,
        .forked ⟨["wc"], [(7, 0)], [7]⟩ (.ok 3), .closed 7, .waited 2, .waited 3] := by
  obtain ⟨_, _, _, hstandard⟩ := Registry.exists_standard (σ := Console (Recorded Rehearsal))
  rw [hstandard]
  cbv

theorem wired_of_reached_medley : ∃ stages stage,
    medley.reached Registry.standard
        ({ kernel := { kernel := {} } } : Console (Recorded Rehearsal)) = .ok stages ∧
      stages[3]? = some stage ∧ stage.streams.input.isSome ∧ stage.Wired customary 4 3 := by
  let c : Console (Recorded Rehearsal) := { kernel := { kernel := {} } }
  obtain ⟨stages, hstages⟩ : ∃ stages, medley.reached Registry.standard c = .ok stages := ⟨_, rfl⟩
  have hlast : 3 < stages.length := by
    obtain ⟨pipes, c', hopen, hturns⟩ := exists_pipes_of_reached hstages
    have hpipes : (Console.call (Pipe.openMany 3) c).1 = .ok [⟨3, 4⟩, ⟨5, 6⟩, ⟨7, 8⟩] := by cbv
    have hcount : (turns Registry.standard none [⟨3, 4⟩, ⟨5, 6⟩, ⟨7, 8⟩] medley.argvs
        (Console.call (Pipe.openMany 3) c).2).1.length = 4 := by
      obtain ⟨_, _, _, hstandard⟩ := Registry.exists_standard (σ := Console (Recorded Rehearsal))
      rw [hstandard]
      cbv
    rw [show medley.size - 1 = 3 from rfl] at hopen
    rw [hopen] at hpipes hcount
    rw [← Except.ok.inj hpipes, hturns, List.length_map] at hcount
    omega
  obtain ⟨⟨later, hlater⟩, _, _, hinput, _, hwired⟩ :=
    wired_of_reached Registry.modest_standard standing_customary medley {} [] stages hstages 3
      stages[3] (List.getElem?_eq_getElem hlast)
  refine ⟨stages, stages[3], hstages, List.getElem?_eq_getElem hlast, ?_, hwired ?_⟩
  · exact Option.isSome_iff_ne_none.mpr (hinput.not.mpr (by decide))
  · have hlawful : (Ledger.start customary).Lawful
        (stages[3].console.kernel.log ++ later) := by
      rw [hlater, log_medley]
      cbv
      simp
    exact ((Ledger.lawful_append _ _ _).mp hlawful).1

end Job

end LineShell
