import LineShell.Proofs.Job.Reference
import LineShell.Proofs.Job.Trace

/-!
The stages of a run: the tasks that are taken up, each with the state that the shell is in when its
turn comes. What a builtin command returned, before the shell made a status of it, can be told from
its stage, and so can whether anything more was taken up after it.
-/

namespace LineShell

namespace Registry

variable {σ : Type} [Environment σ]

/-- The status that the shell makes of what a command returned. -/
def verdict : Except Error Status → Status
  | .ok status => status
  | .error e => .proceed (.ofCode e.exitCode)

/-- What the command that the first argument names returns, if there is one. -/
def answer (r : Registry σ) (sink : Sink σ) :
    List String → StateM σ (Option (Except Error Status))
  | [] => return none
  | name :: args =>
      match r.find? name with
      | none => return none
      | some command => do
          return some (← command.body
            { topics := r.topics, argv := name :: args, sink := sink, onward := r.run sink args })

theorem conclude_fst (result : Except Error Status) (s : σ) :
    (conclude result s).1 = verdict result := by
  cases result <;> rfl

theorem run_fst (r : Registry σ) (sink : Sink σ) (argv : List String) (s : σ) :
    (r.run sink argv s).1 = (r.answer sink argv s).1.map verdict := by
  cases argv with
  | nil => rfl
  | cons name args =>
      simp only [run, answer]
      cases r.find? name with
      | none => rfl
      | some command => simp [conclude_fst]

theorem answer_isSome {r : Registry σ} {program : String} (h : r.isBuiltin program = true)
    (sink : Sink σ) (args : List String) (s : σ) :
    (r.answer sink (program :: args) s).1.isSome = true := by
  obtain ⟨command, hfind⟩ := Option.isSome_iff_exists.mp h
  simp [answer, hfind]

theorem answer_eq_none {r : Registry σ} {argv : List String}
    (h : ∀ program ∈ argv.head?, r.isBuiltin program = false) (sink : Sink σ) (s : σ) :
    (r.answer sink argv s).1 = none := by
  cases argv with
  | nil => rfl
  | cons program args =>
      have hfind : r.find? program = none := by simpa [isBuiltin] using h program rfl
      simp [answer, hfind]

theorem verdict_eq_terminate_iff {result : Except Error Status} {exit : ExitStatus} :
    verdict result = .terminate exit ↔ result = .ok (.terminate exit) := by
  cases result <;> simp [verdict]

/-- An error becomes an exit code, its own if the command gave it one, and never ends the shell. -/
theorem verdict_error (e : Error) :
    ∃ exit, verdict (.error e) = .proceed exit ∧
      exit.code? = some (match e with | .command _ code => code % 256 | _ => 1) := by
  refine ⟨.ofCode e.exitCode, rfl, ?_⟩
  rw [ExitStatus.code?_ofCode]
  cases e <;> rfl

end Registry

/-- A task as its turn comes. -/
structure Stage (κ : Type) where
  streams : Streams
  /-- The ends of pipes that the shell holds. -/
  held : List Descriptor
  argv : List String
  console : Console κ

namespace Streams

variable {κ α β : Type} [Kernel κ] {streams : Streams}

/-- The streams of a task are bound or not before it is seen what is run with them. -/
theorem within_fst_congr {first : StateM (Console κ) α} {second : StateM (Console κ) β} {f : β → α}
    (h : ∀ c, (first c).1 = f (second c).1) (c : Console κ) :
    (streams.within first c).1 = (streams.within second c).1.map f := by
  rcases hbound : Console.call (bindAfter [] streams.bindings) (Console.flush c).2 with
    ⟨⟨bound, saved⟩, c'⟩
  cases bound with
  | ok _ =>
      rw [within_of_bound hbound, within_of_bound hbound, h]
      rfl
  | error e =>
      rw [within_of_unbound hbound, within_of_unbound hbound]
      rfl

end Streams

namespace Stage

variable {κ : Type} [Kernel κ] (registry : Registry (Console κ)) (stage : Stage κ)

def turn : Turn × Console κ :=
  Task.turn registry stage.streams stage.held stage.argv stage.console

/-- What the builtin command of the stage returns, if one is run. -/
def answer : Option (Except Error Status) :=
  match (stage.streams.within (registry.answer Console.standardOutput stage.argv)
    stage.console).1 with
  | .ok answer => answer
  | .error _ => none

/-- Nothing more is taken up after the stage: its command asked the shell to end, or it could not be
given a process. -/
def Halts : Prop :=
  (∃ exit, stage.answer registry = some (.ok (.terminate exit))) ∨
    ∃ e, (stage.turn registry).1 = .refused e

/-- The state once the ends that the task used are given up. -/
def done : Console κ :=
  (Console.call (Pipe.closeAll stage.streams.ends) (stage.turn registry).2).2

/-- The stage of the first of some tasks, by its input and the pipes left. -/
def first (input : Option Descriptor) (pipes : List Pipe) (argv : List String) (c : Console κ) :
    Stage κ :=
  ⟨.first input pipes, Pipe.endsFrom input pipes, argv, c⟩

variable {registry stage}

theorem answer_eq_none (h : ∀ c, (registry.answer Console.standardOutput stage.argv c).1 = none) :
    stage.answer registry = none := by
  rw [answer]
  cases hresult : (stage.streams.within (registry.answer Console.standardOutput stage.argv)
      stage.console).1 with
  | error e => rfl
  | ok answer =>
      obtain ⟨c, rfl⟩ := Streams.result_of_within hresult
      exact h c

/-- The turn of a stage whose command was run, or could not be run, is known from its answer. -/
theorem turn_fst_of_isBuiltin {program : String} {args : List String}
    (hargv : stage.argv = program :: args) (h : registry.isBuiltin program = true) :
    (∃ result, stage.answer registry = some result ∧
      (stage.turn registry).1 = .command (Registry.verdict result)) ∨
    ∃ e, stage.answer registry = none ∧ (stage.turn registry).1 = .unbound e := by
  have hwithin : (stage.streams.within
      (registry.run Console.standardOutput (program :: args)) stage.console).1 = _ :=
    Streams.within_fst_congr (registry.run_fst Console.standardOutput (program :: args)) _
  simp only [turn, answer, hargv, Task.turn, h, if_true, Task.runBuiltin, bind_apply, hwithin]
  cases hresult : (stage.streams.within
      (registry.answer Console.standardOutput (program :: args)) stage.console).1 with
  | error e => exact .inr ⟨e, rfl, rfl⟩
  | ok answer =>
      obtain ⟨c, rfl⟩ := Streams.result_of_within hresult
      obtain ⟨result, hsome⟩ := Option.isSome_iff_exists.mp (Registry.answer_isSome h _ args c)
      exact .inl ⟨result, hsome, by rw [hsome]; rfl⟩

theorem turn_fst_ne_command (h : ∀ program ∈ stage.argv.head?, registry.isBuiltin program = false)
    (status : Status) : (stage.turn registry).1 ≠ .command status := by
  intro hturn
  have hfits : Turn.Fits registry stage.argv (stage.turn registry).1 := Task.turn_fits ..
  rw [hturn] at hfits
  generalize hargv : stage.argv = argv at hfits
  cases hfits with
  | command hbuiltin =>
      rw [h _ (by rw [hargv]; rfl)] at hbuiltin
      cases hbuiltin

/-- The turn of a command that was run is known from what the command returned. -/
theorem turn_fst_eq_command_iff {status : Status} :
    (stage.turn registry).1 = .command status ↔
      ∃ result, stage.answer registry = some result ∧ Registry.verdict result = status := by
  by_cases h : ∀ program ∈ stage.argv.head?, registry.isBuiltin program = false
  · have hnone : stage.answer registry = none := answer_eq_none (registry.answer_eq_none h _)
    simp [turn_fst_ne_command h, hnone]
  · obtain ⟨program, h⟩ := Classical.not_forall.mp h
    obtain ⟨hhead, hbuiltin⟩ := Classical.not_imp.mp h
    obtain ⟨args, hargv⟩ := List.head?_eq_some_iff.mp hhead
    rcases turn_fst_of_isBuiltin hargv (by simpa using hbuiltin) with
      ⟨result, hsome, hturn⟩ | ⟨e, hnone, hturn⟩
    · simp [hturn, hsome]
    · simp [hturn, hnone]

theorem halts_iff : stage.Halts registry ↔ (stage.turn registry).1.isLast = true := by
  constructor
  · rintro (⟨exit, hexit⟩ | ⟨e, he⟩)
    · rw [turn_fst_eq_command_iff.mpr ⟨_, hexit, rfl⟩]
      rfl
    · rw [he]
      rfl
  · intro h
    rcases Turn.eq_of_isLast h with he | ⟨exit, hexit⟩
    · exact .inr he
    · obtain ⟨result, hanswer, hverdict⟩ := turn_fst_eq_command_iff.mp hexit
      cases result with
      | error e => cases hverdict
      | ok status => exact .inl ⟨exit, hverdict ▸ hanswer⟩

/-- A command that fails, however it does, stops nothing. -/
theorem not_halts_of_error {e : Error} (h : stage.answer registry = some (.error e)) :
    ¬ stage.Halts registry := by
  rw [halts_iff, turn_fst_eq_command_iff.mpr ⟨_, h, rfl⟩]
  simp [Registry.verdict, Turn.isLast]

end Stage

/-! ### The stages of a job -/

namespace Turn

variable {κ : Type} [Kernel κ] {registry : Registry (Console κ)}

/-- After a turn that is not the last the next task is taken up. -/
theorem Sequence.getElem?_succ {argvs : List (List String)} {turns : List Turn}
    (h : Sequence registry argvs turns) {k : Nat} {turn : Turn} (hk : turns[k]? = some turn)
    (hlast : turn.isLast = false) (hlt : k + 1 < argvs.length) : k + 1 < turns.length := by
  induction h generalizing k with
  | nil => simp at hk
  | last _ hlast' =>
      cases k with
      | zero =>
          obtain rfl := Option.some.inj hk
          simp [hlast'] at hlast
      | succ k => simp at hk
  | @cons argv rest turn' turns' _ _ hlater ih =>
      cases k with
      | zero =>
          cases hlater with
          | nil => simp at hlt
          | last => simp
          | cons => simp
      | succ k =>
          have := ih hk (by simpa using hlt)
          simpa using this

theorem Sequence.outcome_eq_error_iff {argvs : List (List String)} {turns : List Turn}
    (h : Sequence registry argvs turns) {e : Error} :
    outcome turns = .error e ↔ ∃ errno, e = .fork errno ∧ .refused errno ∈ turns := by
  induction h with
  | nil => simp [outcome]
  | last _ hlast =>
      rcases eq_of_isLast hlast with ⟨errno, rfl⟩ | ⟨exit, rfl⟩
      · simp [outcome, eq_comm]
      · simp [outcome]
  | @cons argv rest turn turns _ hlast _ ih =>
      rw [outcome_cons hlast, ih]
      have hne : ∀ errno, .refused errno ≠ turn := by
        rintro errno rfl
        simp [isLast] at hlast
      simp [hne]

theorem Sequence.outcome_eq_terminate_iff {argvs : List (List String)} {turns : List Turn}
    (h : Sequence registry argvs turns) {exit : ExitStatus} :
    outcome turns = .ok (some (.terminate exit)) ↔ .command (.terminate exit) ∈ turns := by
  induction h with
  | nil => simp [outcome]
  | last _ hlast =>
      rcases eq_of_isLast hlast with ⟨errno, rfl⟩ | ⟨exit, rfl⟩
      · simp [outcome]
      · simp [outcome, eq_comm]
  | @cons argv rest turn turns _ hlast _ ih =>
      have hne : .command (.terminate exit) ≠ turn := by
        rintro rfl
        simp [isLast] at hlast
      rw [outcome_cons hlast, ih]
      simp [hne]

end Turn

namespace Job

variable {κ : Type} [Kernel κ] (registry : Registry (Console κ))

/-- The stages of tasks with these arguments. -/
def stages (input : Option Descriptor) (pipes : List Pipe) :
    List (List String) → Console κ → List (Stage κ)
  | [], _ => []
  | argv :: rest, c =>
      let stage := Stage.first input pipes argv c
      stage :: if (stage.turn registry).1.isLast then []
        else stages (pipes.head?.map Pipe.reader) pipes.tail rest (stage.done registry)

theorem mem_stages_pair {registry : Registry (Console κ)} {pipe : Pipe} {argv argv' : List String}
    {c : Console κ} {stage : Stage κ} (h : stage ∈ stages registry none [pipe] [argv, argv'] c) :
    stage = Stage.first none [pipe] argv c ∨
      stage = Stage.first (some pipe.reader) [] argv'
        ((Stage.first none [pipe] argv c).done registry) := by
  rw [stages, List.mem_cons, List.mem_ite_nil_left, stages, stages, ite_self,
    List.mem_singleton] at h
  exact h.imp_right And.right

theorem turns_cons (input : Option Descriptor) (pipes : List Pipe) (argv : List String)
    (rest : List (List String)) (c : Console κ) :
    let stage := Stage.first input pipes argv c
    turns registry input pipes (argv :: rest) c =
      if (stage.turn registry).1.isLast then
        ([(stage.turn registry).1],
          (Console.call (Pipe.closeAll (Pipe.left pipes)) (stage.done registry)).2)
      else
        let later := turns registry (pipes.head?.map Pipe.reader) pipes.tail rest
          (stage.done registry)
        ((stage.turn registry).1 :: later.1, later.2) := by
  intro stage
  simp only [turns, bind_apply]
  change (if (stage.turn registry).1.isLast then _ else _ : StateM (Console κ) (List Turn))
    (stage.done registry) = _
  split
  · rfl
  · rfl

theorem turns_fst (input : Option Descriptor) (pipes : List Pipe) (argvs : List (List String))
    (c : Console κ) :
    (turns registry input pipes argvs c).1 =
      (stages registry input pipes argvs c).map fun stage => (stage.turn registry).1 := by
  induction argvs generalizing input pipes c with
  | nil => rfl
  | cons argv rest ih =>
      rw [turns_cons, stages]
      split
      · rfl
      · simp [ih]

/-- The stages are those of the first tasks. -/
theorem map_argv_stages (input : Option Descriptor) (pipes : List Pipe)
    (argvs : List (List String)) (c : Console κ) :
    (stages registry input pipes argvs c).map Stage.argv <+: argvs := by
  induction argvs generalizing input pipes c with
  | nil => exact List.nil_prefix
  | cons argv rest ih =>
      rw [stages, List.map_cons]
      refine List.cons_prefix_cons.mpr ⟨rfl, ?_⟩
      split
      · exact List.nil_prefix
      · exact ih ..

/-- The stages of a job, or why its pipes could not be made. -/
def reached (job : Job) (c : Console κ) : Except Errno (List (Stage κ)) :=
  match Console.call (Pipe.openMany (job.size - 1)) c with
  | (.error e, _) => .error e
  | (.ok pipes, c) => .ok (stages registry none pipes job.argvs c)

variable {registry}

/-- A job whose pipes could not be made is given up before any of its tasks is taken up. -/
theorem execute_of_reached_error {job : Job} {c : Console κ} {e : Errno}
    (h : job.reached registry c = .error e) :
    job.execute registry c =
      ((.error (.pipe e), job), (Console.call (Pipe.openMany (job.size - 1)) c).2) := by
  rcases hopen : Console.call (Pipe.openMany (job.size - 1)) c with ⟨answer, c'⟩
  simp only [reached, hopen] at h
  cases answer with
  | ok pipes => cases h
  | error e' =>
      obtain rfl : e' = e := Except.error.inj h
      exact execute_of_unopened hopen

section Reached

variable {job : Job} {c : Console κ} {stages : List (Stage κ)}
  (h : job.reached registry c = .ok stages)

include h

theorem exists_opened_of_reached : ∃ pipes c',
    Console.call (Pipe.openMany (job.size - 1)) c = (.ok pipes, c') ∧
      stages = Job.stages registry none pipes job.argvs c' := by
  rcases hopen : Console.call (Pipe.openMany (job.size - 1)) c with ⟨answer, c'⟩
  simp only [reached, hopen] at h
  cases answer with
  | error e => cases h
  | ok pipes => exact ⟨pipes, c', rfl, (Except.ok.inj h).symm⟩

theorem exists_pipes_of_reached : ∃ pipes c',
    Console.call (Pipe.openMany (job.size - 1)) c = (.ok pipes, c') ∧
      (turns registry none pipes job.argvs c').1 = stages.map fun stage => (stage.turn registry).1 := by
  obtain ⟨pipes, c', hopen, rfl⟩ := exists_opened_of_reached h
  exact ⟨pipes, c', hopen, turns_fst ..⟩

theorem map_argv_of_reached : stages.map Stage.argv <+: job.argvs := by
  obtain ⟨pipes, c', _, rfl⟩ := exists_opened_of_reached h
  exact map_argv_stages ..

theorem sequence_of_reached :
    Turn.Sequence registry job.argvs (stages.map fun stage => (stage.turn registry).1) := by
  obtain ⟨pipes, c', _, hturns⟩ := exists_pipes_of_reached h
  exact hturns ▸ turns_sequence registry none pipes job.argvs c'

theorem execute_fst_of_reached : ∃ exit,
    (job.execute registry c).1.1 =
      (Turn.outcome (stages.map fun stage => (stage.turn registry).1)).map
        fun stop => stop.getD (.proceed exit) := by
  obtain ⟨pipes, c', hopen, hturns⟩ := exists_pipes_of_reached h
  simp only [execute_of_opened hopen, hturns]
  cases Turn.outcome (stages.map fun stage => (stage.turn registry).1) with
  | error e => exact ⟨.success, rfl⟩
  | ok stop => exact ⟨_, rfl⟩

/-- Of a job whose pipes could be made, only a process that cannot be made is an error. -/
theorem execute_fst_eq_error_iff {e : Error} :
    (job.execute registry c).1.1 = .error e ↔
      ∃ errno, e = .fork errno ∧ ∃ stage ∈ stages, (stage.turn registry).1 = .refused errno := by
  obtain ⟨exit, hresult⟩ := execute_fst_of_reached h
  have hmem (errno : Errno) : .refused errno ∈ stages.map (fun stage => (stage.turn registry).1) ↔
      ∃ stage ∈ stages, (stage.turn registry).1 = .refused errno := List.mem_map
  simp only [← hmem, ← (sequence_of_reached h).outcome_eq_error_iff, hresult]
  cases Turn.outcome (stages.map fun stage => (stage.turn registry).1) <;> simp [Except.map]

/-- A job ends the shell just if a command of it asks for that, and with the status that it gives. -/
theorem execute_fst_eq_terminate_iff {exit : ExitStatus} :
    (job.execute registry c).1.1 = .ok (.terminate exit) ↔
      ∃ stage ∈ stages, stage.answer registry = some (.ok (.terminate exit)) := by
  obtain ⟨exit', hresult⟩ := execute_fst_of_reached h
  have hmem : .command (.terminate exit) ∈ stages.map (fun stage => (stage.turn registry).1) ↔
      ∃ stage ∈ stages, stage.answer registry = some (.ok (.terminate exit)) := by
    simp only [List.mem_map, Stage.turn_fst_eq_command_iff, Registry.verdict_eq_terminate_iff,
      exists_eq_right]
  rw [← hmem, ← (sequence_of_reached h).outcome_eq_terminate_iff, hresult]
  cases Turn.outcome (stages.map fun stage => (stage.turn registry).1) with
  | error e => simp [Except.map]
  | ok stop => cases stop <;> simp [Except.map]

/-- After a stage that does not halt the next task is taken up. -/
theorem getElem?_succ_of_reached {k : Nat} {stage : Stage κ} (hk : stages[k]? = some stage)
    (hhalts : ¬ stage.Halts registry) (hlt : k + 1 < job.size) : k + 1 < stages.length := by
  have hlast : (stage.turn registry).1.isLast = false := by simpa [Stage.halts_iff] using hhalts
  have hturn : (stages.map fun stage => (stage.turn registry).1)[k]? = some (stage.turn registry).1 := by
    simp [hk]
  simpa using (sequence_of_reached h).getElem?_succ hturn hlast (by simpa [argvs, size] using hlt)

end Reached

end Job

end LineShell
