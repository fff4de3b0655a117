import LineShell.Builtin.Scripted
import LineShell.Proofs.Job.Processes
import LineShell.Proofs.Rehearsal

/-!
Which command a name stands for. It is the first that is listed under the name, whatever is listed
after it. A run of arguments runs that one command or, if nothing is listed under the name, does
nothing at all; and the executor runs a task within the shell just if a run would find a command for
it, so that no program is ever launched under the name of a command.
-/

namespace LineShell

namespace Registry

variable {σ : Type} (r : Registry σ)

/-- Some command is listed under the name that comes first. -/
def Knows (argv : List String) : Prop := ∃ c ∈ r.commands, argv.head? = some c.name

/-- Of all commands that are listed under the name, this is the first. -/
def IsFirst (name : String) (c : Command σ) : Prop :=
  ∃ before after, r.commands = before ++ c :: after ∧ c.name = name ∧
    ∀ other ∈ before, other.name ≠ name

/-- Lists more commands, one after another. -/
def addAll (later : List (Command σ)) : Registry σ := later.foldl add r

variable {r}

theorem commands_addAll (later : List (Command σ)) :
    (r.addAll later).commands = r.commands ++ later := by
  induction later generalizing r with
  | nil => exact (List.append_nil _).symm
  | cons c rest ih =>
      calc ((r.add c).addAll rest).commands
          = (r.commands ++ [c]) ++ rest := ih
        _ = r.commands ++ c :: rest := by simp

theorem IsFirst.addAll {name : String} {c : Command σ} (h : r.IsFirst name c)
    (later : List (Command σ)) : (r.addAll later).IsFirst name c := by
  obtain ⟨before, after, hcommands, hname, hbefore⟩ := h
  exact ⟨before, after ++ later, by rw [commands_addAll, hcommands]; simp, hname, hbefore⟩

theorem find?_eq_some_iff {name : String} {c : Command σ} :
    r.find? name = some c ↔ r.IsFirst name c := by
  rw [find?, List.find?_eq_some_iff_append]
  constructor
  · rintro ⟨hname, before, after, hcommands, hbefore⟩
    exact ⟨before, after, hcommands, by simpa using hname, by simpa using hbefore⟩
  · rintro ⟨before, after, hcommands, hname, hbefore⟩
    exact ⟨by simpa using hname, before, after, hcommands, by simpa using hbefore⟩

theorem isBuiltin_iff {name : String} {args : List String} :
    r.isBuiltin name = true ↔ r.Knows (name :: args) := by
  simp only [isBuiltin, find?, List.find?_isSome, Knows, decide_eq_true_eq, List.head?_cons,
    Option.some.injEq]
  exact exists_congr fun c => and_congr_right fun _ => eq_comm

theorem find?_eq_none_iff {name : String} {args : List String} :
    r.find? name = none ↔ ¬ r.Knows (name :: args) := by
  rw [← isBuiltin_iff, isBuiltin, Option.not_isSome_iff_eq_none]

theorem Knows.exists_isFirst {argv : List String} (h : r.Knows argv) :
    ∃ name args c, argv = name :: args ∧ r.IsFirst name c := by
  cases argv with
  | nil =>
      obtain ⟨c, _, hhead⟩ := h
      simp at hhead
  | cons name args =>
      obtain ⟨c, hfind⟩ := Option.isSome_iff_exists.mp (isBuiltin_iff.mpr h)
      exact ⟨name, args, c, rfl, find?_eq_some_iff.mp hfind⟩

variable [Environment σ]

theorem run_of_isFirst {name : String} {c : Command σ} (h : r.IsFirst name c) (sink : Sink σ)
    (args : List String) :
    r.run sink (name :: args) = do
      let result ← c.body ⟨r.topics, name :: args, sink, r.run sink args⟩
      let _ ← sink.flush
      return some (← conclude result) := by
  rw [run, find?_eq_some_iff.mpr h]

theorem run_of_not_knows {argv : List String} (h : ¬ r.Knows argv) (sink : Sink σ) :
    r.run sink argv = pure none := by
  cases argv with
  | nil => rfl
  | cons name args => rw [run, find?_eq_none_iff.mpr h]

theorem isSome_run_iff (sink : Sink σ) (argv : List String) (s : σ) :
    (r.run sink argv s).1.isSome = true ↔ r.Knows argv := by
  by_cases h : r.Knows argv
  · obtain ⟨name, args, c, rfl, hfirst⟩ := h.exists_isFirst
    simp [h, run_of_isFirst hfirst]
  · simp [h, run_of_not_knows h]

end Registry

/-! ### Tasks -/

namespace Turn

/-- The turn is that of a builtin command, whether or not its streams could be bound. -/
def IsInside (turn : Turn) : Prop :=
  (∃ status, turn = command status) ∨ ∃ e, turn = unbound e

variable {κ : Type} [Kernel κ] {registry : Registry (Console κ)} {argv : List String} {turn : Turn}

theorem Fits.isInside_iff (h : Fits registry argv turn) :
    turn.IsInside ↔ registry.Knows argv := by
  cases h with
  | empty => simp [IsInside, Registry.Knows]
  | command hbuiltin => exact iff_of_true (.inl ⟨_, rfl⟩) (Registry.isBuiltin_iff.mp hbuiltin)
  | unbound hbuiltin => exact iff_of_true (.inr ⟨_, rfl⟩) (Registry.isBuiltin_iff.mp hbuiltin)
  | unusable hbuiltin | launched hbuiltin | refused hbuiltin =>
      refine iff_of_false (by simp [IsInside]) fun h => ?_
      rw [Registry.isBuiltin_iff.mpr h] at hbuiltin
      cases hbuiltin

end Turn

namespace Task

variable {κ : Type} [Kernel κ] {registry : Registry (Console κ)}

theorem turn_of_knows {argv : List String} (h : registry.Knows argv) (streams : Streams)
    (held : List Descriptor) :
    turn registry streams held argv = runBuiltin registry streams argv := by
  obtain ⟨name, args, c, rfl, _⟩ := h.exists_isFirst
  rw [turn, if_pos (Registry.isBuiltin_iff.mpr h)]

/-- A task that names no command has its turn as if there were none. -/
theorem turn_of_not_knows {argv : List String} (h : ¬ registry.Knows argv) (streams : Streams)
    (held : List Descriptor) : turn registry streams held argv = turn {} streams held argv := by
  cases argv with
  | nil => rfl
  | cons program args =>
      have hbuiltin : ¬ registry.isBuiltin program = true := mt Registry.isBuiltin_iff.mp h
      rw [turn, if_neg hbuiltin]
      rfl

end Task

namespace Job

variable {κ : Type} [Kernel κ] {registry : Registry (Console (Recorded κ))}

end Job

namespace Registry

variable {κ : Type} [Kernel κ]

/-- The executor takes a task for a builtin command just if a run finds one for it. -/
structure Routes (r : Registry (Console κ)) : Prop where
  /-- The test agrees with what a run finds. -/
  test (name : String) (args : List String) (sink : Sink (Console κ)) (c : Console κ) :
    r.isBuiltin name = (r.run sink (name :: args) c).1.isSome
  /-- The turn of a task is one within the shell just if a run of its arguments finds a command. -/
  inside (streams : Streams) (held : List Descriptor) (argv : List String) (c : Console κ)
    (sink : Sink (Console κ)) (c' : Console κ) :
    (Task.turn r streams held argv c).1.IsInside ↔ (r.run sink argv c').1.isSome = true
  /-- If it finds one, then the task is run within the shell, and nothing else comes of it. -/
  runs (streams : Streams) (held : List Descriptor) (task : Task) (sink : Sink (Console κ))
    (c : Console κ) : (r.run sink task.argv c).1.isSome = true →
      Task.run r streams held task = do
        let turn ← Task.runBuiltin r streams task.argv
        return (turn.result, turn.mark task)
  /-- Within the shell a command is always found, so nothing has to be put for its status. -/
  found (streams : Streams) (argv : List String) (sink : Sink (Console κ)) (c c' : Console κ) :
    (r.run sink argv c').1.isSome = true →
      let outcome := (streams.within (r.run Console.standardOutput argv) c).1
      let turn := (Task.runBuiltin r streams argv c).1
      (∃ status, outcome = .ok (some status) ∧ turn = .command status) ∨
        ∃ e, outcome = .error e ∧ turn = .unbound e
  /-- No command has a part in any other task: it is run as if there were none. -/
  outside (streams : Streams) (held : List Descriptor) (task : Task) (sink : Sink (Console κ))
    (c : Console κ) : (r.run sink task.argv c).1 = none →
      Task.run r streams held task = Task.run {} streams held task
  /-- A task that names a command comes to a status at once, and is given no process. -/
  settled (streams : Streams) (held : List Descriptor) (task : Task) (c : Console κ) :
    r.Knows task.argv → ∃ status, (Task.run r streams held task c).1 =
      (.ok (some status), task.withStatus status.exit)

theorem routes (r : Registry (Console κ)) : r.Routes where
  test name args sink c := by rw [Bool.eq_iff_iff, isBuiltin_iff, isSome_run_iff]
  inside streams held argv c sink c' := by
    rw [(Task.turn_fits r streams held argv c).isInside_iff, isSome_run_iff]
  runs streams held task sink c h := by
    have hknows := (isSome_run_iff sink task.argv c).mp h
    rw [Task.run, Task.turn_of_knows hknows]
  found streams argv sink c c' h := by
    have hknows := (isSome_run_iff sink argv c').mp h
    obtain ⟨program, args, _, rfl, _⟩ := hknows.exists_isFirst
    exact Task.runBuiltin_fst (isBuiltin_iff.mpr hknows) streams args c
  outside streams held task sink c h := by
    have hnot : ¬ r.Knows task.argv := mt (isSome_run_iff sink task.argv c).mpr (by simp [h])
    rw [Task.run, Task.run, Task.turn_of_not_knows hnot]
  settled streams held task c h := by
    have hinside := (Task.turn_fits r streams held task.argv c).isInside_iff.mpr h
    simp only [Task.run, bind_apply, pure_apply]
    rcases hinside with ⟨status, hturn⟩ | ⟨e, hturn⟩
    · exact ⟨status, by rw [hturn]; rfl⟩
    · exact ⟨.failure, by rw [hturn]; rfl⟩

end Registry

end LineShell
