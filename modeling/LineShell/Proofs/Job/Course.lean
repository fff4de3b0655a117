import LineShell.Proofs.Job.Stage

/-!
The course of a stage, by the states at which the shell's buffer matters: where it is flushed before
the streams of a builtin command are bound or a process is made, and where it is flushed again before
the shell's own streams are put back.
-/

namespace LineShell

/-- What comes of a task for which a process is to be made. -/
def Turn.ofFork : Except Errno Pid → Turn
  | .ok pid => .launched pid
  | .error e => .refused e

namespace Stage

variable {κ : Type} [Kernel κ] (stage : Stage κ) (registry : Registry (Console κ))

/-- The state in which the streams of a builtin command are bound, or the process is made. -/
def flushed : Console κ := (Console.flush stage.console).2

/-- What comes of binding the streams of a builtin command, and the state after it. -/
def bound : (Except Errno Unit × List Saved) × Console κ :=
  Console.call (Streams.bindAfter [] stage.streams.bindings) stage.flushed

/-- The state after the builtin command, if it could be run. -/
def acted : Console κ :=
  match stage.bound.1.1 with
  | .ok _ => (registry.run Console.standardOutput stage.argv stage.bound.2).2
  | .error _ => stage.bound.2

/-- The state in which the shell's own streams are put back. -/
def told : Console κ := (Console.flush (stage.acted registry)).2

/-- The state after that. -/
def restored : Console κ :=
  (Console.call (Streams.restore stage.bound.1.2) (stage.told registry)).2

/-- The stage is that of a builtin command. -/
def IsBuiltin : Prop := ∃ program ∈ stage.argv.head?, registry.isBuiltin program = true

theorem within_snd :
    (stage.streams.within (registry.run Console.standardOutput stage.argv) stage.console).2 =
      stage.restored registry := by
  rcases hbound : stage.bound with ⟨⟨answer, saved⟩, c⟩
  cases answer with
  | ok _ => simp only [Streams.within_of_bound hbound, restored, told, acted, hbound]
  | error e => simp only [Streams.within_of_unbound hbound, restored, told, acted, hbound]

/-- How a stage goes from one of these states to the next. -/
structure Course : Prop where
  /-- A stage of a builtin command ends with putting back the shell's own streams, and with a report
  if the command could not be run. -/
  builtin : stage.IsBuiltin registry → (∀ pid, (stage.turn registry).1 ≠ .launched pid) ∧
    ((stage.turn registry).2 = stage.restored registry ∨
      ∃ e, (stage.turn registry).2 = (Environment.reportError e (stage.restored registry)).2)
  /-- Any other stage is passed over with a complaint, or ends with making a process. -/
  other : ¬ stage.IsBuiltin registry →
    (∃ text, (∀ pid, (stage.turn registry).1 ≠ .launched pid) ∧
        (stage.turn registry).2 = (Environment.complain text stage.console).2) ∨
      stage.turn registry = (Turn.ofFork <$> Console.call
        (Kernel.fork ⟨stage.argv, stage.streams.bindings, stage.held⟩)) stage.flushed

variable {stage registry}

theorem turn_of_isBuiltin (h : stage.IsBuiltin registry) :
    (∀ pid, (stage.turn registry).1 ≠ .launched pid) ∧
      ((stage.turn registry).2 = stage.restored registry ∨
        ∃ e, (stage.turn registry).2 = (Environment.reportError e (stage.restored registry)).2) := by
  obtain ⟨program, hhead, hbuiltin⟩ := h
  obtain ⟨args, hargv⟩ := List.head?_eq_some_iff.mp hhead
  rw [← stage.within_snd registry]
  simp only [turn, hargv, Task.turn, hbuiltin, if_true, Task.runBuiltin, bind_apply]
  rcases stage.streams.within (registry.run Console.standardOutput (program :: args))
    stage.console with ⟨answer, c⟩
  cases answer with
  | ok status => exact ⟨by simp, .inl rfl⟩
  | error e => exact ⟨by simp, .inr ⟨.system e, rfl⟩⟩

theorem turn_of_not_isBuiltin (h : ¬ stage.IsBuiltin registry) :
    (∃ text, (∀ pid, (stage.turn registry).1 ≠ .launched pid) ∧
        (stage.turn registry).2 = (Environment.complain text stage.console).2) ∨
      stage.turn registry = (Turn.ofFork <$> Console.call
        (Kernel.fork ⟨stage.argv, stage.streams.bindings, stage.held⟩)) stage.flushed := by
  cases hargv : stage.argv with
  | nil =>
      refine .inl ⟨Task.emptyReport, ?_, ?_⟩
      · simp [turn, hargv, Task.turn]
      · simp [turn, hargv, Task.turn]
  | cons program args =>
      have hbuiltin : registry.isBuiltin program = false := by
        simpa using fun hbuiltin => h ⟨program, by simp [hargv], hbuiltin⟩
      simp only [turn, hargv, Task.turn, hbuiltin, Bool.false_eq_true, if_false, Task.launch]
      cases Task.unusable? (program :: args) with
      | some arg => exact .inl ⟨(Error.argument arg).report, by simp, rfl⟩
      | none =>
          refine .inr ?_
          simp only [bind_apply, map_apply, flushed]
          rcases Console.call (Kernel.fork ⟨program :: args, stage.streams.bindings, stage.held⟩)
            (Console.flush stage.console).2 with ⟨answer, c⟩
          cases answer <;> rfl

theorem course (stage : Stage κ) (registry : Registry (Console κ)) : stage.Course registry :=
  ⟨turn_of_isBuiltin, turn_of_not_isBuiltin⟩

end Stage

end LineShell
