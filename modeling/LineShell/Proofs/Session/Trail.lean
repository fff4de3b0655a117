import LineShell.Proofs.Job.Moves
import LineShell.Proofs.Session.Delivered

/-!
The states of a shell, from stage to stage. What the shell does between two stages, to make pipes, to
give them up, to wait and to report, changes neither its directory nor its variables, and it leaves
the buffer as it is.
-/

namespace LineShell

variable {κ δ ρ : Type} [Kernel κ]

/-- Nothing has been done from the one state to the other that the shell would find about itself. -/
structure Idle (view : κ → Surroundings δ ρ) (c c' : Console (Recorded κ)) : Prop where
  stays : Stays (ownAround view) c c'
  buffered : c'.buffered = c.buffered

namespace Idle

variable {view : κ → Surroundings δ ρ} {c c' c'' : Console (Recorded κ)}

omit [Kernel κ] in
theorem refl (c : Console (Recorded κ)) : Idle view c c := ⟨.refl _ c, rfl⟩

omit [Kernel κ] in
theorem trans (h : Idle view c c') (h' : Idle view c' c'') : Idle view c c'' :=
  ⟨h.stays.trans h'.stays, h'.buffered.trans h.buffered⟩

omit [Kernel κ] in
theorem call {α : Type} {m : StateM (Recorded κ) α}
    (h : Leaves (ownAround view) (Console.call m)) (c : Console (Recorded κ)) :
    Idle view c (Console.call m c).2 :=
  ⟨h c, rfl⟩

end Idle

/-- A way through stages, from one state to another. -/
inductive Trail (view : κ → Surroundings δ ρ) (registry : Registry (Console (Recorded κ))) :
    List (Stage (Recorded κ)) → Console (Recorded κ) → Console (Recorded κ) → Prop
  | nil {c c' : Console (Recorded κ)} : Idle view c c' → Trail view registry [] c c'
  | cons {c c' : Console (Recorded κ)} {stage : Stage (Recorded κ)}
      {rest : List (Stage (Recorded κ))} : Idle view c stage.console →
      Trail view registry rest (stage.turn registry).2 c' →
      Trail view registry (stage :: rest) c c'

namespace Trail

variable {view : κ → Surroundings δ ρ} {registry : Registry (Console (Recorded κ))}
  {c c' c'' : Console (Recorded κ)} {stages later : List (Stage (Recorded κ))}

theorem before (h : Idle view c c') (htrail : Trail view registry stages c' c'') :
    Trail view registry stages c c'' := by
  cases htrail with
  | nil hidle => exact .nil (h.trans hidle)
  | cons hidle hrest => exact .cons (h.trans hidle) hrest

theorem append (h : Trail view registry stages c c') (h' : Trail view registry later c' c'') :
    Trail view registry (stages ++ later) c c'' := by
  induction h with
  | nil hidle => exact h'.before hidle
  | cons hidle _ ih => exact .cons hidle (ih h')

theorem after (h : Trail view registry stages c c') (hidle : Idle view c' c'') :
    Trail view registry stages c c'' := by
  have hall := h.append (.nil hidle)
  rwa [List.append_nil] at hall

theorem exists_of_append (h : Trail view registry (stages ++ later) c c'') :
    ∃ c', Trail view registry stages c c' ∧ Trail view registry later c' c'' := by
  induction stages generalizing c with
  | nil => exact ⟨c, .nil (.refl c), h⟩
  | cons stage rest ih =>
      cases h with
      | cons hidle hrest =>
          obtain ⟨c', hstages, hlater⟩ := ih hrest
          exact ⟨c', .cons hidle hstages, hlater⟩

theorem log {commands : List Spoken} (h : Trail view (Spoken.registry commands) stages c c') :
    c.kernel.log <+: c'.kernel.log := by
  induction h with
  | nil hidle => exact hidle.stays.log
  | cons hidle _ ih => exact hidle.stays.log.trans ((Stage.log_turn _ commands).trans ih)

/-- Where every write succeeds nothing is left in the buffer from one stage to the next. -/
theorem buffered {commands : List Spoken} (h : Trail view (Spoken.registry commands) stages c c')
    (hwhole : ∀ e ∈ c'.kernel.log, e.IsWhole) (hempty : c.buffered = []) : c'.buffered = [] := by
  induction h with
  | nil hidle => exact hidle.buffered.trans hempty
  | cons hidle hrest ih =>
      refine ih hwhole (Stage.output_eq_said (fun e he => ?_) (hidle.buffered.trans hempty)).2
      exact hwhole e (hrest.log.subset he)

end Trail

section Sheltered

variable {view : κ → Surroundings δ ρ} (h : Sheltered view)

include h

theorem Sheltered.idle_closeAll (ds : List Descriptor) (c : Console (Recorded κ)) :
    Idle view c (Console.call (Pipe.closeAll ds) c).2 :=
  .call ((h.leaves_closeAll ds).map Surroundings.own) c

theorem Job.trail_turns (registry : Registry (Console (Recorded κ))) (input : Option Descriptor)
    (pipes : List Pipe) (argvs : List (List String)) (c : Console (Recorded κ)) :
    Trail view registry (stages registry input pipes argvs c) c
      (turns registry input pipes argvs c).2 := by
  induction argvs generalizing input pipes c with
  | nil => exact .nil (h.idle_closeAll _ c)
  | cons argv rest ih =>
      have hdone := h.idle_closeAll (Stage.first input pipes argv c).streams.ends
        ((Stage.first input pipes argv c).turn registry).2
      simp only [turns_cons, stages]
      cases ((Stage.first input pipes argv c).turn registry).1.isLast with
      | true => exact .cons (.refl c) (.nil (hdone.trans (h.idle_closeAll _ _)))
      | false => exact .cons (.refl c) ((ih _ _ _).before hdone)

theorem Job.trail_execute (registry : Registry (Console (Recorded κ))) (job : Job)
    (c : Console (Recorded κ)) :
    Trail view registry (job.stagesOf registry c) c (job.execute registry c).2 := by
  have hopened : Idle view c (Console.call (Pipe.openMany (job.size - 1)) c).2 :=
    .call ((h.leaves_openMany _).map Surroundings.own) c
  rcases hopen : Console.call (Pipe.openMany (job.size - 1)) c with ⟨answer, c₁⟩
  rw [hopen] at hopened
  cases answer with
  | error e =>
      simp only [stagesOf, reached, hopen, execute_of_unopened hopen]
      exact .nil hopened
  | ok pipes =>
      have hturns := (trail_turns h registry none pipes job.argvs c₁).before hopened
      simp only [stagesOf, reached, hopen, execute_of_opened hopen]
      cases Turn.outcome (turns registry none pipes job.argvs c₁).1 with
      | error e => exact hturns
      | ok terminated => exact hturns.after (.call (h.leaves_reap _) _)

theorem Session.trail_executeJobs (commands : List Spoken) (jobs : List Job) (last : ExitStatus)
    (status : Status) (c : Console (Recorded κ)) :
    Trail view (Spoken.registry commands) (stages commands jobs c) c
      (executeJobs (executor commands) last status jobs c).2 := by
  induction jobs generalizing last status c with
  | nil => exact .nil (.refl c)
  | cons job rest ih =>
      have hjob := Job.trail_execute h (Spoken.registry commands) job c
      have hexecute : executor commands job c =
          ((job.execute (Spoken.registry commands) c).1.1,
            (job.execute (Spoken.registry commands) c).2) := rfl
      simp only [executeJobs, bind_apply, stages_cons, passed, hexecute]
      generalize job.execute (Spoken.registry commands) c = executed at hjob
      cases executed.1.1 with
      | ok status =>
          cases status with
          | proceed exit => exact hjob.append (ih _ _ _)
          | terminate exit =>
              rw [Option.elim_none, List.append_nil]
              exact hjob
      | error e =>
          cases e with
          | pipe errno =>
              have hreport : Idle view executed.2
                  (Environment.reportError (.pipe errno) executed.2).2 :=
                .call ((h.leaves_complain _).map Surroundings.own) _
              exact hjob.append ((ih _ _ _).before hreport)
          | _ =>
              rw [Option.elim_none, List.append_nil]
              exact hjob

end Sheltered

end LineShell
