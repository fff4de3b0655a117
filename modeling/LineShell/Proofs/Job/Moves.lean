import LineShell.Proofs.Builtin.Returned
import LineShell.Proofs.Job.Delivered

/-!
Which stages change the directory of the shell or its variables: those of `cd`, where it succeeds. The
streams of a stage make no difference to that, and what is done for any other stage changes neither.
-/

namespace LineShell

theorem written_of_isWiring {events : List Event} (h : ∀ e ∈ events, e.IsWiring) :
    written events = [] := by
  refine List.flatMap_eq_nil_iff.mpr fun e he => ?_
  have := h e he
  cases e with
  | wrote => exact this.elim
  | _ => rfl

namespace Stage

variable {κ δ ρ : Type} [Kernel κ] {naming : Naming δ ρ} {view : κ → Surroundings δ ρ}
  {registry : Registry (Console (Recorded κ))} {stage : Stage (Recorded κ)}

variable (registry stage) in
/-- What the command of the stage is given. -/
def call : Invocation (Console (Recorded κ)) where
  topics := registry.topics
  argv := stage.argv
  sink := Console.standardOutput
  onward := registry.run Console.standardOutput stage.argv.tail

section Sheltered

variable (h : Sheltered view)

include h

/-- Nothing happens to the surroundings before the command of the stage is run, or is not run. -/
theorem stays_bound : Stays (around view) stage.console stage.bound.2 :=
  (h.leaves_flush stage.console).trans (h.leaves_bindAfter stage.streams.bindings stage.flushed)

/-- Nor does anything after that. -/
theorem stays_acted (hbuiltin : stage.IsBuiltin registry) :
    Stays (around view) (stage.acted registry) (stage.turn registry).2 := by
  have hrestored : Stays (around view) (stage.acted registry) (stage.restored registry) :=
    (h.leaves_flush _).trans (h.leaves_restore _ _)
  rcases (turn_of_isBuiltin hbuiltin).2 with hturn | ⟨e, hturn⟩
  · rw [hturn]
    exact hrestored
  · rw [hturn]
    exact hrestored.trans (h.leaves_complain _ _)

theorem leaves_conclude (result : Except Error Status) :
    Leaves (around view) (Registry.conclude (σ := Console (Recorded κ)) result) := by
  cases result with
  | ok status => exact .pure status
  | error e => exact .bind (h.leaves_complain e.report) fun _ => .pure _

variable {name : String} {args : List String} {command : Command (Console (Recorded κ))}
  (hargv : stage.argv = name :: args) (hfind : registry.find? name = some command)

include hargv hfind

/-- A stage of a builtin command does to the surroundings what the command does, if it is run. -/
theorem cases_of_find? :
    (stage.answer registry = none ∧
      Stays (around view) stage.console (stage.turn registry).2) ∨
    (stage.answer registry = some (command.body (stage.call registry) stage.bound.2).1 ∧
      stage.bound.1.1 = .ok () ∧
      Stays (around view) (command.body (stage.call registry) stage.bound.2).2
        (stage.turn registry).2) := by
  have hbuiltin : stage.IsBuiltin registry :=
    ⟨name, by rw [hargv]; rfl, by rw [Registry.isBuiltin, hfind]; rfl⟩
  have hcall : stage.call registry = ⟨registry.topics, name :: args, Console.standardOutput,
      registry.run Console.standardOutput args⟩ := by
    rw [call, hargv]
    rfl
  have hbefore : Stays (around view) stage.console stage.bound.2 := stays_bound h
  have hafter := stays_acted h hbuiltin
  rcases hbound : stage.bound with ⟨⟨answer, saved⟩, c⟩
  rw [hbound] at hbefore
  cases answer with
  | error e =>
      have hacted : stage.acted registry = c := by simp only [acted, hbound]
      refine .inl ⟨?_, hbefore.trans (hacted ▸ hafter)⟩
      rw [Stage.answer, Streams.within_of_unbound hbound]
  | ok _ =>
      have hacted : stage.acted registry =
          (registry.run Console.standardOutput (name :: args) c).2 := by
        simp only [acted, hbound, hargv]
      refine .inr ⟨?_, rfl, ?_⟩
      · rw [Stage.answer, Streams.within_of_bound hbound, hargv, Registry.answer, hfind, hcall]
        rfl
      · have hran : Stays (around view) (command.body (stage.call registry) c).2
            (stage.acted registry) := by
          rw [hacted, Registry.run, hfind, hcall]
          exact (h.leaves_flush _).trans (leaves_conclude h _ _)
        exact hran.trans hafter

omit hargv hfind in
theorem own_turn_of_not_isBuiltin (hnot : ¬ stage.IsBuiltin registry) :
    Stays (ownAround view) stage.console (stage.turn registry).2 := by
  rcases turn_of_not_isBuiltin hnot with ⟨text, _, hturn⟩ | hturn
  · rw [hturn]
    exact (h.leaves_complain text).map Surroundings.own _
  · rw [hturn]
    exact ((h.leaves_flush stage.console).map Surroundings.own).trans (h.leaves_fork _ _)

end Sheltered

section Spoken

open Builtin.ChangeDirectory (asked? left previousVariable)

variable {commands : List Spoken}

variable (commands stage) in
/-- The stage is one of `cd`, which has succeeded. -/
def hasMoved : Bool :=
  stage.argv.head? == some "cd" && (stage.answer (Spoken.registry commands)).any Except.isOk

theorem hasMoved_iff : stage.hasMoved commands = true ↔ stage.argv.head? = some "cd" ∧
    ∃ status, stage.answer (Spoken.registry commands) = some (.ok status) := by
  rw [hasMoved, Bool.and_eq_true, beq_iff_eq, Option.any_eq_true]
  refine and_congr_right fun _ => ⟨?_, ?_⟩
  · rintro ⟨result, hanswer, hok⟩
    cases result with
    | ok status => exact ⟨status, hanswer⟩
    | error e => cases hok
  · rintro ⟨status, hanswer⟩
    exact ⟨_, hanswer, rfl⟩

variable (commands stage) in
theorem log_turn : stage.console.kernel.log <+:
    (stage.turn (Spoken.registry commands)).2.kernel.log := by
  obtain ⟨events, hlog, _⟩ := stage.exists_account commands
  exact ⟨events, hlog.symm⟩

variable (commands stage) in
/-- What is written out in the course of the stage. -/
def output : Bytes :=
  written ((stage.turn (Spoken.registry commands)).2.kernel.log.drop stage.console.kernel.log.length)

/-- As long as every write succeeds, it is what the command says, and then nothing is left to write. -/
theorem output_eq_said
    (hwhole : ∀ e ∈ (stage.turn (Spoken.registry commands)).2.kernel.log, e.IsWhole)
    (hempty : stage.console.buffered = []) :
    stage.output commands = stage.said commands ∧
      (stage.turn (Spoken.registry commands)).2.buffered = [] := by
  obtain ⟨events, hlog, haccount⟩ := stage.exists_account commands
  have houtput : stage.output commands = written events := by
    rw [output, hlog, List.drop_left]
  have hevents : ∀ e ∈ events, e.IsWhole :=
    fun e he => hwhole e (hlog ▸ List.mem_append_right _ he)
  rw [houtput]
  cases haccount with
  | idle hbuiltin _ hbuffered => exact ⟨(said_eq_nil hbuiltin).symm, hbuffered.trans hempty⟩
  | @inside before wired acted restored _ hflushed _ _ hbound hacted hall hrestored hbuffered =>
      obtain ⟨hbefore, hkept⟩ := List.append_eq_nil_iff.mp (hflushed.trans hempty)
      have hacted' : ∀ e ∈ acted, e.IsWhole := fun e he => hevents e (by simp [he])
      have hsaid := hacted.whole hacted'
      rw [hall hacted', hkept, List.append_nil, List.nil_append] at hsaid
      refine ⟨?_, hbuffered.trans (hall hacted')⟩
      simp only [written_append, hbefore, written_of_isWiring hbound.isWiring, hsaid,
        written_of_isWiring hrestored.isWiring, List.nil_append, List.append_nil]
  | forked _ hflushed hbuiltin _ hbuffered =>
      obtain ⟨hbefore, hkept⟩ := List.append_eq_nil_iff.mp (hflushed.trans hempty)
      refine ⟨?_, hbuffered.trans hkept⟩
      rw [written_append, hbefore, said_eq_nil hbuiltin]
      rfl

variable (hgoverns : naming.Governs view) (hsheltered : Sheltered view)
  (hmoves : Spoken.OnlyMoves commands)

include hgoverns hsheltered hmoves

omit hgoverns hsheltered in
theorem find?_cd : (Spoken.registry (σ := Console (Recorded κ)) commands).find? "cd" =
    some Builtin.ChangeDirectory.command := by
  rw [Spoken.find?_registry, hmoves.cd, Option.map_some, Builtin.ChangeDirectory.command_spoken]

theorem own_turn_of_ne_cd (hne : stage.argv.head? ≠ some "cd") :
    ownAround view (stage.turn (Spoken.registry commands)).2 = ownAround view stage.console := by
  by_cases hbuiltin : stage.IsBuiltin (Spoken.registry commands)
  · obtain ⟨name, hhead, hfind⟩ := hbuiltin
    obtain ⟨args, hargv⟩ := List.head?_eq_some_iff.mp hhead
    obtain ⟨command, hfind⟩ := Option.isSome_iff_exists.mp hfind
    rcases cases_of_find? hsheltered hargv hfind with ⟨_, hstays⟩ | ⟨_, _, hstays⟩
    · exact (hstays.map Surroundings.own).part
    · rw [Spoken.find?_registry, Option.map_eq_some_iff] at hfind
      obtain ⟨spoken, hspoken, rfl⟩ := hfind
      have hname : spoken.name = name := by simpa using List.find?_some hspoken
      have hreserved := hmoves.others spoken (List.mem_of_find?_eq_some hspoken) fun hcd =>
        hne (by rw [hhead, ← hname, hcd])
      let call := stage.call (Spoken.registry commands)
      have hran : Leaves (ownAround view) ((spoken.dialog call.topics call.argv).hold call) :=
        (hreserved call.topics call.argv).leaves_hold hgoverns hsheltered fun bytes =>
          (hsheltered.leaves_print bytes).map Surroundings.own
      exact ((((stays_bound hsheltered).map Surroundings.own).trans (hran stage.bound.2)).trans
        (hstays.map Surroundings.own)).part
  · exact (own_turn_of_not_isBuiltin hsheltered hbuiltin).part

/-- A stage of `cd` changes nothing, or it goes from where the shell was to where it is asked to. -/
theorem cases_of_cd {args : List String} (hargv : stage.argv = "cd" :: args) :
    ((∀ status, stage.answer (Spoken.registry commands) ≠ some (.ok status)) ∧
      ownAround view (stage.turn (Spoken.registry commands)).2 = ownAround view stage.console) ∨
    (stage.answer (Spoken.registry commands) = some (.ok .success) ∧
      ∃ arg path d, args[0]? = some arg ∧ asked? naming (around view stage.console) arg = some path ∧
        naming.find (around view stage.console).others (around view stage.console).directory path =
          .ok d ∧
        ownAround view (stage.turn (Spoken.registry commands)).2 =
          (left naming (around view stage.console) d).own) := by
  have hbound : around view stage.bound.2 = around view stage.console :=
    (stays_bound hsheltered).part
  have hwrite (texts : List String) (c : Console (Recorded κ)) :
      around view ((stage.call (Spoken.registry commands)).sink.writeAll texts c).2 =
        around view c :=
    Sink.writeAll_keeps (around view) (fun bytes c => (hsheltered.leaves_print bytes c).part) texts c
  rcases cases_of_find? hsheltered hargv (find?_cd hmoves) with
    ⟨hanswer, hstays⟩ | ⟨hanswer, -, hstays⟩
  · exact .inl ⟨by simp [hanswer], congrArg Surroundings.own hstays.part⟩
  have hstays := hstays.part
  rcases Builtin.ChangeDirectory.body_cases hgoverns.around
      (stage.call (Spoken.registry commands)) stage.bound.2 with
    ⟨e, texts, hseen, -⟩ | ⟨arg, path, d, harg, hasked, ⟨-, hfind⟩, hseen⟩
  · obtain ⟨hresult, hafter⟩ := Prod.mk.inj hseen
    have hfailed : stage.answer (Spoken.registry commands) = some (.error e) :=
      hanswer.trans (congrArg some hresult)
    refine .inl ⟨by simp [hfailed], ?_⟩
    exact congrArg Surroundings.own (hstays.trans (hafter.trans ((hwrite _ _).trans hbound)))
  · obtain ⟨hresult, hafter⟩ := Prod.mk.inj hseen
    rw [hwrite, hbound] at hfind hafter
    rw [hbound] at hasked
    have harg' : args[0]? = some arg := by rwa [call, hargv] at harg
    refine .inr ⟨hanswer.trans (congrArg some hresult), arg, path, d, harg', hasked, hfind, ?_⟩
    exact congrArg Surroundings.own (hstays.trans hafter)

theorem own_turn_of_not_hasMoved (hnot : ¬ stage.hasMoved commands = true) :
    ownAround view (stage.turn (Spoken.registry commands)).2 = ownAround view stage.console := by
  by_cases hhead : stage.argv.head? = some "cd"
  · obtain ⟨args, hargv⟩ := List.head?_eq_some_iff.mp hhead
    rcases cases_of_cd hgoverns hsheltered hmoves hargv with ⟨_, hown⟩ | ⟨hanswer, _⟩
    · exact hown
    · exact absurd (hasMoved_iff.mpr ⟨hhead, _, hanswer⟩) hnot
  · exact own_turn_of_ne_cd hgoverns hsheltered hmoves hhead

theorem own_turn_of_hasMoved (hmoved : stage.hasMoved commands = true) :
    ∃ d, ownAround view (stage.turn (Spoken.registry commands)).2 =
      (left naming (around view stage.console) d).own := by
  obtain ⟨hhead, status, hanswer⟩ := hasMoved_iff.mp hmoved
  obtain ⟨args, hargv⟩ := List.head?_eq_some_iff.mp hhead
  rcases cases_of_cd hgoverns hsheltered hmoves hargv with ⟨hnot, _⟩ | ⟨_, _, _, d, _, _, _, hown⟩
  · exact absurd hanswer (hnot status)
  · exact ⟨d, hown⟩

/-- A run of `cd -` where the way back is known and can be told. -/
theorem returned {rest : List String} (hargv : stage.argv = "cd" :: "-" :: rest)
    (hrun : (stage.answer (Spoken.registry commands)).isSome = true)
    (hwhole : ∀ e ∈ (stage.turn (Spoken.registry commands)).2.kernel.log, e.IsWhole)
    {name : SystemText} (hold : (around view stage.console).settings previousVariable = some name)
    {d : δ} (hfind : naming.find (around view stage.console).others
      (around view stage.console).directory name = .ok d) :
    stage.answer (Spoken.registry commands) = some (.ok .success) ∧
      stage.said commands = Utf8.encode (name.shown ++ "\n") ∧
      ownAround view (stage.turn (Spoken.registry commands)).2 =
        (left naming (around view stage.console) d).own := by
  have hbound : around view stage.bound.2 = around view stage.console :=
    (stays_bound hsheltered).part
  rcases cases_of_find? hsheltered hargv (find?_cd hmoves) with
    ⟨hanswer, _⟩ | ⟨hanswer, hmade, hstays⟩
  · rw [hanswer] at hrun
    cases hrun
  have hbody : ∀ e ∈ (Builtin.ChangeDirectory.body (stage.call (Spoken.registry commands))
      stage.bound.2).2.kernel.log, e.IsWhole :=
    fun e he => hwhole e (hstays.log.subset he)
  rw [← hbound] at hold hfind ⊢
  have hwrote := Builtin.ChangeDirectory.wrote_return hgoverns rfl hargv hold hbody
  obtain ⟨hresult, hafter⟩ := Prod.mk.inj
    (Builtin.ChangeDirectory.seen_return hgoverns rfl hargv hold hbody hsheltered hfind)
  refine ⟨hanswer.trans (congrArg some hresult), ?_, congrArg _ (hstays.part.trans hafter)⟩
  have hcd : commands.find? (fun command => decide (command.name = "cd")) =
      some Builtin.ChangeDirectory.spoken := hmoves.cd
  simp only [Stage.said, hmade, hargv, Spoken.said, hcd]
  exact Builtin.ChangeDirectory.said_return hgoverns.around _ hold _ _ rest hwrote

end Spoken

end Stage

end LineShell
