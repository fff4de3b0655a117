import LineShell.Proofs.Job.Course
import LineShell.Proofs.Job.Ends
import LineShell.Proofs.Kernel.Flow

/-!
Where the output of builtin commands gets to. The buffer of the shell outlives the streams of a task:
what a flush leaves in it goes to whatever descriptor 1 stands for next. So it is told for each stage
what is in the buffer when the streams are replaced and put back, and what gets to which stream.
-/

namespace LineShell

namespace Stage

variable {κ : Type} [Kernel κ] (commands : List Spoken) (stage : Stage (Recorded κ))

/-- What the builtin command says on standard output, if it is run. -/
def said : Bytes :=
  match stage.bound.1.1 with
  | .ok _ => Spoken.said commands Console.standardOutput stage.argv stage.bound.2
  | .error _ => []

/-- The record of a stage, by what goes through the buffer. -/
inductive Account : List Event → Prop
  /-- The task was passed over. -/
  | idle (hbuiltin : ¬ stage.IsBuiltin (Spoken.registry commands))
      (hlaunched : ∀ pid, (stage.turn (Spoken.registry commands)).1 ≠ .launched pid)
      (hbuffered : (stage.turn (Spoken.registry commands)).2.buffered = stage.console.buffered) :
      Account []
  | inside {before wired acted restored : List Event} (hbefore : ∀ e ∈ before, e.IsOutput)
      (hflushed : written before ++ stage.flushed.buffered = stage.console.buffered)
      (hbuiltin : stage.IsBuiltin (Spoken.registry commands))
      (hlaunched : ∀ pid, (stage.turn (Spoken.registry commands)).1 ≠ .launched pid)
      (hbound : Bound [] stage.streams.bindings stage.bound.1 wired)
      (hacted : Carried stage.flushed.buffered (stage.said commands)
        (stage.told (Spoken.registry commands)).buffered acted)
      (hempty : (∀ e ∈ acted, e.IsWhole) →
        (stage.told (Spoken.registry commands)).buffered = [])
      (hrestored : Restored stage.bound.1.2 restored)
      (hbuffered : (stage.turn (Spoken.registry commands)).2.buffered =
        (stage.told (Spoken.registry commands)).buffered) :
      Account (before ++ (wired ++ (acted ++ restored)))
  | forked {before : List Event} {answer : Except Errno Pid}
      (hbefore : ∀ e ∈ before, e.IsOutput)
      (hflushed : written before ++ stage.flushed.buffered = stage.console.buffered)
      (hbuiltin : ¬ stage.IsBuiltin (Spoken.registry commands))
      (hlaunched : ∀ pid, (stage.turn (Spoken.registry commands)).1 = .launched pid ↔
        answer = .ok pid)
      (hbuffered : (stage.turn (Spoken.registry commands)).2.buffered = stage.flushed.buffered) :
      Account (before ++ [.forked ⟨stage.argv, stage.streams.bindings, stage.held⟩ answer])

variable {commands stage}

theorem said_eq_nil (h : ¬ stage.IsBuiltin (Spoken.registry commands)) :
    stage.said commands = [] := by
  have hsaid (c : Console (Recorded κ)) :
      Spoken.said commands Console.standardOutput stage.argv c = [] := by
    cases hargv : stage.argv with
    | nil => rfl
    | cons program args =>
        have hnone : (Spoken.registry (σ := Console (Recorded κ)) commands).find? program = none := by
          refine Option.not_isSome_iff_eq_none.mp fun hsome => h ⟨program, by simp [hargv], hsome⟩
        rw [Spoken.find?_registry, Option.map_eq_none_iff] at hnone
        simp only [Spoken.said, hnone]
  rw [said]
  split
  · exact hsaid _
  · rfl

variable (commands stage) in
/-- From where the streams are bound to where they are put back, all that is carried through the
buffer is what the command says. -/
theorem exists_acted : ∃ acted, (stage.told (Spoken.registry commands)).kernel.log =
      stage.bound.2.kernel.log ++ acted ∧
    Carried stage.flushed.buffered (stage.said commands)
      (stage.told (Spoken.registry commands)).buffered acted ∧
    ((∀ e ∈ acted, e.IsWhole) → (stage.told (Spoken.registry commands)).buffered = []) := by
  obtain ⟨ran, hran, hcarried⟩ : ∃ ran, (stage.acted (Spoken.registry commands)).kernel.log =
      stage.bound.2.kernel.log ++ ran ∧ Carried stage.flushed.buffered (stage.said commands)
        (stage.acted (Spoken.registry commands)).buffered ran := by
    cases hanswer : stage.bound.1.1 with
    | ok _ =>
        simp only [Stage.acted, said, hanswer]
        exact Console.emits_run commands stage.argv stage.bound.2
    | error e =>
        simp only [Stage.acted, said, hanswer]
        exact ⟨[], (List.append_nil _).symm, .nil _⟩
  obtain ⟨last, hlast, houtput, hkept, hempty, hfailed⟩ :=
    Console.flush_keeps (stage.acted (Spoken.registry commands))
  refine ⟨ran ++ last, ?_, ?_, fun hwhole => hempty ?_⟩
  · rw [told, hlast, hran, List.append_assoc]
  · have hflushed := hcarried.append (.flushed houtput hkept)
    rwa [List.append_nil] at hflushed
  · refine Classical.not_not.mp fun hnot => ?_
    obtain ⟨e, he, hfails⟩ := hfailed hnot
    exact hfails (hwhole e (List.mem_append_right _ he))

variable (commands stage) in
theorem exists_account : ∃ events, (stage.turn (Spoken.registry commands)).2.kernel.log =
    stage.console.kernel.log ++ events ∧ stage.Account commands events := by
  obtain ⟨before, hbefore, houtput, hflushed, _⟩ := Console.flush_keeps stage.console
  by_cases hbuiltin : stage.IsBuiltin (Spoken.registry commands)
  · obtain ⟨hlaunched, hturn⟩ := turn_of_isBuiltin hbuiltin
    -- What is reported if the streams could not be bound goes unrecorded.
    obtain ⟨hlog, hbuffered⟩ : (stage.turn (Spoken.registry commands)).2.kernel.log =
          (stage.restored (Spoken.registry commands)).kernel.log ∧
        (stage.turn (Spoken.registry commands)).2.buffered =
          (stage.told (Spoken.registry commands)).buffered := by
      rcases hturn with hturn | ⟨e, hturn⟩
      · rw [hturn]
        exact ⟨rfl, rfl⟩
      · rw [hturn]
        exact ⟨rfl, rfl⟩
    obtain ⟨wired, hwired, hbound⟩ := Streams.logs_bindAfter [] stage.streams.bindings
      stage.flushed.kernel
    obtain ⟨acted, hacted, hcarried, hempty⟩ := exists_acted commands stage
    obtain ⟨restored, hrestored, hrestored'⟩ := Streams.logs_restore stage.bound.1.2
      (stage.told (Spoken.registry commands)).kernel
    refine ⟨_, ?_, .inside houtput hflushed hbuiltin hlaunched hbound hcarried hempty hrestored'
      hbuffered⟩
    calc (stage.turn (Spoken.registry commands)).2.kernel.log
        = (stage.told (Spoken.registry commands)).kernel.log ++ restored := hlog.trans hrestored
      _ = stage.bound.2.kernel.log ++ acted ++ restored := by rw [hacted]
      _ = stage.flushed.kernel.log ++ wired ++ acted ++ restored := by
          rw [show stage.bound.2.kernel.log = _ from hwired]
          rfl
      _ = stage.console.kernel.log ++ (before ++ (wired ++ (acted ++ restored))) := by
          rw [show stage.flushed.kernel.log = _ from hbefore]
          simp only [List.append_assoc]
  · rcases turn_of_not_isBuiltin hbuiltin with ⟨text, hlaunched, hstate⟩ | hturn
    · refine ⟨[], ?_, .idle hbuiltin hlaunched (by rw [hstate]; rfl)⟩
      rw [hstate, List.append_nil]
      rfl
    · let child : Child := ⟨stage.argv, stage.streams.bindings, stage.held⟩
      let answer := (Kernel.fork child stage.flushed.kernel.kernel).1
      refine ⟨before ++ [.forked child answer], ?_, .forked houtput hflushed hbuiltin ?_ ?_⟩
      · rw [hturn, ← List.append_assoc, ← hbefore]
        rfl
      · intro pid
        rw [hturn]
        show Turn.ofFork answer = _ ↔ _
        cases answer <;> simp [Turn.ofFork]
      · rw [hturn]
        rfl

variable (commands stage)

/-- The streams are replaced while the command runs, standard output among them. -/
def Redirects (registry : Registry (Console (Recorded κ))) : Prop :=
  stage.IsBuiltin registry ∧ stage.bound.1.1 = .ok () ∧ stage.streams.output.isSome = true

/-- Nothing is in the buffer when the streams are replaced or a process is made, and nothing when the
shell's own streams are put back. -/
def Settled (registry : Registry (Console (Recorded κ))) : Prop :=
  stage.flushed.buffered = [] ∧ (stage.IsBuiltin registry → (stage.told registry).buffered = [])

/-- What the standard output of the task is. -/
def port (own : Descriptor → Option Nat) : Option Port :=
  (stage.console.ledger own).table (stage.streams.output.getD Descriptor.output)

/-- What the stage is to bring about: all that its command says gets to the standard output of the
task, or its program is launched. -/
def effects (own : Descriptor → Option Nat) : List Effect :=
  Effect.deliveries (stage.port own) (stage.said commands) ++
    match (stage.turn (Spoken.registry commands)).1 with
    | .launched _ => [.launched stage.argv]
    | _ => []

end Stage

/-- From one state to another, with this record, the stages bring about what they are to. -/
structure Delivered {κ : Type} [Kernel κ] (own : Descriptor → Option Nat) (commands : List Spoken)
    (c : Console (Recorded κ)) (events : List Event) (stages : List (Stage (Recorded κ)))
    (c' : Console (Recorded κ)) : Prop where
  log : c'.kernel.log = c.kernel.log ++ events
  /-- If every write succeeds nothing is lost, and nothing stays in the buffer. -/
  whole : (∀ e ∈ events, e.IsWhole) → c.buffered = [] →
    (c.ledger own).flow events = stages.flatMap (Stage.effects commands · own) ∧
      (∀ stage ∈ stages, stage.Settled (Spoken.registry commands)) ∧ c'.buffered = []
  /-- If nothing is in the buffer when standard output is replaced or put back, all that gets
  anywhere, or stays in the buffer, is what belongs there. -/
  kept : (∀ stage ∈ stages, stage.Redirects (Spoken.registry commands) →
      stage.Settled (Spoken.registry commands)) →
    (((c.ledger own).flow events).filter Effect.IsDelivery ++
        Effect.deliveries ((Ledger.start own).table Descriptor.output) c'.buffered).Sublist
      (Effect.deliveries ((Ledger.start own).table Descriptor.output) c.buffered ++
        (stages.flatMap (Stage.effects commands · own)).filter Effect.IsDelivery)

namespace Delivered

variable {κ : Type} [Kernel κ] {own : Descriptor → Option Nat} {commands : List Spoken}
  {c c' c'' : Console (Recorded κ)} {events later : List Event}
  {stages stages' : List (Stage (Recorded κ))}

theorem ledger (h : Delivered own commands c events stages c') :
    c'.ledger own = (c.ledger own).after events :=
  Console.ledger_of_log h.log

/-- Nothing gets anywhere and the buffer stays as it is. -/
theorem quiet (hlog : c'.kernel.log = c.kernel.log ++ events)
    (hflow : (c.ledger own).flow events = []) (hbuffered : c'.buffered = c.buffered) :
    Delivered own commands c events [] c' where
  log := hlog
  whole _ hempty := ⟨hflow, by simp, hbuffered.trans hempty⟩
  kept _ := by simp [hflow, hbuffered]

theorem trans (h : Delivered own commands c events stages c')
    (hlater : Delivered own commands c' later stages' c'') :
    Delivered own commands c (events ++ later) (stages ++ stages') c'' where
  log := by rw [hlater.log, h.log, List.append_assoc]
  whole hwhole hempty := by
    obtain ⟨hevents, hevents'⟩ := List.forall_mem_append.mp hwhole
    obtain ⟨hflow, hsettled, hempty'⟩ := h.whole hevents hempty
    obtain ⟨hflow', hsettled', hempty''⟩ := hlater.whole hevents' hempty'
    refine ⟨?_, List.forall_mem_append.mpr ⟨hsettled, hsettled'⟩, hempty''⟩
    rw [Ledger.flow_append, hflow, ← h.ledger, hflow', List.flatMap_append]
  kept hsettled := by
    obtain ⟨hstages, hstages'⟩ := List.forall_mem_append.mp hsettled
    rw [Ledger.flow_append, ← h.ledger, List.filter_append, List.flatMap_append,
      List.filter_append]
    exact sublist_through (h.kept hstages) (hlater.kept hstages')

end Delivered

namespace Stage

variable {κ : Type} [Kernel κ] {own : Descriptor → Option Nat} {commands : List Spoken}
  {stage : Stage (Recorded κ)} {k : Nat} {input : Option Descriptor} {pipes : List Pipe}
  {events : List Event}

theorem buffered_flushed (h : stage.console.buffered = []) : stage.flushed.buffered = [] := by
  rw [flushed, Console.flush_apply, if_pos h]
  exact h

variable (own) in
theorem effects_of_not_launched
    (h : ∀ pid, (stage.turn (Spoken.registry commands)).1 ≠ .launched pid) :
    stage.effects commands own = Effect.deliveries (stage.port own) (stage.said commands) := by
  rw [effects]
  cases hturn : (stage.turn (Spoken.registry commands)).1 with
  | launched pid => exact absurd hturn (h pid)
  | _ => exact List.append_nil _

variable (commands) in
/-- Where the output of a builtin command gets to while its streams are bound. -/
theorem port_of_bound (hown : Standing own) (hstreams : stage.streams = .first input pipes)
    (hlaid : Laid (.ofOwn own) k input pipes (stage.console.ledger own).table)
    {wired : List Event} (hbound : Bound [] stage.streams.bindings stage.bound.1 wired)
    (hlawful : (stage.console.ledger own).Lawful wired) :
    let port := ((stage.console.ledger own).after wired).table Descriptor.output
    Effect.deliveries (stage.port own) (stage.said commands) =
        Effect.deliveries port (stage.said commands) ∧
      ((stage.bound.1.1 = .ok () ∧ stage.streams.output.isSome = true) ∨
        port = (stage.console.ledger own).table Descriptor.output) := by
  intro port
  rw [hstreams] at hbound
  obtain ⟨hmade, hnotMade⟩ := hlaid.output_port hown rfl hbound hlawful
  rw [← hstreams] at hmade
  by_cases hanswer : stage.bound.1.1 = .ok ()
  · have hport : port = stage.port own := hmade hanswer
    refine ⟨by rw [hport], ?_⟩
    cases houtput : stage.streams.output with
    | some writer => exact .inl ⟨hanswer, rfl⟩
    | none => exact .inr (by rw [hport, Stage.port, houtput]; rfl)
  · refine ⟨?_, .inr (hnotMade hanswer)⟩
    cases hfailed : stage.bound.1.1 with
    | ok _ => exact absurd hfailed hanswer
    | error e => simp [said, hfailed]

omit [Kernel κ] in
theorem flow_inside {before wired acted restored : List Event}
    (hown : (stage.console.ledger own).table Descriptor.output =
      (Ledger.start own).table Descriptor.output)
    (hbefore : ∀ e ∈ before, e.IsOutput) (hwired : ∀ e ∈ wired, e.IsWiring)
    (hacted : ∀ e ∈ acted, e.IsOutput) (hrestored : ∀ e ∈ restored, e.IsWiring) :
    (stage.console.ledger own).flow (before ++ (wired ++ (acted ++ restored))) =
      Effect.deliveries ((Ledger.start own).table Descriptor.output) (written before) ++
        Effect.deliveries (((stage.console.ledger own).after wired).table Descriptor.output)
          (written acted) := by
  simp only [Ledger.flow_append, Ledger.flow_of_isOutput _ hbefore,
    Ledger.after_of_isOutput _ hbefore, Ledger.flow_of_isWiring _ hwired,
    Ledger.flow_of_isOutput _ hacted, Ledger.flow_of_isWiring _ hrestored, List.nil_append,
    List.append_nil, hown]

variable (own) in
/-- What is launched is the program of the task, if a process could be made for it. -/
theorem effects_of_forked {answer : Except Errno Pid}
    (hbuiltin : ¬ stage.IsBuiltin (Spoken.registry commands))
    (hlaunched : ∀ pid, (stage.turn (Spoken.registry commands)).1 = .launched pid ↔
      answer = .ok pid) :
    stage.effects commands own = (stage.console.ledger own).effects
      (.forked ⟨stage.argv, stage.streams.bindings, stage.held⟩ answer) := by
  rw [effects, said_eq_nil hbuiltin, Effect.deliveries_nil, List.nil_append]
  cases answer with
  | ok pid =>
      rw [(hlaunched pid).mpr rfl]
      rfl
  | error e =>
      cases hturn : (stage.turn (Spoken.registry commands)).1 with
      | launched pid => cases (hlaunched pid).mp hturn
      | _ => rfl

theorem Account.delivered (hown : Standing own) (h : stage.Account commands events)
    (hlog : (stage.turn (Spoken.registry commands)).2.kernel.log =
      stage.console.kernel.log ++ events)
    (hstreams : stage.streams = .first input pipes)
    (hlaid : Laid (.ofOwn own) k input pipes (stage.console.ledger own).table)
    (hlawful : (stage.console.ledger own).Lawful events) :
    Delivered own commands stage.console events [stage]
      (stage.turn (Spoken.registry commands)).2 := by
  have hown' : (stage.console.ledger own).table Descriptor.output =
      (Ledger.start own).table Descriptor.output := hlaid.apply_eq_ofOwn hown.output
  cases h with
  | idle hbuiltin hlaunched hbuffered =>
      have heffects := effects_of_not_launched own hlaunched
      rw [said_eq_nil hbuiltin, Effect.deliveries_nil] at heffects
      refine ⟨hlog, fun _ hempty => ⟨by simp [heffects], ?_, hbuffered.trans hempty⟩, fun _ => ?_⟩
      · simp [Settled, hbuiltin, buffered_flushed hempty]
      · simp [heffects, hbuffered]
  | @inside before wired acted restored hbefore hflushed hbuiltin hlaunched hbound hacted hempty
      hrestored hbuffered =>
      simp only [Ledger.lawful_append, Ledger.after_of_isOutput _ hbefore] at hlawful
      -- What is flushed first goes to the shell's own output, what the command brings about to `port`.
      obtain ⟨hsaid, hport⟩ := port_of_bound commands hown hstreams hlaid hbound
        hlawful.2.1
      have heffects := effects_of_not_launched own hlaunched
      have hflow := flow_inside hown' hbefore hbound.isWiring hacted.isOutput hrestored.isWiring
      rw [hsaid] at heffects
      rw [hown'] at hport
      generalize ((stage.console.ledger own).after wired).table Descriptor.output = port
        at hport heffects hflow
      refine ⟨hlog, fun hwhole hstart => ?_, fun hsettled => ?_⟩
      · have htold := hempty fun e he => hwhole e (by simp [he])
        have hcarried := hacted.whole fun e he => hwhole e (by simp [he])
        rw [htold, buffered_flushed hstart, List.append_nil, List.nil_append] at hcarried
        rw [hstart, List.append_eq_nil_iff] at hflushed
        refine ⟨?_, ?_, hbuffered.trans htold⟩
        · simp [hflow, heffects, hflushed.1, hcarried]
        · simpa using ⟨buffered_flushed hstart, fun _ => htold⟩
      · rw [hflow, hbuffered, List.flatMap_singleton, heffects]
        simp only [List.filter_append, Effect.filter_deliveries]
        refine Effect.deliveries_through hflushed hacted.kept (hport.imp_left fun hredirected => ?_)
        have hempty := hsettled stage (by simp) ⟨hbuiltin, hredirected⟩
        exact ⟨hempty.1, hempty.2 hbuiltin⟩
  | @forked before answer hbefore hflushed hbuiltin hlaunched hbuffered =>
      -- The flush before the process is made is all that gets anywhere.
      have heffects := effects_of_forked own hbuiltin hlaunched
      have hdelivers : (stage.effects commands own).filter Effect.IsDelivery = [] := by
        rw [heffects]
        cases answer <;> rfl
      have hflow : (stage.console.ledger own).flow (before ++ [.forked
          ⟨stage.argv, stage.streams.bindings, stage.held⟩ answer]) =
            Effect.deliveries ((Ledger.start own).table Descriptor.output) (written before) ++
              stage.effects commands own := by
        rw [Ledger.flow_append, Ledger.flow_of_isOutput _ hbefore,
          Ledger.after_of_isOutput _ hbefore, hown', heffects, Ledger.flow, Ledger.flow_nil,
          List.append_nil]
      refine ⟨hlog, fun hwhole hstart => ?_, fun hsettled => ?_⟩
      · rw [hstart, List.append_eq_nil_iff] at hflushed
        refine ⟨by simp [hflow, hflushed.1], ?_, hbuffered.trans (buffered_flushed hstart)⟩
        simpa [Settled, hbuiltin] using buffered_flushed hstart
      · rw [hflow, hbuffered, List.flatMap_singleton, List.filter_append, hdelivers,
          Effect.filter_deliveries, List.append_nil, List.append_nil, ← Effect.deliveries_append,
          hflushed]

end Stage

/-! ### Jobs -/

/-- After the turn of a stage the ends that it was given are closed. -/
theorem Stage.exists_taken {κ : Type} [Kernel κ] {registry : Registry (Console (Recorded κ))}
    (hmodest : registry.Modest) (stage : Stage (Recorded κ)) :
    ∃ events, (stage.turn registry).2.kernel.log = stage.console.kernel.log ++ events ∧
      Taken stage.streams stage.held stage.argv (stage.turn registry).1 events ∧
      (stage.done registry).kernel.log =
        stage.console.kernel.log ++ (events ++ closes stage.streams.ends) := by
  obtain ⟨events, hturn, htaken⟩ :=
    Task.logs_turn hmodest stage.streams stage.held stage.argv stage.console
  obtain ⟨closed, hclosed, rfl⟩ := Pipe.logs_closeAll stage.streams.ends
    (stage.turn registry).2.kernel
  refine ⟨events, hturn, htaken, ?_⟩
  rw [← List.append_assoc]
  exact hclosed.trans (congrArg (· ++ _) hturn)

namespace Job

variable {κ : Type} [Kernel κ] (own : Descriptor → Option Nat) (commands : List Spoken)

/-- Closing descriptors gets nothing anywhere. -/
theorem delivered_closeAll (ds : List Descriptor) (c : Console (Recorded κ)) :
    Delivered own commands c (closes ds) [] (Console.call (Pipe.closeAll ds) c).2 := by
  obtain ⟨events, hlog, rfl⟩ := Pipe.logs_closeAll ds c.kernel
  exact .quiet hlog (Ledger.flow_of_isWiring _ isWiring_of_closes) rfl

variable {own} (hown : Standing own)

include hown

/-- A stage brings about what it is to and passes on the ends of the pipes that it does not use. -/
theorem delivered_done (input : Option Descriptor) (pipes : List Pipe) (argv : List String)
    (c : Console (Recorded κ)) :
    let stage := Stage.first input pipes argv c
    let done := stage.done (Spoken.registry commands)
    ∃ events, done.kernel.log = c.kernel.log ++ events ∧
      ∀ k, Laid (.ofOwn own) k input pipes (c.ledger own).table → (c.ledger own).Lawful events →
        Delivered own commands c events [stage] done ∧
          Laid (.ofOwn own) (k + 1) (pipes.head?.map Pipe.reader) pipes.tail
            (done.ledger own).table := by
  intro stage done
  obtain ⟨events, hlog, haccount⟩ := Stage.exists_account commands stage
  obtain ⟨events', hlog', htaken, hdone⟩ :=
    stage.exists_taken (Registry.modest_spoken commands)
  obtain rfl : events = events' := List.append_cancel_left (hlog.symm.trans hlog')
  have hclosed := delivered_closeAll own commands stage.streams.ends
    (stage.turn (Spoken.registry commands)).2
  refine ⟨events ++ closes stage.streams.ends, hdone, fun k hlaid hlawful => ?_⟩
  have hevents := ((c.ledger own).lawful_append _ _).mp hlawful
  refine ⟨(haccount.delivered hown hlog rfl hlaid hevents.1).trans hclosed, ?_⟩
  rw [Console.ledger_of_log hdone]
  exact hlaid.passed hown htaken hevents.1

omit hown in
theorem table_closeAll {input : Option Descriptor} {pipes : List Pipe} {k : Nat}
    {c : Console (Recorded κ)} (hlaid : Laid (.ofOwn own) k input pipes (c.ledger own).table) :
    ((Console.call (Pipe.closeAll (Pipe.endsFrom input pipes)) c).2.ledger own).table =
      .ofOwn own := by
  rw [(delivered_closeAll own [] (Pipe.endsFrom input pipes) c).ledger, Ledger.after_closes]
  exact hlaid.rest

/-- While tasks are started, the stages bring about what they are to, and in the end the shell holds
what it held before the job. -/
theorem delivered_turns (input : Option Descriptor) (pipes : List Pipe)
    (argvs : List (List String)) (c : Console (Recorded κ)) :
    let registry := Spoken.registry commands
    let after := (turns registry input pipes argvs c).2
    ∃ events, after.kernel.log = c.kernel.log ++ events ∧
      ∀ k, Laid (.ofOwn own) k input pipes (c.ledger own).table → (c.ledger own).Lawful events →
        Delivered own commands c events (stages registry input pipes argvs c) after ∧
          (after.ledger own).table = .ofOwn own := by
  intro registry
  -- By induction on the tasks. What the next one starts from is that its pipes are `Laid`.
  induction argvs generalizing input pipes c with
  | nil =>
      have hclosed := delivered_closeAll own commands (Pipe.endsFrom input pipes) c
      exact ⟨_, hclosed.log, fun k hlaid _ => ⟨hclosed, table_closeAll hlaid⟩⟩
  | cons argv rest ih =>
      obtain ⟨events, hlog, hdone⟩ := delivered_done commands hown input pipes argv c
      simp only [turns_cons, stages]
      cases (Stage.turn registry (Stage.first input pipes argv c)).1.isLast with
      | true =>
          -- The ends that are left for later tasks are given up at once.
          have hclosed := delivered_closeAll own commands (Pipe.left pipes)
            ((Stage.first input pipes argv c).done registry)
          refine ⟨events ++ closes (Pipe.left pipes), ?_, fun k hlaid hlawful => ?_⟩
          · exact hclosed.log.trans (by rw [hlog, List.append_assoc])
          · rw [Ledger.lawful_append] at hlawful
            obtain ⟨hdelivered, hleft⟩ := hdone k hlaid hlawful.1
            exact ⟨hdelivered.trans hclosed, table_closeAll hleft⟩
      | false =>
          obtain ⟨later, hlog', hlater⟩ := ih (pipes.head?.map Pipe.reader) pipes.tail
            ((Stage.first input pipes argv c).done registry)
          refine ⟨events ++ later, ?_, fun k hlaid hlawful => ?_⟩
          · exact hlog'.trans (by rw [hlog, List.append_assoc])
          · rw [Ledger.lawful_append, ← Console.ledger_of_log hlog] at hlawful
            obtain ⟨hdelivered, hleft⟩ := hdone k hlaid hlawful.1
            obtain ⟨hdelivered', htable⟩ := hlater (k + 1) hleft hlawful.2
            exact ⟨hdelivered.trans hdelivered', htable⟩

omit hown in
theorem exists_opened {count : Nat} {c c' : Console (Recorded κ)}
    {answer : Except Errno (List Pipe)}
    (h : Console.call (Pipe.openMany count) c = (answer, c')) :
    ∃ events, c'.kernel.log = c.kernel.log ++ events ∧ Opened [] count answer events ∧
      c'.buffered = c.buffered := by
  obtain ⟨events, hlog, hopened⟩ := Pipe.logs_openAfter (κ := κ) [] count c.kernel
  obtain rfl : (Console.call (Pipe.openMany count) c).1 = answer := congrArg Prod.fst h
  obtain rfl : (Console.call (Pipe.openMany count) c).2 = c' := congrArg Prod.snd h
  exact ⟨events, hlog, hopened, rfl⟩

variable (own) in
omit hown in
theorem delivered_reap (tasks : List Task) (c : Console (Recorded κ)) :
    ∃ events, (∀ e ∈ events, e.IsWait) ∧
      Delivered own commands c events [] (Console.call (reap tasks) c).2 := by
  obtain ⟨events, hlog, _, hwait⟩ := logs_reap tasks c.kernel
  exact ⟨events, hwait, .quiet hlog (Ledger.flow_of_isWait _ hwait) rfl⟩

/-- The stages of a job; there are none if its pipes could not be made. -/
def stagesOf (registry : Registry (Console (Recorded κ))) (job : Job) (c : Console (Recorded κ)) :
    List (Stage (Recorded κ)) :=
  match job.reached registry c with
  | .ok stages => stages
  | .error _ => []

/-- The stages of a job bring about what they are to, and in the end the shell holds what it held
before. -/
theorem delivered_execute (job : Job) (c : Console (Recorded κ)) :
    let registry := Spoken.registry commands
    let after := (job.execute registry c).2
    ∃ events, after.kernel.log = c.kernel.log ++ events ∧
      ((c.ledger own).table = .ofOwn own → (c.ledger own).Lawful events →
        Delivered own commands c events (job.stagesOf registry c) after ∧
          (after.ledger own).table = .ofOwn own) := by
  intro registry
  rcases hopen : Console.call (Pipe.openMany (job.size - 1)) c with ⟨answer, c₁⟩
  obtain ⟨opened, hlog, hopened, hbuffered⟩ := exists_opened hopen
  have hquiet : Delivered own commands c opened [] c₁ :=
    .quiet hlog (Ledger.flow_of_isWiring _ hopened.isWiring) hbuffered
  have hlaid (htable : (c.ledger own).table = .ofOwn own) :
      Laid (.ofOwn own) (c.ledger own).made none [] (c.ledger own).table := by
    rw [htable]
    exact .nil _ _
  cases answer with
  | error e =>
      simp only [stagesOf, reached, hopen, execute_of_unopened hopen]
      refine ⟨opened, hlog, fun htable hlawful => ⟨hquiet, ?_⟩⟩
      obtain ⟨_, _, hfailed⟩ := hopened.laid (hlaid htable) rfl hlawful
      exact (congrArg Ledger.table (Console.ledger_of_log hlog)).trans (hfailed e rfl)
  | ok pipes =>
      obtain ⟨started, hstarted, hdelivered⟩ :=
        delivered_turns commands hown none pipes job.argvs c₁
      have hturns (htable : (c.ledger own).table = .ofOwn own)
          (hlawful : (c.ledger own).Lawful (opened ++ started)) :
          Delivered own commands c (opened ++ started) (stages registry none pipes job.argvs c₁)
              (turns registry none pipes job.argvs c₁).2 ∧
            (((turns registry none pipes job.argvs c₁).2).ledger own).table = .ofOwn own := by
        rw [Ledger.lawful_append] at hlawful
        obtain ⟨_, hpipes, _⟩ := hopened.laid (hlaid htable) rfl hlawful.1
        rw [← Console.ledger_of_log hlog] at hpipes hlawful
        obtain ⟨hdelivered, htable'⟩ := hdelivered _ (hpipes pipes rfl) hlawful.2
        exact ⟨hquiet.trans hdelivered, htable'⟩
      have hstarted' : (turns registry none pipes job.argvs c₁).2.kernel.log =
          c.kernel.log ++ (opened ++ started) := by
        rw [hstarted, hlog, List.append_assoc]
      simp only [stagesOf, reached, hopen, execute_of_opened hopen]
      cases Turn.outcome (turns registry none pipes job.argvs c₁).1 with
      | error e => exact ⟨opened ++ started, hstarted', hturns⟩
      | ok terminated =>
          obtain ⟨waited, hwait, hreaped⟩ := delivered_reap own commands
            (Turn.markAll (turns registry none pipes job.argvs c₁).1 job.tasks)
            (turns registry none pipes job.argvs c₁).2
          refine ⟨opened ++ started ++ waited, ?_, fun htable hlawful => ?_⟩
          · exact hreaped.log.trans (by rw [hstarted', List.append_assoc])
          · rw [Ledger.lawful_append] at hlawful
            obtain ⟨hdelivered, htable'⟩ := hturns htable hlawful.1
            refine ⟨?_, ?_⟩
            · have hall := hdelivered.trans hreaped
              rwa [List.append_nil] at hall
            · refine Eq.trans ?_ htable'
              have hafter := hreaped.ledger
              rw [Ledger.after_of_isWait _ hwait] at hafter
              exact congrArg Ledger.table hafter

end Job

end LineShell
