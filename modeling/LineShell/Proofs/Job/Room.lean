import LineShell.Proofs.Job.Chatter

/-!
Room in the pipes of a job. A builtin command writes to its pipe before anything that could read
from the pipe has been started, so all that it writes has to fit. A job gets through just when no
builtin command writes more than a pipe can hold; `help` with enough topics does.
-/

namespace LineShell

section Stage

variable {own : Descriptor → Option Nat} {k : Nat} {input : Option Descriptor} {pipes : List Pipe}
  {l : Ledger}

/-- While the command of stage `k` is bound to its streams, it can write into no pipe but that of
its own stage, of which the shell has the reading end. -/
theorem Bound.unread (hown : Standing own) {saved : List Saved}
    {answer : Except Errno Unit × List Saved} {events : List Event}
    (h : Bound saved (Streams.first input pipes).bindings answer events)
    (hlaid : Laid (.ofOwn own) k input pipes l.table) (hlawful : l.Lawful events)
    (hbirths : ∀ b ∈ (l.after events).births, ∃ stage, stage.1 < k ∧ b.At stage) (bytes : Bytes)
    (answer : Except (Nat × Errno) Unit) :
    (l.after events).Unread (.wrote Descriptor.output bytes answer) := by
  intro i hi
  have hreplaceable := hlaid.replaceable hown
  obtain ⟨n, houtput⟩ := hlaid.apply_of_isSome hown.output
  obtain ⟨pipe, hpipe, rfl⟩ : ∃ pipe, pipes.head? = some pipe ∧ i = k := by
    rcases h.kept hreplaceable hlawful (d := Descriptor.output) (by simp [houtput]) with
      hkept | ⟨source, hsource, hbound⟩
    · rw [hkept, houtput] at hi
      cases hi
    · rcases hlaid.source_port hsource with ⟨hinput, _⟩ | ⟨_, hwriter, pipe, hpipe, _⟩
      · cases hinput
      · rw [hbound, hwriter] at hi
        exact ⟨pipe, hpipe, (Port.writer.inj (Option.some.inj hi)).symm⟩
  obtain ⟨hreader, _⟩ := hlaid.head_ports hpipe
  refine ⟨?_, pipe.reader, ?_⟩
  · -- The children so far belong to earlier stages, so none of them reads from this pipe.
    rintro ⟨b, hb, hreads⟩
    obtain ⟨stage, hlt, hat⟩ := hbirths b hb
    have := (hat.2.reader _ _ hreads).1
    omega
  · rcases h.kept hreplaceable hlawful (d := pipe.reader) (by simp [hreader]) with
      hkept | ⟨source, hsource, _⟩
    · rw [hkept, hreader]
    · obtain ⟨stream, hstream⟩ := hreplaceable.target _ hsource
      simp [hreader] at hstream

theorem Taken.unread (hown : Standing own) {argv : List String} {turn : Turn} {events : List Event}
    (h : Taken (.first input pipes) (Pipe.endsFrom input pipes) argv turn events)
    (hlaid : Laid (.ofOwn own) k input pipes l.table)
    (hbirths : ∀ b ∈ l.births, ∃ stage, stage.1 < k ∧ b.At stage) (hlawful : l.Lawful events) :
    l.Along Ledger.Unread events := by
  obtain ⟨n, houtput⟩ := hlaid.apply_of_isSome hown.output
  -- What was still buffered goes to the shell's own output, before any stream is replaced.
  have hbefore {events : List Event} (h : ∀ e ∈ events, e.IsOutput) :
      l.Along Ledger.Unread events := by
    refine Ledger.along_of_isOutput h fun bytes answer i hi => ?_
    rw [houtput] at hi
    cases hi
  cases h with
  | idle => trivial
  | @inside _ saved answer before bound output restored _ houtput hbound houtput' hrestored =>
      simp only [Ledger.lawful_append, Ledger.along_append, l.after_of_isOutput houtput]
        at hlawful ⊢
      have hundoes : Undoes l.table [] l.table := rfl
      obtain ⟨t, hafter, _⟩ := hbound.undoes hundoes (hlaid.replaceable hown) hlawful.2.1
      refine ⟨hbefore houtput, Ledger.along_unread_of_isWiring _ hbound.isWiring, ?_,
        Ledger.along_unread_of_isWiring _ hrestored.isWiring⟩
      refine Ledger.along_of_isOutput houtput' fun bytes answer => ?_
      exact hbound.unread hown hlaid hlawful.2.1 (by rw [hafter]; exact hbirths) bytes answer
  | launched pid houtput' =>
      simp only [Ledger.along_append]
      exact ⟨hbefore houtput', trivial, trivial⟩
  | refused e houtput' =>
      simp only [Ledger.along_append]
      exact ⟨hbefore houtput', trivial, trivial⟩

theorem exists_of_mem_of_forall₂ {α β : Type} {R : α → β → Prop} {as : List α} {bs : List β}
    (h : List.Forall₂ R as bs) {a : α} (ha : a ∈ as) : ∃ b ∈ bs, R a b := by
  induction h with
  | nil => cases ha
  | @cons a' b as bs hab _ ih =>
      rcases List.mem_cons.mp ha with rfl | ha
      · exact ⟨b, List.mem_cons_self, hab⟩
      · obtain ⟨b', hb', hr⟩ := ih ha
        exact ⟨b', List.mem_cons_of_mem _ hb', hr⟩

theorem Started.unread (hown : Standing own) {argvs : List (List String)} {turns : List Turn}
    {events : List Event} (h : Started input pipes argvs turns events)
    (hlaid : Laid (.ofOwn own) k input pipes l.table)
    (hbirths : ∀ b ∈ l.births, ∃ stage, stage.1 < k ∧ b.At stage) (hlawful : l.Lawful events) :
    l.Along Ledger.Unread events := by
  have hcloses (ds : List Descriptor) (l : Ledger) : l.Along Ledger.Unread (closes ds) :=
    l.along_unread_of_isWiring isWiring_of_closes
  induction h generalizing k l with
  | all => exact hcloses _ _
  | last htaken =>
      simp only [Ledger.lawful_append, Ledger.along_append] at hlawful ⊢
      exact ⟨htaken.unread hown hlaid hbirths hlawful.1, hcloses _ _, hcloses _ _⟩
  | next htaken _ ih =>
      simp only [Ledger.lawful_append, Ledger.along_append] at hlawful ⊢
      refine ⟨htaken.unread hown hlaid hbirths hlawful.1, hcloses _ _, ?_⟩
      obtain ⟨births, hafter, hstages⟩ := htaken.launched_at hown hlaid hlawful.1
      rw [hafter, Ledger.after_closes] at hlawful ⊢
      refine ih hlaid.advance (fun b hb => ?_) hlawful.2.2
      rcases List.mem_append.mp hb with hb | hb
      · obtain ⟨stage, hlt, hat⟩ := hbirths b hb
        exact ⟨stage, Nat.lt_succ_of_lt hlt, hat⟩
      · obtain ⟨stage, hstage, hat⟩ := exists_of_mem_of_forall₂ hstages hb
        obtain ⟨pid, _, rfl⟩ := List.mem_map.mp hstage
        exact ⟨_, Nat.lt_succ_self _, hat⟩

end Stage

namespace Job

theorem Trace.unread {own : Descriptor → Option Nat} (hown : Standing own) {job job' : Job}
    {log : List Event} (h : Trace job job' log) (hlawful : (Ledger.start own).Lawful log) :
    (Ledger.start own).Along Ledger.Unread log := by
  have hopens {answer : Except Errno (List Pipe)} {opened : List Event}
      (hopened : Opened [] (job.size - 1) answer opened) :
      (Ledger.start own).Along Ledger.Unread opened :=
    Ledger.along_unread_of_isWiring _ hopened.isWiring
  cases h with
  | unopened e hopened => exact hopens hopened
  | @started _ pipes turns opened started waited hopened hstarted hwaited hpids =>
      simp only [Ledger.lawful_append, Ledger.along_append] at hlawful ⊢
      obtain ⟨hbirths, hpipes, _⟩ :=
        hopened.laid (.nil _ 0 : Laid (.ofOwn own) 0 none [] (Ledger.start own).table) rfl hlawful.1
      refine ⟨hopens hopened, ?_, ?_⟩
      · refine hstarted.unread hown (hpipes pipes rfl) (fun b hb => ?_) hlawful.2.1
        rw [hbirths] at hb
        cases hb
      · exact Ledger.along_unread_of_isWait _ hwaited

/-- A builtin command writes to its pipe before any child that reads from the pipe is launched. So a
job never gets stuck on a full pipe just when no pipe has to take more bytes than it can hold. -/
theorem neverStuck_iff_queued_le {κ : Type} [Kernel κ] {registry : Registry (Console (Recorded κ))}
    (hmodest : registry.Modest) (job : Job) {own : Descriptor → Option Nat} (hown : Standing own)
    (capacity : Nat) (c : Console (Recorded κ)) :
    ∃ log, (execute registry job c).2.kernel.log = c.kernel.log ++ log ∧
      ((Ledger.start own).Lawful log → (Ledger.start own).Along Ledger.Unread log ∧
        ((Ledger.start own).Along Ledger.Accepts log →
          ((Ledger.start own).NeverStuck capacity log ↔
            ∀ pipe, (Ledger.start own).queued pipe log ≤ capacity))) := by
  obtain ⟨log, hlog, htrace⟩ := logs_execute hmodest job c
  refine ⟨log, hlog, fun hlawful => ⟨htrace.unread hown hlawful, fun haccepts => ?_⟩⟩
  exact Ledger.neverStuck_iff (htrace.unread hown hlawful) haccepts

/-- The help on 300 topics fits into a pipe. -/
theorem neverStuck_iff_queued_le_chatter : (Ledger.start customary).NeverStuck 65536
    (execute Registry.standard (chatter 299)
      ({ kernel := { kernel := {} } } : Console (Recorded Rehearsal))).2.kernel.log := by
  obtain ⟨log, hlog, hstuck⟩ := neverStuck_iff_queued_le Registry.modest_standard (chatter 299)
    standing_customary 65536 ({ kernel := { kernel := {} } } : Console (Recorded Rehearsal))
  rw [hlog, List.nil_append]
  rw [log_chatter, List.nil_append] at hlog
  obtain ⟨hlawful, haccepts⟩ := lawful_chatter 299
  rw [hlog] at hlawful haccepts
  refine ((hstuck hlawful).2 haccepts).mpr fun pipe => ?_
  rw [← hlog, queued_chatter]
  split
  · decide
  · exact Nat.zero_le _

/-- The help on 400 topics does not fit, and the shell gets stuck through no fault of the system. -/
theorem chatter_gets_stuck :
    let log := (execute Registry.standard (chatter 399)
      ({ kernel := { kernel := {} } } : Console (Recorded Rehearsal))).2.kernel.log
    (Ledger.start customary).Lawful log ∧ (Ledger.start customary).Along Ledger.Accepts log ∧
      ¬ (Ledger.start customary).NeverStuck 65536 log := by
  obtain ⟨log, hlog, htrace⟩ := logs_execute Registry.modest_standard (chatter 399)
    ({ kernel := { kernel := {} } } : Console (Recorded Rehearsal))
  replace hlog := (log_chatter 399).symm.trans hlog
  replace hlog : _ = log := hlog.trans (List.nil_append log)
  obtain ⟨hlawful, haccepts⟩ := lawful_chatter 399
  rw [log_chatter]
  refine ⟨hlawful, haccepts, fun hstuck => ?_⟩
  rw [hlog] at hlawful haccepts hstuck
  have hqueued := (Ledger.neverStuck_iff (htrace.unread standing_customary hlawful) haccepts).mp
    hstuck 0
  rw [← hlog, queued_chatter] at hqueued
  exact absurd hqueued (by decide)

end Job

end LineShell
