import LineShell.Proofs.Builtin.Respected
import LineShell.Proofs.Job.Turn

/-!
An input that the shell shares with its children. It has one position, and whoever reads takes what
those before have left. A job can only move the position on; and whatever it does to the standard
streams, a descriptor above them that stands for the input does so afterwards.
-/

namespace LineShell

/-- An input with a position in it. -/
structure SharedInput (σ : Type) where
  content : Bytes
  position : σ → Nat
  /-- The descriptor stands for the input. -/
  Reads : σ → Descriptor → Prop

namespace SharedInput

variable {σ κ α β : Type}

/-- What nobody has read. -/
def rest (input : SharedInput σ) (s : σ) : Bytes := input.content.drop (input.position s)

/-- A console has the input of its system. -/
def console (input : SharedInput κ) : SharedInput (Console κ) :=
  ⟨input.content, fun c => input.position c.kernel, fun c => input.Reads c.kernel⟩

/-- The program leaves the descriptor what it is and can only move on in the input. Its result is as
`Q` wants it. -/
def Spares (input : SharedInput σ) (d : Descriptor) (m : StateM σ α) (Q : α → Prop) : Prop :=
  ∀ s, input.Reads s d →
    input.Reads (m s).2 d ∧ input.position s ≤ input.position (m s).2 ∧ Q (m s).1

/-- The program does so whatever its result is. -/
abbrev Passes (input : SharedInput σ) (d : Descriptor) (m : StateM σ α) : Prop :=
  input.Spares d m fun _ => True

/-- What a system does about an input that is only ever read. Whatever the shell asks for, others may
read in the meantime, except while the shell itself reads. -/
structure Lawful [Kernel κ] (input : SharedInput κ) : Prop where
  position_le (s : κ) (d : Descriptor) : input.Reads s d → input.position s ≤ input.content.length
  /-- What is pending is what nobody has read. -/
  pending (s : κ) (d : Descriptor) : input.Reads s d →
    (Kernel.pending d s).1 = .ok (input.rest s) ∧ input.Reads (Kernel.pending d s).2 d ∧
      input.position (Kernel.pending d s).2 = input.position s
  skip (s : κ) (d : Descriptor) (count : Nat) : input.Reads s d → count ≤ (input.rest s).length →
    input.Reads (Kernel.skip d count s).2 d ∧
      input.position (Kernel.skip d count s).2 = input.position s + count
  /-- A descriptor that is kept stands for the same stream and is none of the standard streams. -/
  keep (s : κ) : input.Reads s Descriptor.input →
    input.position (Kernel.keep Descriptor.input s).2 = input.position s ∧
      ∀ d, (Kernel.keep Descriptor.input s).1 = .ok d →
        input.Reads (Kernel.keep Descriptor.input s).2 d ∧ Descriptor.output < d
  surroundings (d : Descriptor) (q : Question) : input.Passes d (q.put (σ := κ))
  /-- New descriptors are none of those in use. -/
  pipe (d : Descriptor) : input.Spares d Kernel.pipe fun answer =>
    ∀ ends, answer = .ok ends → ends.1 ≠ d ∧ ends.2 ≠ d
  duplicate (d other : Descriptor) : input.Spares d (Kernel.duplicate other) fun answer =>
    answer ≠ .ok d
  close (d other : Descriptor) : other ≠ d → input.Passes d (Kernel.close other)
  /-- A descriptor for the input can be given up without anything being read. -/
  release (s : κ) (d : Descriptor) : input.Reads s d →
    input.position (Kernel.close d s).2 = input.position s
  replace (d source target : Descriptor) : target ≠ d →
    input.Passes d (Kernel.replace source target)
  write (d other : Descriptor) (bytes : Bytes) : input.Passes d (Kernel.write other bytes)
  fork (d : Descriptor) (child : Child) : input.Passes d (Kernel.fork child)
  wait (d : Descriptor) (pid : Pid) : input.Passes d (Kernel.wait pid)

namespace Spares

variable {input : SharedInput σ} {d : Descriptor} {Q : α → Prop} {R : β → Prop}

theorem pure {a : α} (h : Q a) : input.Spares d (Pure.pure a) Q :=
  fun _ hs => ⟨hs, Nat.le_refl _, h⟩

theorem bind {m : StateM σ α} {f : α → StateM σ β} (hm : input.Spares d m Q)
    (hf : ∀ a, Q a → input.Spares d (f a) R) : input.Spares d (m >>= f) R := by
  intro s hs
  obtain ⟨hreads, hle, hresult⟩ := hm s hs
  obtain ⟨hreads', hle', hresult'⟩ := hf _ hresult _ hreads
  exact ⟨hreads', Nat.le_trans hle hle', hresult'⟩

theorem map {m : StateM σ α} {f : α → β} (h : input.Spares d m fun a => R (f a)) :
    input.Spares d (f <$> m) R :=
  h

theorem call {input : SharedInput κ} {m : StateM κ α} (h : input.Spares d m Q) :
    input.console.Spares d (Console.call m) Q :=
  fun c hc => h c.kernel hc

end Spares

namespace Passes

variable {input : SharedInput σ} {d : Descriptor}

theorem pure (a : α) : input.Passes d (Pure.pure a) := Spares.pure trivial

theorem bind {m : StateM σ α} {f : α → StateM σ β} (hm : input.Passes d m)
    (hf : ∀ a, input.Passes d (f a)) : input.Passes d (m >>= f) :=
  Spares.bind hm fun a _ => hf a

end Passes

theorem put_console [Kernel κ] (q : Question) :
    q.put (σ := Console κ) = Console.call (q.put (σ := κ)) := by
  cases q <;> rfl

namespace Lawful

variable [Kernel κ] {input : SharedInput κ} (h : input.Lawful) {d : Descriptor}

include h

theorem respected (d : Descriptor) :
    Console.Respected (κ := κ) fun m => input.console.Passes d m where
  pure := .pure
  bind := .bind
  put q := by
    rw [put_console]
    exact .call (h.surroundings d q)
  look := fun _ hc => ⟨hc, Nat.le_refl _, trivial⟩
  change f hf := fun c hc => by
    simp only [modify_apply, console, hf] at hc ⊢
    exact ⟨hc, Nat.le_refl _, trivial⟩
  write bytes := .call (h.write d _ bytes)

theorem passes_complain (text : String) :
    input.console.Passes d (Environment.complain (σ := Console κ) text) :=
  (h.respected d).put (.complain text)

/-! ### Pipes -/

theorem passes_closeAll {ds : List Descriptor} (hd : d ∉ ds) :
    input.Passes d (Pipe.closeAll (κ := κ) ds) := by
  induction ds with
  | nil => exact .pure _
  | cons other rest ih =>
      obtain ⟨hne, hrest⟩ := not_or.mp (mt List.mem_cons.mpr hd)
      exact .bind (h.close d other fun heq => hne heq.symm) fun _ => ih hrest

theorem spares_openAfter {made : List Pipe} (hmade : d ∉ made.flatMap Pipe.ends) (count : Nat) :
    input.Spares d (Pipe.openAfter (κ := κ) made count) fun answer =>
      ∀ pipes, answer = .ok pipes → d ∉ pipes.flatMap Pipe.ends := by
  induction count generalizing made with
  | zero =>
      refine .pure fun pipes heq => ?_
      obtain rfl := Except.ok.inj heq
      exact hmade
  | succ count ih =>
      refine .bind (h.pipe d) fun answer hanswer => ?_
      cases answer with
      | ok ends =>
          obtain ⟨hreader, hwriter⟩ := hanswer ends rfl
          refine ih ?_
          simpa [Pipe.ends, hmade] using ⟨hreader.symm, hwriter.symm⟩
      | error e => exact .bind (h.passes_closeAll hmade) fun _ _ => .pure (by simp)

/-! ### Streams -/

theorem spares_bindOne {source target : Descriptor} (htarget : target ≠ d) :
    input.Spares d (Streams.bindOne (κ := κ) source target) fun answer =>
      ∀ saved, answer = .ok saved → saved.target ≠ d ∧ saved.copy ≠ d := by
  refine .bind (h.duplicate d target) fun answer hanswer => ?_
  cases answer with
  | error e => exact .pure (by simp)
  | ok copy =>
      have hcopy : copy ≠ d := fun heq => hanswer (by rw [heq])
      refine .bind (h.replace d source target htarget) fun answer _ => ?_
      cases answer with
      | ok _ =>
          refine .pure fun saved heq => ?_
          obtain rfl := Except.ok.inj heq
          exact ⟨htarget, hcopy⟩
      | error e => exact .bind (h.close d copy hcopy) fun _ _ => .pure (by simp)

/-- Whatever is to be put back is not the descriptor, and neither is what it is kept in. -/
theorem spares_bindAfter {saved : List Saved} {bindings : List (Descriptor × Descriptor)}
    (hsaved : ∀ s ∈ saved, s.target ≠ d ∧ s.copy ≠ d) (htargets : ∀ b ∈ bindings, b.2 ≠ d) :
    input.Spares d (Streams.bindAfter (κ := κ) saved bindings) fun answer =>
      ∀ s ∈ answer.2, s.target ≠ d ∧ s.copy ≠ d := by
  induction bindings generalizing saved with
  | nil => exact .pure hsaved
  | cons binding rest ih =>
      obtain ⟨htarget, hrest⟩ := List.forall_mem_cons.mp htargets
      refine .bind (h.spares_bindOne htarget) fun answer hanswer => ?_
      cases answer with
      | ok s => exact ih (List.forall_mem_cons.mpr ⟨hanswer s rfl, hsaved⟩) hrest
      | error e => exact .pure hsaved

theorem passes_restore {saved : List Saved} (hsaved : ∀ s ∈ saved, s.target ≠ d ∧ s.copy ≠ d) :
    input.Passes d (Streams.restore (κ := κ) saved) := by
  induction saved with
  | nil => exact .pure _
  | cons s earlier ih =>
      obtain ⟨⟨htarget, hcopy⟩, hearlier⟩ := List.forall_mem_cons.mp hsaved
      refine .bind (h.replace d s.copy s.target htarget) fun _ => ?_
      exact .bind (h.close d s.copy hcopy) fun _ => ih hearlier

theorem passes_within {action : StateM (Console κ) α} (haction : input.console.Passes d action)
    (hd : Descriptor.output < d) (streams : Streams) :
    input.console.Passes d (streams.within action) := by
  have htargets : ∀ b ∈ streams.bindings, b.2 ≠ d := fun b hb => by
    rcases Streams.target_eq hb with heq | heq
    · rw [heq]
      exact Nat.ne_of_lt (Nat.lt_trans Nat.zero_lt_one hd)
    · rw [heq]
      exact Nat.ne_of_lt hd
  refine .bind (h.respected d).flush fun _ => ?_
  refine Spares.bind (.call (h.spares_bindAfter (by simp) htargets)) fun answer hsaved => ?_
  obtain ⟨bound, saved⟩ := answer
  have hend (result : Except Errno α) : input.console.Passes d (do
      let _ ← Console.flush
      Console.call (Streams.restore saved)
      return result) :=
    .bind (h.respected d).flush fun _ =>
      .bind (.call (h.passes_restore hsaved)) fun _ => .pure _
  cases bound with
  | ok _ => exact Passes.bind haction fun a => hend (.ok a)
  | error e => exact hend (.error e)

/-! ### Jobs -/

variable {registry : Registry (Console κ)}
  (hcommands : ∀ argv, input.console.Passes d (registry.run Console.standardOutput argv))
  (hd : Descriptor.output < d)

include hcommands hd

theorem passes_turn (streams : Streams) (held : List Descriptor) (argv : List String) :
    input.console.Passes d (Task.turn registry streams held argv) := by
  cases argv with
  | nil => exact .bind (h.passes_complain _) fun _ => .pure _
  | cons program args =>
      rw [Task.turn]
      split
      · refine .bind (h.passes_within (hcommands _) hd streams) fun answer => ?_
        cases answer with
        | ok status => exact .pure _
        | error e => exact .bind (h.passes_complain _) fun _ => .pure _
      · rw [Task.launch]
        split
        · exact .bind (h.passes_complain _) fun _ => .pure _
        · refine .bind (h.respected d).flush fun _ => ?_
          refine .bind (.call (h.fork d _)) fun answer => ?_
          cases answer with
          | ok pid => exact .pure _
          | error e => exact .pure _

theorem passes_turns {input' : Option Descriptor} {pipes : List Pipe}
    (hends : d ∉ Pipe.endsFrom input' pipes) (argvs : List (List String)) :
    input.console.Passes d (Job.turns registry input' pipes argvs) := by
  induction argvs generalizing input' pipes with
  | nil => exact .bind (.call (h.passes_closeAll hends)) fun _ => .pure _
  | cons argv rest ih =>
      -- The ends of a task and those that it leaves are all ends that the shell holds.
      have hused : d ∉ (Streams.first input' pipes).ends := by
        cases pipes <;> simp_all [Pipe.endsFrom, Streams.first, Streams.ends, Pipe.ends]
      have hleft : d ∉ Pipe.left pipes := by
        cases pipes <;> simp_all [Pipe.left, Pipe.endsFrom, Pipe.ends]
      refine .bind (h.passes_turn hcommands hd _ _ argv) fun turn => ?_
      refine .bind (.call (h.passes_closeAll hused)) fun _ => ?_
      split
      · exact .bind (.call (h.passes_closeAll hleft)) fun _ => .pure _
      · exact .bind (ih hleft) fun _ => .pure _

omit hcommands hd in
theorem passes_reap (tasks : List Task) : input.Passes d (Job.reap (κ := κ) tasks) := by
  induction tasks with
  | nil => exact .pure _
  | cons task rest ih =>
      have hend (task : Task) : input.Passes d (do return task :: (← Job.reap (κ := κ) rest)) :=
        .bind ih fun _ => .pure _
      rw [Job.reap]
      split
      · exact hend task
      · refine Passes.bind (h.wait d _) fun replies => ?_
        split
        · exact hend _
        · exact hend _

/-- Whatever a job does, it leaves the descriptor what it is and can only move on in the input. -/
theorem passes_execute (job : Job) : input.console.Passes d (job.execute registry) := by
  refine Spares.bind (.call (h.spares_openAfter (by simp) _)) fun answer hpipes => ?_
  cases answer with
  | error e => exact Passes.pure _
  | ok pipes =>
      have hends : d ∉ Pipe.endsFrom none pipes := by
        simpa [Pipe.endsFrom] using hpipes pipes rfl
      dsimp only
      rw [Job.start_eq_turns]
      refine Passes.bind (.map (h.passes_turns hcommands hd hends _)) fun answer => ?_
      obtain ⟨result, tasks⟩ := answer
      cases result with
      | error e => exact Passes.pure _
      | ok terminated => exact Passes.bind (.call (h.passes_reap tasks)) fun _ => Passes.pure _

end Lawful

end SharedInput

end LineShell
