import LineShell.Pipeline.Task
import LineShell.Proofs.Builtin.Dialog

/-!
Properties of runs that hold of a whole because they hold of its steps. If doing one thing after
another keeps a property, it is enough to look at what commands are made of and, for output to the
console, at looking at the buffer, changing it, and writing to standard output.
-/

namespace LineShell

/-- The property is kept by doing one thing after another, and what the surroundings do has it. -/
structure Respected {σ : Type} [Environment σ] (P : ∀ {α : Type}, StateM σ α → Prop) : Prop where
  pure {α : Type} (a : α) : P (Pure.pure a : StateM σ α)
  bind {α β : Type} {m : StateM σ α} {f : α → StateM σ β} : P m → (∀ a, P (f a)) → P (m >>= f)
  put (q : Question) : P (q.put : StateM σ q.Answer)

/-- What holds of each step of a dialog holds of the whole. -/
theorem Dialog.hold_of_respected {σ α : Type} [Environment σ]
    {P : ∀ {α : Type}, StateM σ α → Prop} (h : Respected P) {call : Invocation σ}
    (hwrite : ∀ bytes, P (call.sink.write bytes)) (honward : P call.onward) (dialog : Dialog α) :
    P (dialog.hold call) := by
  induction dialog with
  | ended a => exact h.pure a
  | say bytes next ih => exact h.bind (hwrite bytes) ih
  | ask q next ih => exact h.bind (h.put q) ih
  | handOn next ih => exact h.bind honward ih

namespace Spoken

variable {σ : Type} [Environment σ]

theorem run_of_respected {P : ∀ {α : Type}, StateM σ α → Prop} (h : Respected P) {sink : Sink σ}
    (hwrite : ∀ bytes, P (sink.write bytes)) (hflush : P sink.flush) (commands : List Spoken)
    (argv : List String) : P ((registry commands).run sink argv) := by
  induction argv with
  | nil => exact h.pure none
  | cons name args ih =>
      rw [Registry.run, find?_registry]
      cases commands.find? (·.name = name) with
      | none => exact h.pure none
      | some command =>
          refine h.bind (Dialog.hold_of_respected h hwrite ih _) fun result => ?_
          refine h.bind hflush fun _ => h.bind ?_ fun _ => h.pure _
          cases result with
          | ok status => exact h.pure status
          | error e => exact h.bind (h.put (.complain e.report)) fun _ => h.pure _

end Spoken

/-! ### Output to the console -/

namespace Console

variable {κ : Type} [Kernel κ]

/-- The steps of output have the property, and it is kept by doing one thing after another. -/
structure Printing (P : ∀ {α : Type}, StateM (Console κ) α → Prop) : Prop where
  pure {α : Type} (a : α) : P (Pure.pure a : StateM (Console κ) α)
  bind {α β : Type} {m : StateM (Console κ) α} {f : α → StateM (Console κ) β} :
    P m → (∀ a, P (f a)) → P (m >>= f)
  look : P (get : StateM (Console κ) (Console κ))
  change (f : Console κ → Console κ) (h : ∀ c, (f c).kernel = c.kernel) :
    P (modify f : StateM (Console κ) Unit)
  write (bytes : Bytes) : P (call (Kernel.write Descriptor.output bytes))

/-- The property is respected, and the steps of output have it. -/
structure Respected (P : ∀ {α : Type}, StateM (Console κ) α → Prop) : Prop
    extends LineShell.Respected P where
  look : P (get : StateM (Console κ) (Console κ))
  change (f : Console κ → Console κ) (h : ∀ c, (f c).kernel = c.kernel) :
    P (modify f : StateM (Console κ) Unit)
  write (bytes : Bytes) : P (call (Kernel.write Descriptor.output bytes))

namespace Printing

variable {P : ∀ {α : Type}, StateM (Console κ) α → Prop} (h : Printing P)

include h

theorem bindExcept {ε α β : Type} {m : StateM (Console κ) (Except ε α)}
    {f : Except ε α → StateM (Console κ) β} (hm : P m) (hok : ∀ a, P (f (.ok a)))
    (herror : ∀ e, P (f (.error e))) : P (m >>= f) :=
  h.bind hm fun
    | .ok a => hok a
    | .error e => herror e

theorem flush : P (Console.flush (κ := κ)) := by
  refine h.bind h.look fun c => ?_
  dsimp only
  split
  · exact h.pure _
  · refine h.bindExcept (h.write _) (fun _ => ?_) fun _ => ?_
    · exact h.bind (h.change _ fun _ => rfl) fun _ => h.pure _
    · exact h.bind (h.change _ fun _ => rfl) fun _ => h.pure _

theorem writeThrough (bytes : Bytes) : P (Console.writeThrough (κ := κ) bytes) :=
  h.bindExcept (h.write bytes) (fun _ => h.pure _) fun _ => h.pure _

theorem append (bytes : Bytes) :
    P (Console.append (κ := κ) bytes >>= fun _ => Pure.pure (Except.ok () : Except Fault Unit)) :=
  h.bind (h.change _ fun _ => rfl) fun _ => h.pure _

theorem buffer (bytes : Bytes) : P (Console.buffer (κ := κ) bytes) := by
  refine h.bind h.look fun c => ?_
  dsimp only
  have hrest : P (α := Except Fault Unit)
      (if bufferCapacity ≤ bytes.length then Console.writeThrough bytes
      else Console.append bytes >>= fun _ => Pure.pure (.ok ())) := by
    split
    · exact h.writeThrough bytes
    · exact h.append bytes
  split
  · exact h.append bytes
  · split
    · exact h.bindExcept (h.pure _) (fun _ => hrest) fun _ => h.pure _
    · exact h.bindExcept h.flush (fun _ => hrest) fun _ => h.pure _

theorem print (bytes : Bytes) : P (Console.print (κ := κ) bytes) := by
  rcases hsplit : splitLines bytes with ⟨lines, tail⟩
  simp only [Console.print, hsplit]
  refine h.bind h.look fun c => ?_
  have htail := h.buffer tail
  split
  · split
    · exact h.bindExcept h.flush (fun _ => htail) fun _ => h.pure _
    · exact h.bindExcept (h.pure _) (fun _ => htail) fun _ => h.pure _
  · split
    · exact h.bindExcept (h.writeThrough lines) (fun _ => htail) fun _ => h.pure _
    · refine h.bindExcept (h.buffer lines) (fun _ => ?_) fun _ => ?_
      · exact h.bindExcept h.flush (fun _ => htail) fun _ => h.pure _
      · exact h.bindExcept (h.pure _) (fun _ => htail) fun _ => h.pure _

end Printing

namespace Respected

variable {P : ∀ {α : Type}, StateM (Console κ) α → Prop} (h : Respected P)

include h

theorem printing : Printing P where
  pure := h.pure
  bind := h.bind
  look := h.look
  change := h.change
  write := h.write

theorem flush : P (Console.flush (κ := κ)) := h.printing.flush

theorem print (bytes : Bytes) : P (Console.print (κ := κ) bytes) := h.printing.print bytes

/-- What holds of each step holds of every run of commands that are given by their dialogs. -/
theorem run (commands : List Spoken) (argv : List String) :
    P ((Spoken.registry commands).run standardOutput argv) :=
  Spoken.run_of_respected h.toRespected h.print h.flush commands argv

end Respected

end Console

end LineShell
