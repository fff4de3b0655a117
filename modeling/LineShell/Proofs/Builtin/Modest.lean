import LineShell.Proofs.Builtin.Respected
import LineShell.Proofs.Kernel.Recorded

/-!
Builtin commands leave descriptors and processes alone. All that one asks the system for is to write
to standard output, and every run of a registry of such commands is like that too.
-/

namespace LineShell

/-- All that the program asks for is to write to standard output. -/
def Modest {σ α : Type} [Recording σ] (m : StateM σ α) : Prop :=
  Logs m fun _ events => ∀ e ∈ events, e.IsOutput

namespace Modest

variable {σ κ α β : Type} [Recording σ]

theorem pure (a : α) : Modest (σ := σ) (Pure.pure a) := Logs.pure (by simp)

theorem bind {m : StateM σ α} {f : α → StateM σ β} (hm : Modest m) (hf : ∀ a, Modest (f a)) :
    Modest (m >>= f) := by
  refine Logs.bind hm fun a events hevents => ?_
  refine (hf a).mono fun b later hlater e he => ?_
  rcases List.mem_append.mp he with he | he
  · exact hevents e he
  · exact hlater e he

theorem of_log_eq {m : StateM σ α} (h : ∀ s, Recording.log (m s).2 = Recording.log s) :
    Modest m :=
  fun s => ⟨[], (h s).trans (List.append_nil _).symm, by simp⟩

theorem quietly (m : StateM κ α) : Modest (Console.call (Recorded.quietly m)) :=
  .call (.quietly m (by simp))

end Modest

namespace Console

variable {κ : Type} [Kernel κ]

theorem respected_modest : Respected (κ := Recorded κ) Modest where
  pure := .pure
  bind := .bind
  put q := by cases q <;> exact .quietly _
  look := .of_log_eq fun _ => rfl
  change _ h := .of_log_eq fun c => congrArg Recorded.log (h c)
  write _ := .call (.noting _ _ fun answer => by simp [Event.IsOutput])

theorem modest_flush : Modest (flush (κ := Recorded κ)) := respected_modest.flush

theorem modest_print (bytes : Bytes) : Modest (print (κ := Recorded κ) bytes) :=
  respected_modest.print bytes

end Console

/-! ### Commands -/

variable {σ κ : Type} [Recording σ]

/-- What the command is given to write with, and to run, is modest. -/
structure Invocation.Modest (call : Invocation σ) : Prop where
  write : ∀ bytes, LineShell.Modest (call.sink.write bytes)
  onward : LineShell.Modest call.onward

namespace Command

def Modest (command : Command σ) : Prop :=
  ∀ call : Invocation σ, call.Modest → LineShell.Modest (command.body call)

end Command

variable [Kernel κ]

theorem Spoken.modest (spoken : Spoken) :
    Command.Modest (σ := Console (Recorded κ)) spoken.command := fun _ hcall =>
  Dialog.hold_of_respected Console.respected_modest.toRespected hcall.write hcall.onward _

namespace Registry

def Modest (registry : Registry σ) : Prop := ∀ command ∈ registry.commands, command.Modest

theorem modest_spoken (commands : List Spoken) :
    Modest (σ := Console (Recorded κ)) (Spoken.registry commands) := by
  intro command hcommand
  obtain ⟨spoken, _, rfl⟩ := List.mem_map.mp hcommand
  exact spoken.modest

theorem modest_standard : Modest (σ := Console (Recorded κ)) .standard := by
  rw [← Spoken.registry_standard]
  exact modest_spoken _

theorem modest_conclude (result : Except Error Status) :
    LineShell.Modest (conclude (σ := Console (Recorded κ)) result) := by
  cases result with
  | ok status => exact .pure _
  | error e => exact .bind (.quietly _) fun _ => .pure _

theorem Modest.run {registry : Registry (Console (Recorded κ))} (h : registry.Modest)
    (argv : List String) : LineShell.Modest (registry.run Console.standardOutput argv) := by
  induction argv with
  | nil => exact .pure _
  | cons name args ih =>
      unfold Registry.run
      split
      · exact .pure _
      · rename_i command hfind
        have hmem : command ∈ registry.commands := List.mem_of_find?_eq_some hfind
        refine .bind (h command hmem _ ⟨Console.modest_print, ih⟩) fun result => ?_
        exact .bind Console.modest_flush fun _ => .bind (modest_conclude result) fun _ => .pure _

end Registry

end LineShell
