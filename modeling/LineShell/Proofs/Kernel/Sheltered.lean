import LineShell.Proofs.Builtin.Respected
import LineShell.Proofs.Kernel.Recorded
import LineShell.Proofs.Rehearsal
import LineShell.Proofs.Surroundings
import LineShell.Pipeline

/-!
The directory and the variables of a process are its own. What it does with its descriptors, and what
it has other processes do, leaves them alone; and through descriptors it changes nothing of what names
mean either. So most of what the shell does can be passed over when it is told where the shell is.
-/

namespace LineShell

/-! ### Steps that leave a part of the state alone -/

/-- A part of the state stays as it is from the one state to the other, and the record only grows. -/
structure Stays {σ γ : Type} [Recording σ] (part : σ → γ) (s s' : σ) : Prop where
  part : part s' = part s
  log : Recording.log s <+: Recording.log s'

namespace Stays

variable {σ γ γ' : Type} [Recording σ] {part : σ → γ} {s s' s'' : σ}

theorem refl (part : σ → γ) (s : σ) : Stays part s s := ⟨rfl, List.prefix_rfl⟩

theorem trans (h : Stays part s s') (h' : Stays part s' s'') : Stays part s s'' :=
  ⟨h'.part.trans h.part, h.log.trans h'.log⟩

/-- What is told by a part that stays as it is stays as it is. -/
theorem map (h : Stays part s s') (f : γ → γ') : Stays (fun s => f (part s)) s s' :=
  ⟨congrArg f h.part, h.log⟩

end Stays

/-- The program leaves the part alone, and takes nothing from the record. -/
def Leaves {σ γ α : Type} [Recording σ] (part : σ → γ) (m : StateM σ α) : Prop :=
  ∀ s, Stays part s (m s).2

namespace Leaves

variable {σ κ γ γ' α β : Type} [Recording σ] {part : σ → γ}

theorem pure (a : α) : Leaves part (Pure.pure a : StateM σ α) := .refl part

theorem bind {m : StateM σ α} {f : α → StateM σ β} (hm : Leaves part m)
    (hf : ∀ a, Leaves part (f a)) : Leaves part (m >>= f) :=
  fun s => (hm s).trans (hf (m s).1 (m s).2)

theorem map {m : StateM σ α} (h : Leaves part m) (f : γ → γ') :
    Leaves (fun s => f (part s)) m :=
  fun s => (h s).map f

theorem call [Recording κ] {part : κ → γ} {m : StateM κ α} (h : Leaves part m) :
    Leaves (fun c : Console κ => part c.kernel) (Console.call m) :=
  fun c => ⟨(h c.kernel).part, (h c.kernel).log⟩

theorem quietly {part : κ → γ} {m : StateM κ α} (h : ∀ s, part (m s).2 = part s) :
    Leaves (fun r : Recorded κ => part r.kernel) (Recorded.quietly m) :=
  fun r => ⟨h r.kernel, List.prefix_rfl⟩

theorem noting {part : κ → γ} {m : StateM κ α} (h : ∀ s, part (m s).2 = part s)
    (event : α → Event) :
    Leaves (fun r : Recorded κ => part r.kernel) (Recorded.noting event m) :=
  fun r => ⟨h r.kernel, List.prefix_append ..⟩

end Leaves

/-! ### What the shell does with descriptors and processes -/

section Calls

variable {κ γ : Type} [Kernel κ] [Recording κ] {part : κ → γ}

namespace Pipe

theorem leaves_closeAll (hclose : ∀ d, Leaves part (Kernel.close d)) (ds : List Descriptor) :
    Leaves part (closeAll ds) := by
  induction ds with
  | nil => exact .pure ()
  | cons d rest ih => exact .bind (hclose d) fun _ => ih

theorem leaves_openAfter (hpipe : Leaves part Kernel.pipe)
    (hclose : ∀ d, Leaves part (Kernel.close d)) (made : List Pipe) (count : Nat) :
    Leaves part (openAfter made count) := by
  induction count generalizing made with
  | zero => exact .pure _
  | succ count ih =>
      refine .bind hpipe fun
        | .ok (reader, writer) => ih _
        | .error e => .bind (leaves_closeAll hclose _) fun _ => .pure _

end Pipe

namespace Streams

variable (hduplicate : ∀ d, Leaves part (Kernel.duplicate d))
  (hreplace : ∀ source target, Leaves part (Kernel.replace source target))
  (hclose : ∀ d, Leaves part (Kernel.close d))

include hreplace hclose

theorem leaves_restore (saved : List Saved) : Leaves part (restore saved) := by
  induction saved with
  | nil => exact .pure ()
  | cons s earlier ih =>
      exact .bind (hreplace _ _) fun _ => .bind (hclose _) fun _ => ih

include hduplicate

theorem leaves_bindOne (source target : Descriptor) : Leaves part (bindOne source target) :=
  .bind (hduplicate target) fun
    | .error _ => .pure _
    | .ok copy => .bind (hreplace source target) fun
      | .ok () => .pure _
      | .error _ => .bind (hclose copy) fun _ => .pure _

theorem leaves_bindAfter (saved : List Saved) (bindings : List (Descriptor × Descriptor)) :
    Leaves part (bindAfter saved bindings) := by
  induction bindings generalizing saved with
  | nil => exact .pure _
  | cons binding rest ih =>
      exact .bind (leaves_bindOne hduplicate hreplace hclose _ _) fun
        | .ok s => ih _
        | .error e => .pure _

end Streams

theorem Job.leaves_reap (hwait : ∀ pid, Leaves part (Kernel.wait pid)) (tasks : List Task) :
    Leaves part (reap tasks) := by
  induction tasks with
  | nil => exact .pure []
  | cons task rest ih =>
      have hend (task' : Task) : Leaves (σ := κ) part (do return task' :: (← reap rest)) :=
        .bind ih fun _ => .pure _
      rw [reap]
      split
      · exact .bind (.pure task) hend
      · refine .bind (hwait _) fun replies => ?_
        cases Wait.settle replies with
        | ok status => exact .bind (.pure _) hend
        | error _ => exact .bind (.pure _) hend

/-- If writing leaves a part of the system alone, so do the console's ways of output. -/
theorem Console.printing_leaves (hwrite : ∀ bytes, Leaves part (Kernel.write Descriptor.output bytes)) :
    Printing (κ := κ) (Leaves fun c => part c.kernel) where
  pure := .pure
  bind := .bind
  look := .refl _
  change f h c := ⟨congrArg part (h c), by
    show Recording.log c.kernel <+: Recording.log (f c).kernel
    rw [h c]⟩
  write bytes := .call (hwrite bytes)

end Calls

/-! ### What a process is sheltered from -/

/-- What belongs to the process alone: its directory and its variables. -/
def Surroundings.own {δ ρ : Type} (v : Surroundings δ ρ) : δ × (String → Option SystemText) :=
  (v.directory, v.settings)

/-- What a process does with its descriptors changes nothing around it. What other processes do while
it starts one, waits for one or reads what one has written changes neither its directory nor its
variables. -/
structure Sheltered {κ δ ρ : Type} [Kernel κ] (view : κ → Surroundings δ ρ) : Prop where
  complain : ∀ text s, view (Environment.complain text s).2 = view s
  pipe : ∀ s, view (Kernel.pipe s).2 = view s
  close : ∀ d s, view (Kernel.close d s).2 = view s
  duplicate : ∀ d s, view (Kernel.duplicate d s).2 = view s
  replace : ∀ source target s, view (Kernel.replace source target s).2 = view s
  write : ∀ d bytes s, view (Kernel.write d bytes s).2 = view s
  readInput : ∀ s, (view (Environment.readInput s).2).own = (view s).own
  fork : ∀ child s, (view (Kernel.fork child s).2).own = (view s).own
  wait : ∀ pid s, (view (Kernel.wait pid s).2).own = (view s).own

section Around

variable {κ δ ρ : Type}

/-- What the shell finds around it. -/
def around (view : κ → Surroundings δ ρ) (c : Console (Recorded κ)) : Surroundings δ ρ :=
  view c.kernel.kernel

/-- The directory of the shell and its variables. -/
def ownAround (view : κ → Surroundings δ ρ) (c : Console (Recorded κ)) :
    δ × (String → Option SystemText) :=
  (around view c).own

theorem Recorded.quietly_apply {α : Type} (m : StateM κ α) (r : Recorded κ) :
    quietly m r = ((m r.kernel).1, { r with kernel := (m r.kernel).2 }) := rfl

variable [Kernel κ] {naming : Naming δ ρ} {view : κ → Surroundings δ ρ}

theorem Naming.Governs.recorded (h : naming.Governs view) :
    naming.Governs fun r : Recorded κ => view r.kernel where
  currentDirectory r :=
    (Recorded.quietly_apply Environment.currentDirectory r).trans (by rw [h.currentDirectory])
  value? name r := (Recorded.quietly_apply (Environment.value? name) r).trans (by rw [h.value?])
  accountHome? r :=
    (Recorded.quietly_apply Environment.accountHome? r).trans (by rw [h.accountHome?])
  changeDirectory path r := h.changeDirectory path r.kernel
  setVariable name value r := h.setVariable name value r.kernel

theorem Naming.Governs.around (h : naming.Governs view) : naming.Governs (LineShell.around view) :=
  h.recorded.console

namespace Sheltered

variable (h : Sheltered view) {α : Type}

include h

theorem leaves_complain (text : String) :
    Leaves (around view) (Environment.complain text : StateM (Console (Recorded κ)) Unit) :=
  .call (.quietly (h.complain text))

theorem leaves_close (d : Descriptor) :
    Leaves (fun r : Recorded κ => view r.kernel) (Kernel.close d) :=
  .noting (h.close d) _

theorem leaves_closeAll (ds : List Descriptor) :
    Leaves (around view) (Console.call (Pipe.closeAll ds)) :=
  .call (Pipe.leaves_closeAll h.leaves_close ds)

theorem leaves_openMany (count : Nat) :
    Leaves (around view) (Console.call (Pipe.openMany count)) :=
  .call (Pipe.leaves_openAfter (.noting h.pipe _) h.leaves_close [] count)

theorem leaves_bindAfter (bindings : List (Descriptor × Descriptor)) :
    Leaves (around view) (Console.call (Streams.bindAfter [] bindings)) :=
  .call (Streams.leaves_bindAfter (fun d => .noting (h.duplicate d) _)
    (fun source target => .noting (h.replace source target) _) h.leaves_close [] bindings)

theorem leaves_restore (saved : List Saved) :
    Leaves (around view) (Console.call (Streams.restore saved)) :=
  .call (Streams.leaves_restore (fun source target => .noting (h.replace source target) _)
    h.leaves_close saved)

theorem leaves_fork (child : Child) :
    Leaves (ownAround view) (Console.call (Kernel.fork child)) :=
  fun c => ⟨h.fork child c.kernel.kernel, List.prefix_append ..⟩

theorem leaves_reap (tasks : List Task) :
    Leaves (ownAround view) (Console.call (Job.reap tasks)) := by
  have hwait (pid : Pid) :
      Leaves (fun r : Recorded κ => (view r.kernel).own) (Kernel.wait pid) :=
    fun r => ⟨h.wait pid r.kernel, List.prefix_append ..⟩
  have hreap := (Job.leaves_reap hwait tasks).call
  exact hreap

theorem printing : Console.Printing (κ := Recorded κ) (Leaves (around view)) :=
  Console.printing_leaves fun bytes => .noting (h.write Descriptor.output bytes) _

theorem leaves_flush : Leaves (around view) Console.flush := h.printing.flush

theorem leaves_print (bytes : Bytes) : Leaves (around view) (Console.print bytes) :=
  h.printing.print bytes

end Sheltered

end Around

/-! ### A system on which all goes well -/

namespace Rehearsal

/-- What the shell finds around it; all else is that other processes come and go. -/
def surroundings (r : Rehearsal) : Surroundings SystemText Pid where
  directory := r.directory
  settings := fun name => r.settings.lookup name
  others := r.lastPid

/-- Every directory is there, and has the name that leads to it. -/
def naming : Naming SystemText Pid where
  nameOf _ d := .ok d
  find _ _ path := .ok path
  account _ := none

theorem governs_surroundings : naming.Governs surroundings where
  currentDirectory _ := rfl
  value? _ _ := rfl
  accountHome? _ := rfl
  changeDirectory _ _ := rfl
  setVariable name value r := by
    refine Prod.ext rfl (congrArg (Surroundings.mk r.directory · r.lastPid) (funext fun other => ?_))
    by_cases hname : other = name
    · simp [Environment.setVariable, hname]
    · have hbeq : (other == name) = false := by simpa using hname
      simp [Environment.setVariable, hname, List.lookup_cons, hbeq, surroundings]

theorem sheltered_surroundings : Sheltered surroundings where
  complain _ _ := rfl
  pipe _ := rfl
  close _ _ := rfl
  duplicate _ _ := rfl
  replace _ _ _ := rfl
  write _ _ _ := rfl
  readInput _ := rfl
  fork _ _ := rfl
  wait _ _ := rfl

end Rehearsal

end LineShell
