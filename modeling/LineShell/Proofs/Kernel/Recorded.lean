import LineShell.Builtin
import LineShell.Builtin.Scripted
import LineShell.Pipeline.Task
import LineShell.Proofs.State

/-!
Any system, with a record of what the shell asked of it about descriptors and processes. What a
program does to the shell's surroundings and to files goes unrecorded.
-/

namespace LineShell

/-- What the shell asked for, and the answer. -/
inductive Event where
  | piped (answer : Except Errno (Descriptor × Descriptor))
  | closed (d : Descriptor)
  | duplicated (d : Descriptor) (answer : Except Errno Descriptor)
  | replaced (source target : Descriptor) (answer : Except Errno Unit)
  | wrote (d : Descriptor) (bytes : Bytes) (answer : Except (Nat × Errno) Unit)
  | forked (child : Child) (answer : Except Errno Pid)
  | waited (pid : Pid)

namespace Event

/-- The shell wrote to its standard output. -/
def IsOutput (e : Event) : Prop := ∃ bytes answer, e = wrote Descriptor.output bytes answer

def IsWait (e : Event) : Prop := ∃ pid, e = waited pid

/-- The shell did nothing but open, close or replace descriptors. -/
def IsWiring : Event → Prop
  | piped _ | closed _ | duplicated _ _ | replaced _ _ _ => True
  | _ => False

theorem IsOutput.not_isWait {e : Event} (h : e.IsOutput) : ¬ e.IsWait := by
  obtain ⟨bytes, answer, rfl⟩ := h
  simp [IsWait]

theorem IsWiring.not_isWait {e : Event} (h : e.IsWiring) : ¬ e.IsWait := by
  rintro ⟨pid, rfl⟩
  exact h

end Event

/-- The record of closing descriptors one after another. -/
def closes (ds : List Descriptor) : List Event := ds.map .closed

structure Recorded (κ : Type) where
  kernel : κ
  log : List Event := []

namespace Recorded

variable {κ α : Type}

def quietly (m : StateM κ α) : StateM (Recorded κ) α := fun r =>
  let (a, kernel) := m r.kernel
  (a, { r with kernel := kernel })

def noting (event : α → Event) (m : StateM κ α) : StateM (Recorded κ) α := fun r =>
  let (a, kernel) := m r.kernel
  (a, ⟨kernel, r.log ++ [event a]⟩)

instance [Environment κ] : Environment (Recorded κ) where
  currentDirectory := quietly Environment.currentDirectory
  changeDirectory path := quietly (Environment.changeDirectory path)
  value? name := quietly (Environment.value? name)
  setVariable name value := quietly (Environment.setVariable name value)
  accountHome? := quietly Environment.accountHome?
  complain text := quietly (Environment.complain text)
  readInput := quietly Environment.readInput

instance [Kernel κ] : Kernel (Recorded κ) where
  pipe := noting .piped Kernel.pipe
  close d := noting (fun _ => .closed d) (Kernel.close d)
  duplicate d := noting (.duplicated d) (Kernel.duplicate d)
  keep d := noting (.duplicated d) (Kernel.keep d)
  replace source target := noting (.replaced source target) (Kernel.replace source target)
  write d bytes := noting (.wrote d bytes) (Kernel.write d bytes)
  fork child := noting (.forked child) (Kernel.fork child)
  wait pid := noting (fun _ => .waited pid) (Kernel.wait pid)
  pending d := quietly (Kernel.pending d)
  skip d count := quietly (Kernel.skip d count)
  openFile path := quietly (Kernel.openFile path)
  openLog path := quietly (Kernel.openLog path)
  saveFile path bytes := quietly (Kernel.saveFile path bytes)

end Recorded

/-! ### What a program adds to the record -/

/-- A state that has a record of events. -/
class Recording (σ : Type) where
  log : σ → List Event

instance {κ : Type} : Recording (Recorded κ) := ⟨Recorded.log⟩

instance {κ : Type} [Recording κ] : Recording (Console κ) := ⟨fun c => Recording.log c.kernel⟩

/-- Every run of the program adds events to the record that are related to its result by `P`. -/
def Logs {σ α : Type} [Recording σ] (m : StateM σ α) (P : α → List Event → Prop) : Prop :=
  ∀ s, ∃ events, Recording.log (m s).2 = Recording.log s ++ events ∧ P (m s).1 events

namespace Logs

variable {σ κ α β : Type} [Recording σ] {m : StateM σ α} {P : α → List Event → Prop}
  {Q : β → List Event → Prop}

theorem mono {P' : α → List Event → Prop} (h : Logs m P)
    (himp : ∀ a events, P a events → P' a events) : Logs m P' := by
  intro s
  obtain ⟨events, hlog, hevents⟩ := h s
  exact ⟨events, hlog, himp _ _ hevents⟩

theorem pure {a : α} (h : P a []) : Logs (σ := σ) (Pure.pure a) P :=
  fun s => ⟨[], by simp, h⟩

theorem bind {f : α → StateM σ β} (hm : Logs m P)
    (hf : ∀ a events, P a events → Logs (f a) fun b later => Q b (events ++ later)) :
    Logs (m >>= f) Q := by
  intro s
  obtain ⟨events, hlog, hevents⟩ := hm s
  obtain ⟨later, hlog', hlater⟩ := hf _ _ hevents (m s).2
  exact ⟨events ++ later, by rw [bind_apply, hlog', hlog, List.append_assoc], hlater⟩

theorem map {f : α → β} (h : Logs m fun a events => Q (f a) events) : Logs (f <$> m) Q :=
  fun s => h s

theorem call [Recording κ] {m : StateM κ α} (h : Logs m P) : Logs (Console.call m) P :=
  fun c => h c.kernel

theorem quietly (m : StateM κ α) (h : ∀ a, P a []) : Logs (Recorded.quietly m) P :=
  fun r => ⟨[], (List.append_nil r.log).symm, h _⟩

theorem noting (event : α → Event) (m : StateM κ α) (h : ∀ a, P a [event a]) :
    Logs (Recorded.noting event m) P :=
  fun _ => ⟨[event _], rfl, h _⟩

end Logs

end LineShell
