import LineShell.Proofs.Console.Emitted
import LineShell.Proofs.Kernel.Ledger

/-!
What a record brings about outside the shell: each byte that gets to a stream, and each program that
is launched, in order.
-/

namespace LineShell

inductive Effect where
  /-- A byte gets to the stream that a descriptor stands for. -/
  | delivered (port : Option Port) (byte : UInt8)
  | launched (argv : List String)
  deriving DecidableEq

namespace Effect

def IsDelivery : Effect → Bool
  | delivered .. => true
  | launched _ => false

/-- Bytes that get to a stream. -/
def deliveries (port : Option Port) (bytes : Bytes) : List Effect := bytes.map (delivered port)

@[simp] theorem deliveries_nil (port : Option Port) : deliveries port [] = [] := rfl

@[simp] theorem deliveries_append (port : Option Port) (bytes later : Bytes) :
    deliveries port (bytes ++ later) = deliveries port bytes ++ deliveries port later :=
  List.map_append

@[simp] theorem filter_deliveries (port : Option Port) (bytes : Bytes) :
    (deliveries port bytes).filter IsDelivery = deliveries port bytes := by
  simp [deliveries, List.filter_eq_self, IsDelivery]

/-- What is in a buffer is meant for one stream, and what is said then for another. Unless the buffer
is empty when the streams change, the streams have to be the same. -/
theorem deliveries_through {own port : Option Port} {start first said last sent sent' : Bytes}
    (hfirst : sent ++ first = start) (hkept : (sent' ++ last).Sublist (first ++ said))
    (hport : (first = [] ∧ last = []) ∨ port = own) :
    (deliveries own sent ++ deliveries port sent' ++ deliveries own last).Sublist
      (deliveries own start ++ deliveries port said) := by
  rcases hport with ⟨rfl, rfl⟩ | rfl
  · rw [List.append_nil] at hfirst hkept
    rw [hfirst, deliveries_nil, List.append_nil]
    exact (hkept.map _).append_left _
  · simp only [← deliveries_append, ← hfirst, List.append_assoc]
    exact (hkept.append_left sent).map _

end Effect

namespace Ledger

def effects (l : Ledger) : Event → List Effect
  | .wrote d bytes answer => Effect.deliveries (l.table d) (Event.wrote d bytes answer).written
  | .forked child (.ok _) => [.launched child.argv]
  | _ => []

/-- What events bring about, one after another. -/
def flow : Ledger → List Event → List Effect
  | _, [] => []
  | l, e :: later => l.effects e ++ flow (l.record e) later

@[simp] theorem flow_nil (l : Ledger) : l.flow [] = [] := rfl

@[simp] theorem flow_append (l : Ledger) (events later : List Event) :
    l.flow (events ++ later) = l.flow events ++ (l.after events).flow later := by
  induction events generalizing l with
  | nil => rfl
  | cons e rest ih => simp [flow, ih]

theorem flow_of_isOutput (l : Ledger) {events : List Event} (h : ∀ e ∈ events, e.IsOutput) :
    l.flow events = Effect.deliveries (l.table Descriptor.output) (written events) := by
  induction events with
  | nil => rfl
  | cons e rest ih =>
      obtain ⟨he, hrest⟩ := List.forall_mem_cons.mp h
      rw [flow, l.record_of_isOutput he, ih hrest]
      obtain ⟨bytes, answer, rfl⟩ := he
      exact (Effect.deliveries_append ..).symm

theorem flow_of_isWiring (l : Ledger) {events : List Event} (h : ∀ e ∈ events, e.IsWiring) :
    l.flow events = [] := by
  induction events generalizing l with
  | nil => rfl
  | cons e rest ih =>
      obtain ⟨he, hrest⟩ := List.forall_mem_cons.mp h
      rw [flow, ih _ hrest, List.append_nil]
      cases e with
      | wrote => exact he.elim
      | forked => exact he.elim
      | _ => rfl

theorem flow_of_isWait (l : Ledger) {events : List Event} (h : ∀ e ∈ events, e.IsWait) :
    l.flow events = [] := by
  induction events generalizing l with
  | nil => rfl
  | cons e rest ih =>
      obtain ⟨⟨pid, rfl⟩, hrest⟩ := List.forall_mem_cons.mp h
      exact ih _ hrest

end Ledger

namespace Console

variable {κ : Type}

/-- The ledger of a shell whose own descriptors stood for the streams in `own` at first. -/
def ledger (own : Descriptor → Option Nat) (c : Console (Recorded κ)) : Ledger :=
  (Ledger.start own).after c.kernel.log

theorem ledger_of_log {own : Descriptor → Option Nat} {c c' : Console (Recorded κ)}
    {events : List Event} (h : c'.kernel.log = c.kernel.log ++ events) :
    c'.ledger own = (c.ledger own).after events := by
  rw [ledger, h, Ledger.after_append, ledger]

end Console

end LineShell
