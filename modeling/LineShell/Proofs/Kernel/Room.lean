import LineShell.Proofs.Kernel.Ledger
import Mathlib.Data.List.Induction

/-!
Room in the pipes, by a record. The shell gets stuck when it writes into a pipe more than fits and
nobody is there to read; a pipe that nobody reads only fills.
-/

namespace LineShell

namespace Ledger

/-- A child that reads from the pipe has been launched. -/
def Reads (l : Ledger) (pipe : Nat) : Prop :=
  ∃ b ∈ l.births, b.settled Descriptor.input = some (.reader pipe)

/-- How many bytes an event puts into a pipe. -/
def poured (l : Ledger) (pipe : Nat) : Event → Nat
  | .wrote d bytes answer =>
      if l.table d = some (.writer pipe) then
        match answer with
        | .ok () => bytes.length
        | .error (count, _) => count
      else 0
  | _ => 0

/-- How many bytes the shell has put into a pipe by the end of a record. -/
def queued (pipe : Nat) : Ledger → List Event → Nat
  | _, [] => 0
  | l, e :: later => l.poured pipe e + queued pipe (l.record e) later

/-- Whenever the shell writes into a pipe, what is in the pipe then fits, or a child that reads from
the pipe has been launched. -/
def NeverStuck (capacity : Nat) (l : Ledger) (log : List Event) : Prop :=
  ∀ before d bytes answer later, log = before ++ .wrote d bytes answer :: later →
    ∀ pipe, (l.after before).table d = some (.writer pipe) →
      (l.after before).Reads pipe ∨ l.queued pipe before + bytes.length ≤ capacity

/-- Nobody but the shell has the reading end of a pipe that it writes to. -/
def Unread (l : Ledger) : Event → Prop
  | .wrote d _ _ => ∀ pipe, l.table d = some (.writer pipe) →
      ¬ l.Reads pipe ∧ ∃ r, l.table r = some (.reader pipe)
  | _ => True

/-- A write into a pipe with an open reading end does not fail, although it may have to wait. -/
def Accepts (l : Ledger) : Event → Prop
  | .wrote d _ answer => ∀ pipe r, l.table d = some (.writer pipe) →
      l.table r = some (.reader pipe) → answer = .ok ()
  | _ => True

theorem along_unread_of_isWiring (l : Ledger) {events : List Event}
    (h : ∀ e ∈ events, e.IsWiring) : l.Along Unread events := by
  refine along_of_forall (fun e he l => ?_) l
  cases e with
  | wrote d bytes answer => exact (h _ he).elim
  | _ => trivial

theorem along_unread_of_isWait (l : Ledger) {events : List Event} (h : ∀ e ∈ events, e.IsWait) :
    l.Along Unread events := by
  refine along_of_forall (fun e he l => ?_) l
  obtain ⟨pid, rfl⟩ := h e he
  trivial

theorem queued_append (pipe : Nat) (l : Ledger) (events later : List Event) :
    l.queued pipe (events ++ later) =
      l.queued pipe events + (l.after events).queued pipe later := by
  induction events generalizing l with
  | nil => simp [queued]
  | cons e rest ih => simp [queued, ih, Nat.add_assoc]

/-- A write into a pipe that nobody reads puts all of its bytes there. -/
theorem poured_of_unread {l : Ledger} {d : Descriptor} {bytes : Bytes}
    {answer : Except (Nat × Errno) Unit} (hunread : l.Unread (.wrote d bytes answer))
    (haccepts : l.Accepts (.wrote d bytes answer)) {pipe : Nat}
    (hd : l.table d = some (.writer pipe)) :
    ¬ l.Reads pipe ∧ l.poured pipe (.wrote d bytes answer) = bytes.length := by
  obtain ⟨hreads, r, hr⟩ := hunread pipe hd
  obtain rfl := haccepts pipe r hd hr
  exact ⟨hreads, by simp [poured, hd]⟩

section Filling

variable {capacity : Nat} {l : Ledger} {log : List Event}

theorem queued_le_of_neverStuck (hunread : l.Along Unread log) (haccepts : l.Along Accepts log)
    (hstuck : l.NeverStuck capacity log) (pipe : Nat) {events later : List Event}
    (hlog : log = events ++ later) : l.queued pipe events ≤ capacity := by
  -- The last event of `events` may be a write that the pipe has room for, so the induction is from
  -- the end.
  induction events using List.reverseRecOn generalizing later with
  | nil => exact Nat.zero_le _
  | append_singleton before e ih =>
      rw [List.append_assoc, List.singleton_append] at hlog
      have hbefore := ih hlog
      rw [queued_append]
      cases e with
      | wrote d bytes answer =>
          by_cases hd : (l.after before).table d = some (.writer pipe)
          · rw [hlog, along_append, along_cons] at hunread haccepts
            obtain ⟨hreads, hlength⟩ := poured_of_unread hunread.2.1 haccepts.2.1 hd
            rw [queued, hlength]
            exact (hstuck before d bytes answer later hlog pipe hd).resolve_left hreads
          · simpa [queued, poured, hd] using hbefore
      | _ => exact hbefore

theorem neverStuck_of_queued_le (hunread : l.Along Unread log) (haccepts : l.Along Accepts log)
    (hroom : ∀ pipe, l.queued pipe log ≤ capacity) : l.NeverStuck capacity log := by
  intro before d bytes answer later hlog pipe hd
  rw [hlog, along_append, along_cons] at hunread haccepts
  obtain ⟨_, hlength⟩ := poured_of_unread hunread.2.1 haccepts.2.1 hd
  have hall := hroom pipe
  rw [hlog, queued_append, queued, hlength] at hall
  exact .inr (by omega)

/-- As long as nobody reads, the pipes only fill, so what is in them at the end decides. -/
theorem neverStuck_iff (hunread : l.Along Unread log) (haccepts : l.Along Accepts log) :
    l.NeverStuck capacity log ↔ ∀ pipe, l.queued pipe log ≤ capacity :=
  ⟨fun hstuck pipe =>
    queued_le_of_neverStuck hunread haccepts hstuck pipe (List.append_nil log).symm,
    neverStuck_of_queued_le hunread haccepts⟩

end Filling

end Ledger

end LineShell
