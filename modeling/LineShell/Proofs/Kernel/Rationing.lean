import LineShell.Pipeline
import LineShell.Proofs.Kernel.Recorded
import LineShell.Proofs.Setback
import Mathlib

/-!
Systems that ration descriptors: only so many can be open at a time, and a pipe takes two. The pipes
of a job are made just if there are descriptors for all of them, and if not, the same descriptors
are open as before.
-/

namespace LineShell

/-- How a system rations descriptors. A pipe takes two that were free or, if there are not so many
left, none. -/
structure Rationing (κ : Type) [Kernel κ] where
  /-- The descriptors that are open. -/
  held : κ → List Descriptor
  /-- How many can be open. -/
  limit : κ → Nat
  granted (k : κ) : (held k).length + 2 ≤ limit k → ∃ reader writer k',
    Kernel.pipe k = (.ok (reader, writer), k') ∧ reader ∉ held k ∧ writer ∉ reader :: held k ∧
      held k' = writer :: reader :: held k ∧ limit k' = limit k
  refused (k : κ) : limit k < (held k).length + 2 → ∃ e k',
    Kernel.pipe k = (.error e, k') ∧ held k' = held k ∧ limit k' = limit k
  closed (d : Descriptor) (k : κ) :
    held (Kernel.close d k).2 = (held k).filter (· != d) ∧ limit (Kernel.close d k).2 = limit k

theorem Recorded.pipe_eq {κ : Type} [Kernel κ] {r : Recorded κ}
    {answer : Except Errno (Descriptor × Descriptor)} {k : κ}
    (h : Kernel.pipe r.kernel = (answer, k)) :
    Kernel.pipe r = (answer, ⟨k, r.log ++ [.piped answer]⟩) := by
  show noting .piped Kernel.pipe r = _
  rw [noting, h]

namespace Rationing

section Pipes

variable {κ : Type} [Kernel κ] (ration : Rationing κ)

/-- How many descriptors are left. -/
def free (k : κ) : Nat := ration.limit k - (ration.held k).length

theorem held_closeAll (ds : List Descriptor) (k : κ) :
    ration.held (Pipe.closeAll ds k).2 = (ration.held k).filter (· ∉ ds) ∧
      ration.limit (Pipe.closeAll ds k).2 = ration.limit k := by
  induction ds generalizing k with
  | nil => exact ⟨by simp [Pipe.closeAll], rfl⟩
  | cons d rest ih =>
      obtain ⟨hheld, hlimit⟩ := ration.closed d k
      obtain ⟨hrest, hrest'⟩ := ih (Kernel.close d k).2
      rw [hheld, List.filter_filter] at hrest
      refine ⟨hrest.trans (List.filter_congr fun d' _ => ?_), hrest'.trans hlimit⟩
      simp [Bool.and_comm, bne, beq_eq_decide]

/-- Besides those in `base`, the ends of these pipes are open, and nothing else. -/
structure Besides (made : List Pipe) (base : List Descriptor) (k : κ) : Prop where
  held : ration.held k = (made.flatMap Pipe.ends).reverse ++ base
  fresh : ∀ d ∈ made.flatMap Pipe.ends, d ∉ base

namespace Besides

variable {ration} {made : List Pipe} {base : List Descriptor} {k k' : κ}

theorem nil (ration : Rationing κ) (k : κ) : ration.Besides [] (ration.held k) k := ⟨rfl, by simp⟩

/-- Of a pipe that was made last, both ends were free. -/
theorem snoc (h : ration.Besides made base k) {reader writer : Descriptor}
    (hreader : reader ∉ ration.held k) (hwriter : writer ∉ reader :: ration.held k)
    (hheld : ration.held k' = writer :: reader :: ration.held k) :
    ration.Besides (made ++ [⟨reader, writer⟩]) base k' := by
  have hends : (made ++ [Pipe.mk reader writer]).flatMap Pipe.ends =
      made.flatMap Pipe.ends ++ [reader, writer] := by
    simp [Pipe.ends]
  constructor
  · rw [hends, hheld, h.held]
    simp
  · rw [h.held] at hreader hwriter
    simp only [List.mem_append, List.mem_cons, not_or] at hreader hwriter
    intro d hd
    simp only [hends, List.mem_append, List.mem_cons, List.not_mem_nil, or_false] at hd
    rcases hd with hd | rfl | rfl
    · exact h.fresh d hd
    · exact hreader.2
    · exact hwriter.2.2

/-- Descriptors that were free before they were opened are closed without a trace. -/
theorem held_closeAll (h : ration.Besides made base k) :
    ration.held (Pipe.closeAll (made.flatMap Pipe.ends) k).2 = base := by
  rw [(ration.held_closeAll _ k).1, h.held, List.filter_append]
  have hends : (made.flatMap Pipe.ends).reverse.filter (· ∉ made.flatMap Pipe.ends) = [] := by simp
  have hbase : base.filter (· ∉ made.flatMap Pipe.ends) = base :=
    List.filter_eq_self.mpr fun d hd => decide_eq_true fun hmem => h.fresh d hmem hd
  rw [hends, hbase, List.nil_append]

/-- Pipes are made after those in `made` just if there are two descriptors for each; if not, only
those remain that were open before all of them. -/
theorem openAfter (h : ration.Besides made base k) (count : Nat) :
    (2 * count ≤ ration.free k ∧ ∃ pipes k', Pipe.openAfter made count k = (.ok pipes, k') ∧
        ration.Besides pipes base k' ∧ ration.free k' + 2 * count = ration.free k) ∨
      (ration.free k < 2 * count ∧ ∃ e k', Pipe.openAfter made count k = (.error e, k') ∧
        ration.held k' = base ∧ ration.limit k' = ration.limit k) := by
  induction count generalizing made k with
  | zero => exact .inl ⟨Nat.zero_le _, made, k, rfl, h, rfl⟩
  | succ count ih =>
      by_cases hroom : (ration.held k).length + 2 ≤ ration.limit k
      · obtain ⟨reader, writer, k', hpipe, hreader, hwriter, hheld, hlimit⟩ := ration.granted k hroom
        -- The descriptors left and those still called for both become two fewer.
        have hfree : ration.free k' + 2 = ration.free k := by
          simp only [free, hheld, hlimit, List.length_cons]
          omega
        simp only [Pipe.openAfter, bind_apply, hpipe]
        rcases ih (h.snoc hreader hwriter hheld) with ⟨henough, pipes, k'', hopen, hpipes, hleft⟩ |
          ⟨hshort, e, k'', hopen, hbase, hlimit'⟩
        · exact .inl ⟨by omega, pipes, k'', hopen, hpipes, by omega⟩
        · exact .inr ⟨by omega, e, k'', hopen, hbase, hlimit'.trans hlimit⟩
      · obtain ⟨e, k', hpipe, hheld, hlimit⟩ := ration.refused k (Nat.lt_of_not_le hroom)
        have hshort : ration.free k < 2 * (count + 1) := by
          simp only [free]
          omega
        have hrefused : ration.Besides made base k' := ⟨hheld.trans h.held, h.fresh⟩
        refine .inr ⟨hshort, e, (Pipe.closeAll (made.flatMap Pipe.ends) k').2, ?_,
          hrefused.held_closeAll, (ration.held_closeAll _ k').2.trans hlimit⟩
        simp only [Pipe.openAfter, bind_apply, hpipe]
        rfl

end Besides

/-- All pipes are made just if there are two descriptors for each. -/
theorem exists_openMany_eq_ok_iff (count : Nat) (k : κ) :
    (∃ pipes, (Pipe.openMany count k).1 = .ok pipes) ↔ 2 * count ≤ ration.free k := by
  have hopen := (Besides.nil ration k).openAfter count
  rw [Pipe.openMany]
  rcases hopen with ⟨henough, pipes, k', hopen, _⟩ | ⟨hshort, e, k', hopen, _⟩
  · simp [hopen, henough]
  · simp [hopen, hshort]

theorem held_of_openMany_eq_error {count : Nat} {k k' : κ} {e : Errno}
    (h : Pipe.openMany count k = (.error e, k')) :
    ration.held k' = ration.held k ∧ ration.limit k' = ration.limit k := by
  have hopen := (Besides.nil ration k).openAfter count
  rw [Pipe.openMany] at h
  rw [h] at hopen
  rcases hopen with ⟨_, pipes, _, heq, _⟩ | ⟨_, _, _, heq, hheld⟩
  · cases (Prod.mk.inj heq).1
  · exact (Prod.mk.inj heq).2 ▸ hheld

/-- To keep a record changes nothing. -/
def recorded : Rationing (Recorded κ) where
  held r := ration.held r.kernel
  limit r := ration.limit r.kernel
  granted r h := by
    obtain ⟨reader, writer, k', hpipe, hgranted⟩ := ration.granted r.kernel h
    exact ⟨reader, writer, _, Recorded.pipe_eq hpipe, hgranted⟩
  refused r h := by
    obtain ⟨e, k', hpipe, hrefused⟩ := ration.refused r.kernel h
    exact ⟨e, _, Recorded.pipe_eq hpipe, hrefused⟩
  closed d r := ration.closed d r.kernel

end Pipes

end Rationing

/-! ### A system on which not all goes well -/

theorem Rehearsal.free_notMem (r : Rehearsal) : r.free ∉ r.inUse := by
  rw [free]
  cases hfind : (List.range r.inUse.length).find? fun d => !r.inUse.contains d with
  | some d => simpa using List.find?_some hfind
  | none =>
      -- All lower numbers are in use; there is no place in the list for yet another one.
      have hall : List.range r.inUse.length ⊆ r.inUse := fun d hd => by
        simpa using List.find?_eq_none.mp hfind d hd
      have hperm : (List.range r.inUse.length).Perm r.inUse :=
        (List.nodup_range.subperm hall).perm_of_length_le (by simp)
      rw [Option.getD_none, ← hperm.mem_iff]
      simp

def Setback.rationing : Rationing Setback where
  held s := s.rehearsal.inUse
  limit := limit
  granted s h := ⟨s.rehearsal.free, s.rehearsal.take.2.free,
    { s with rehearsal := s.rehearsal.take.2.take.2 }, if_pos h, s.rehearsal.free_notMem,
    s.rehearsal.take.2.free_notMem, rfl, rfl⟩
  refused s h := ⟨.tooManyOpen, s, if_neg (Nat.not_le.mpr h), rfl, rfl⟩
  closed _ _ := ⟨rfl, rfl⟩

end LineShell
