import LineShell.Proofs.Kernel.SharedInput

/-!
A system on which the shell and its children read from one input. A child that is given no other
input takes as much of it as is laid down beforehand, as soon as it is started; a builtin command that
reads takes all. Descriptors are not used twice, and otherwise all goes well.
-/

namespace LineShell

structure Trough where
  content : Bytes
  position : Nat := 0
  /-- The descriptors that stand for the input. -/
  inputs : List Descriptor := [0]
  /-- The descriptor that is handed out next. -/
  next : Descriptor := 3
  /-- How many bytes children take, one child after another. -/
  sips : List Nat := []
  lastPid : Pid := 1

namespace Trough

def rest (t : Trough) : Bytes := t.content.drop t.position

/-- Somebody takes so many bytes, as far as there are any. -/
def drink (count : Nat) (t : Trough) : Trough :=
  { t with position := t.position + min count t.rest.length }

/-- Hands out a descriptor that stands for the input if `d` does. -/
def another (d : Descriptor) : StateM Trough (Except Errno Descriptor) := fun t =>
  (.ok t.next, { t with
    inputs := if t.inputs.contains d then t.next :: t.inputs else t.inputs
    next := t.next + 1 })

instance : Environment Trough where
  currentDirectory := return .ok (.ofText "/")
  changeDirectory _ := return .ok ()
  value? _ := return none
  setVariable _ _ := return ()
  accountHome? := return none
  complain _ := return ()
  readInput := fun t =>
    if t.inputs.contains Descriptor.input then (t.rest, t.drink t.rest.length) else ([], t)

instance : Kernel Trough where
  pipe := fun t => (.ok (t.next, t.next + 1), { t with next := t.next + 2 })
  close d := modify fun t => { t with inputs := t.inputs.filter (· != d) }
  duplicate := another
  keep := another
  replace source target := fun t =>
    let others := t.inputs.filter (· != target)
    (.ok (), { t with inputs := if t.inputs.contains source then target :: others else others })
  write _ _ := return .ok ()
  fork child := fun t =>
    let own := t.inputs.contains Descriptor.input &&
      child.bindings.all fun b => b.2 != Descriptor.input
    let drunk := if own then t.drink (t.sips.headD 0) else t
    (.ok (t.lastPid + 1), { drunk with sips := t.sips.tail, lastPid := t.lastPid + 1 })
  wait _ := return [.ok 0]
  pending d := fun t => (.ok (if t.inputs.contains d then t.rest else []), t)
  skip d count := modify fun t => if t.inputs.contains d then t.drink count else t
  openFile _ := return .error (.system .noEntry)
  openLog _ := return .ok ()
  saveFile _ _ := return .ok ()

/-- The input of a trough with this content. -/
def input (content : Bytes) : SharedInput Trough where
  content := content
  position := position
  Reads t d := t.content = content ∧ t.position ≤ content.length ∧ d ∈ t.inputs ∧ d < t.next ∧
    Descriptor.output < t.next

variable {content : Bytes} {t : Trough}

theorem position_drink (h : t.position ≤ t.content.length) (count : Nat) :
    t.position ≤ (t.drink count).position ∧ (t.drink count).position ≤ t.content.length := by
  simp only [drink, rest, List.length_drop]
  omega

theorem lawful_input (content : Bytes) : (input content).Lawful where
  position_le t d h := h.2.1
  pending t d h := by
    obtain ⟨rfl, hposition, hmem, hnext⟩ := h
    refine ⟨?_, ⟨rfl, hposition, hmem, hnext⟩, rfl⟩
    simp [Kernel.pending, hmem, input, rest, SharedInput.rest]
  skip t d count h hcount := by
    obtain ⟨rfl, hposition, hmem, hnext⟩ := h
    have hcount' : count ≤ t.rest.length := hcount
    simp only [Kernel.skip, modify_apply, List.contains_iff_mem, hmem, if_true]
    exact ⟨⟨rfl, (position_drink hposition count).2, hmem, hnext⟩,
      congrArg (t.position + ·) (Nat.min_eq_left hcount')⟩
  keep t h := by
    obtain ⟨rfl, hposition, hmem, hnext, hstandard⟩ := h
    refine ⟨rfl, fun d hd => ?_⟩
    obtain rfl := Except.ok.inj hd
    refine ⟨⟨rfl, hposition, ?_, Nat.lt_succ_self _, Nat.lt_succ_of_lt hstandard⟩, hstandard⟩
    simp [Kernel.keep, another, hmem]
  surroundings d q t h := by
    cases q with
    | readInput =>
        obtain ⟨rfl, hposition, hmem, hnext⟩ := h
        simp only [Question.put, Environment.readInput]
        split
        · obtain ⟨hle, hend⟩ := position_drink hposition t.rest.length
          exact ⟨⟨rfl, hend, hmem, hnext⟩, hle, trivial⟩
        · exact ⟨⟨rfl, hposition, hmem, hnext⟩, Nat.le_refl _, trivial⟩
    | _ => exact ⟨h, Nat.le_refl _, trivial⟩
  pipe d t h := by
    obtain ⟨rfl, hposition, hmem, hnext, hstandard⟩ := h
    refine ⟨⟨rfl, hposition, hmem, Nat.lt_add_right 2 hnext, Nat.lt_add_right 2 hstandard⟩,
      Nat.le_refl _, fun ends hends => ?_⟩
    obtain rfl := Except.ok.inj hends
    exact ⟨Nat.ne_of_gt hnext, Nat.ne_of_gt (Nat.lt_succ_of_lt hnext)⟩
  duplicate d other t h := by
    obtain ⟨rfl, hposition, hmem, hnext, hstandard⟩ := h
    refine ⟨⟨rfl, hposition, ?_, Nat.lt_succ_of_lt hnext, Nat.lt_succ_of_lt hstandard⟩,
      Nat.le_refl _, fun heq => ?_⟩
    · simp only [Kernel.duplicate, another]
      split
      · exact List.mem_cons_of_mem _ hmem
      · exact hmem
    · exact Nat.ne_of_gt hnext (Except.ok.inj heq)
  close d other hne t h := by
    obtain ⟨rfl, hposition, hmem, hnext⟩ := h
    refine ⟨⟨rfl, hposition, ?_, hnext⟩, Nat.le_refl _, trivial⟩
    simpa [Kernel.close, hmem] using hne.symm
  release t d h := rfl
  replace d source target hne t h := by
    obtain ⟨rfl, hposition, hmem, hnext⟩ := h
    refine ⟨⟨rfl, hposition, ?_, hnext⟩, Nat.le_refl _, trivial⟩
    have hother : d ∈ t.inputs.filter (· != target) := by simpa [hmem] using hne.symm
    simp only [Kernel.replace]
    split
    · exact List.mem_cons_of_mem _ hother
    · exact hother
  write d other bytes t h := ⟨h, Nat.le_refl _, trivial⟩
  fork d child t h := by
    obtain ⟨rfl, hposition, hmem, hnext⟩ := h
    simp only [Kernel.fork]
    split
    · obtain ⟨hle, hend⟩ := position_drink hposition (t.sips.headD 0)
      exact ⟨⟨rfl, hend, hmem, hnext⟩, hle, trivial⟩
    · exact ⟨⟨rfl, hposition, hmem, hnext⟩, Nat.le_refl _, trivial⟩
  wait d pid t h := ⟨h, Nat.le_refl _, trivial⟩

end Trough

end LineShell
