import LineShell.Console

/-!
Programs that act on a state, applied to one. The lemmas turn a program into the pair of its result
and the state that it leaves.
-/

namespace LineShell

variable {σ α β : Type}

@[simp] theorem pure_apply (a : α) (s : σ) : (pure a : StateM σ α) s = (a, s) := rfl

@[simp] theorem bind_apply (m : StateM σ α) (f : α → StateM σ β) (s : σ) :
    (m >>= f) s = f (m s).1 (m s).2 := rfl

@[simp] theorem map_apply (f : α → β) (m : StateM σ α) (s : σ) :
    (f <$> m) s = (f (m s).1, (m s).2) := rfl

@[simp] theorem get_apply (s : σ) : (get : StateM σ σ) s = (s, s) := rfl

@[simp] theorem modify_apply (f : σ → σ) (s : σ) : (modify f : StateM σ Unit) s = ((), f s) := rfl

theorem Console.call_apply {κ : Type} (m : StateM κ α) (c : Console κ) :
    Console.call m c = ((m c.kernel).1, { c with kernel := (m c.kernel).2 }) := rfl

end LineShell
