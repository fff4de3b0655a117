/-!
Cutting a list at the elements that satisfy a test. The pieces keep all other elements, in order,
and there is always one piece more than there are cuts.
-/

namespace LineShell

variable {α : Type}

/-- Puts an element in front of the first piece. -/
def consPiece (a : α) : List (List α) → List (List α)
  | [] => [[a]]
  | piece :: pieces => (a :: piece) :: pieces

/-- The pieces of a list between the elements that satisfy `cut`. -/
def pieces (cut : α → Bool) (l : List α) : List (List α) :=
  l.foldr (fun a rest => if cut a then [] :: rest else consPiece a rest) [[]]

variable {cut : α → Bool}

@[simp] theorem pieces_nil : pieces cut [] = [[]] := rfl

theorem pieces_cons (a : α) (l : List α) :
    pieces cut (a :: l) = if cut a then [] :: pieces cut l else consPiece a (pieces cut l) := rfl

theorem pieces_ne_nil (l : List α) : pieces cut l ≠ [] := by
  cases l with
  | nil => simp
  | cons a l =>
      rw [pieces_cons]
      split
      · simp
      · cases pieces cut l <;> simp [consPiece]

end LineShell
