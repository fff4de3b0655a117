import LineShell.Text.Utf8

/-!
Lines of a text held in memory. A line ends at a newline, which is not part of it, and neither is
one carriage return directly before the newline.
-/

namespace LineShell

namespace Line

def carriageReturn : UInt8 := 13

/-- A line that a newline ended, without the carriage return it may have before that. -/
def dropReturn (line : Bytes) : Bytes :=
  if line.getLast? = some carriageReturn then line.dropLast else line

/-- The first line and the bytes after it, or `none` if there are no bytes. -/
def first? (bytes : Bytes) : Option (Bytes × Bytes) :=
  if bytes.isEmpty then none
  else
    let line := bytes.takeWhile (· != Utf8.newline)
    match bytes.dropWhile (· != Utf8.newline) with
    | _ :: rest => some (dropReturn line, rest)
    | [] => some (line, [])

theorem length_rest_lt_of_first? {bytes line rest : Bytes} (h : first? bytes = some (line, rest)) :
    rest.length < bytes.length := by
  have hle : (bytes.dropWhile (· != Utf8.newline)).length ≤ bytes.length :=
    (List.dropWhile_suffix _).length_le
  rw [first?] at h
  split at h
  · simp at h
  next hne =>
    dsimp only at h
    split at h
    next heq =>
      simp only [Option.some.injEq, Prod.mk.injEq] at h
      obtain ⟨-, rfl⟩ := h
      rw [heq, List.length_cons] at hle
      omega
    next =>
      simp only [Option.some.injEq, Prod.mk.injEq] at h
      obtain ⟨-, rfl⟩ := h
      cases bytes with
      | nil => simp at hne
      | cons => simp

/-- Reads all lines, after those in `acc`. -/
def allAfter (acc : List Bytes) (bytes : Bytes) : List Bytes :=
  match _h : first? bytes with
  | none => acc.reverse
  | some (line, rest) => allAfter (line :: acc) rest
termination_by bytes.length
decreasing_by exact length_rest_lt_of_first? _h

/-- All lines of a text. -/
def all (bytes : Bytes) : List Bytes := allAfter [] bytes

end Line

end LineShell
