import LineShell.Job.Tokenize

/-!
Two lines joined by a word that closes a job hold the jobs of the first and then those of the
second. A cut of a list is also a cut of its pieces, first at the level of characters and then at
the level of words.
-/

namespace LineShell

variable {α : Type} {cut : α → Bool}

theorem consPiece_append (a : α) {ps : List (List α)} (h : ps ≠ []) (qs : List (List α)) :
    consPiece a (ps ++ qs) = consPiece a ps ++ qs := by
  cases ps with
  | nil => exact absurd rfl h
  | cons p ps => rfl

theorem pieces_append_cons {a : α} (ha : cut a = true) (l r : List α) :
    pieces cut (l ++ a :: r) = pieces cut l ++ pieces cut r := by
  induction l with
  | nil => simp [pieces_cons, ha]
  | cons b l ih =>
      rw [List.cons_append, pieces_cons, pieces_cons, ih]
      split
      · rfl
      · exact consPiece_append b (pieces_ne_nil l) _

namespace Line

theorem words_append_cons {d : Char} (hd : isDelimiter d = true) (l r : List Char) :
    words (l ++ d :: r) = words l ++ words r := by
  simp [words, pieces_append_cons hd]

theorem jobArgvs_append_separator (l r : List String) :
    jobArgvs (l ++ jobSeparator :: r) = jobArgvs l ++ jobArgvs r := by
  simp [jobArgvs, pieces_append_cons]

/-- What is put between lines to make one line of them. -/
def joint : String := " ; "

theorem words_joint (l r : List Char) :
    words (l ++ joint.toList ++ r) = words l ++ jobSeparator :: words r := by
  have hblank : isDelimiter ' ' = true := by decide
  have hwords : words [';'] = [jobSeparator] := by decide
  calc words (l ++ joint.toList ++ r) = words (l ++ ' ' :: ([';'] ++ ' ' :: r)) := by
        simp [joint]
    _ = words l ++ (words [';'] ++ words r) := by
        rw [words_append_cons hblank, words_append_cons hblank]
    _ = words l ++ jobSeparator :: words r := by rw [hwords]; rfl

theorem tokenize_joint (a b : String) : tokenize (a ++ joint ++ b) = tokenize a ++ tokenize b := by
  simp only [tokenize, String.toList_append, words_joint, jobArgvs_append_separator,
    List.map_append]

end Line

end LineShell
