import LineShell.Proofs.Line.Answers
import LineShell.Proofs.Line.Rendered
import LineShell.Proofs.Text.Lossy
import Mathlib

/-!
All lines of a source that gives some bytes, in whatever parts and with whatever interruptions. They
are what stands between the newlines, nothing is taken from the source beyond the newline that ends a
line, and put together again they make the text of all the bytes.
-/

namespace LineShell

open Utf8 (newline decodeLossy)

namespace Line

/-- The lines of some bytes: what stands between the newlines, and what stands after the last one if
that is anything. -/
def lines (bytes : Bytes) : List Bytes :=
  let parts := pieces (· = newline) bytes
  if parts.getLast? = some [] then parts.dropLast else parts

variable {line : Bytes}

theorem pieces_of_notMem (h : newline ∉ line) : pieces (· = newline) line = [line] := by
  simpa using pieces_intercalate (List.cons_ne_nil line []) (by simpa using h)

theorem pieces_newline (h : newline ∉ line) (rest : Bytes) :
    pieces (· = newline) (line ++ newline :: rest) = line :: pieces (· = newline) rest := by
  rw [pieces_append_cons (by decide), pieces_of_notMem h]
  rfl

theorem lines_newline (h : newline ∉ line) (rest : Bytes) :
    lines (line ++ newline :: rest) = line :: lines rest := by
  have hne : pieces (· = newline) rest ≠ [] := pieces_ne_nil rest
  simp only [lines, pieces_newline h]
  rw [List.getLast?_cons_of_ne_nil hne, List.dropLast_cons_of_ne_nil hne]
  split <;> rfl

theorem lines_last (h : newline ∉ line) : lines line = if line.isEmpty then [] else [line] := by
  simp only [lines, pieces_of_notMem h]
  cases line <;> simp

theorem lines_nil : lines [] = [] := lines_last (by simp)

theorem lines_ne_nil {bytes : Bytes} (h : bytes ≠ []) : lines bytes ≠ [] := by
  by_cases hmem : newline ∈ bytes
  · obtain ⟨line, rest, rfl, hline⟩ := List.eq_append_cons_of_mem hmem
    rw [lines_newline hline]
    exact List.cons_ne_nil _ _
  · rw [lines_last hmem]
    simpa using h

/-- Nothing is lost or made up where the lines are cut off. -/
theorem intercalate_lines (bytes : Bytes) :
    "\n".intercalate ((lines bytes).map decodeLossy) ++
      (if bytes.getLast? = some newline then "\n" else "") = decodeLossy bytes := by
  have hempty : decodeLossy [] = "" := by simp [decodeLossy, Utf8.scan]
  induction hlength : bytes.length using Nat.strong_induction_on generalizing bytes with
  | _ n ih =>
      by_cases hmem : newline ∈ bytes
      · obtain ⟨line, rest, rfl, hline⟩ := List.eq_append_cons_of_mem hmem
        have hrest := ih rest.length (by simp at hlength; omega) rest rfl
        -- The newline joins this line to the next one, or stands at the end if there is none.
        rw [lines_newline hline, Utf8.decodeLossy_newline, List.map_cons, ← hrest]
        by_cases hne : rest = []
        · subst hne
          simp [lines_nil]
        · obtain ⟨next, later, hlater⟩ := List.exists_cons_of_ne_nil (lines_ne_nil hne)
          rw [hlater, List.map_cons, String.intercalate_cons_cons, List.getLast?_append_of_ne_nil _
            (List.cons_ne_nil _ _), List.getLast?_cons_of_ne_nil hne]
          simp [String.append_assoc]
      · have hlast : bytes.getLast? ≠ some newline := fun h => hmem (List.mem_of_getLast? h)
        rw [lines_last hmem, if_neg hlast]
        cases bytes with
        | nil => simp [hempty]
        | cons b rest => simp

end Line

/-! ### What is left after each line -/

theorem Chunk.Hold.bytes_answers {pending : List Chunk} {bytes : Bytes}
    (h : Chunk.Hold pending bytes) : Source.Answer.bytes (pending.flatMap Chunk.answers) = bytes := by
  induction h with
  | nil => rfl
  | data more _ ih => simp [Chunk.answers, ih]
  | interrupted _ _ ih => simpa [Chunk.answers] using ih

namespace Source

namespace Holds

variable {s : Source} {bytes : Bytes}

theorem bytes_answers (h : s.Holds bytes) : Answer.bytes s.answers = bytes := by
  obtain ⟨later, hpending, rfl⟩ := h
  rw [answers, Answer.bytes_append, Answer.bytes_map_byte, hpending.bytes_answers]

/-- The first line is served, if there is one, and the others are left. -/
theorem exists_readLine (h : s.Holds bytes) :
    s.readLine.1 = .ok ((Line.lines bytes).head?.map decodeLossy) ∧
      ∃ rest, s.readLine.2.Holds rest ∧ Line.lines rest = (Line.lines bytes).tail := by
  by_cases hmem : newline ∈ bytes
  · obtain ⟨line, rest, rfl, hline⟩ := List.eq_append_cons_of_mem hmem
    obtain ⟨hread, hrest⟩ := h.serves_newline hline
    rw [Line.lines_newline hline]
    exact ⟨hread, rest, hrest, rfl⟩
  · obtain ⟨hread, hrest⟩ := h.serves_last hmem
    rw [Line.lines_last hmem, hread]
    refine ⟨?_, [], hrest, ?_⟩
    · cases bytes <;> rfl
    · rw [Line.lines_nil]
      cases bytes <;> rfl

theorem readLines_fst (h : s.Holds bytes) (n : Nat) :
    (s.readLines n).1 =
      (List.range n).map fun k => .ok ((Line.lines bytes)[k]?.map decodeLossy) := by
  induction n generalizing s bytes with
  | zero => rfl
  | succ n ih =>
      obtain ⟨hread, rest, hrest, htail⟩ := h.exists_readLine
      rw [readLines, hread, ih hrest, htail, List.range_succ_eq_map, List.map_cons, List.map_map]
      simp [List.head?_eq_getElem?, Function.comp_def]

/-- As many lines as newlines end take all bytes up to the last of these newlines, and no more. -/
theorem exists_handed (h : s.Holds bytes) {n : Nat} (hn : n ≤ bytes.count newline) :
    ∃ handed, s.answers = handed ++ (s.readLines n).2.answers ∧
      Answer.bytes handed = ((pieces (· = newline) bytes).take n).flatMap (· ++ [newline]) := by
  induction n generalizing s bytes with
  | zero => exact ⟨[], rfl, rfl⟩
  | succ n ih =>
      have hmem : newline ∈ bytes := List.count_pos_iff.mp (by omega)
      obtain ⟨line, rest, rfl, hline⟩ := List.eq_append_cons_of_mem hmem
      obtain ⟨-, hrest⟩ := h.serves_newline hline
      have hcount : n ≤ rest.count newline := by
        rw [List.count_append, List.count_cons_self, List.count_eq_zero.mpr hline] at hn
        omega
      obtain ⟨handed, hlater, hbytes⟩ := ih hrest hcount
      obtain ⟨part, hpart, -⟩ := s.serves_readLine
      -- What the line has taken is what there was before less what is left.
      have htaken : Answer.bytes part = line ++ [newline] := by
        have hsplit := congrArg Answer.bytes hpart
        rw [h.bytes_answers, Answer.bytes_append, hrest.bytes_answers] at hsplit
        exact List.append_cancel_right (hsplit.symm.trans (List.append_cons line newline rest))
      refine ⟨part ++ handed, ?_, ?_⟩
      · rw [hpart, hlater, List.append_assoc]
        rfl
      · rw [Line.pieces_newline hline, List.take_succ_cons, List.flatMap_cons, Answer.bytes_append,
          htaken, hbytes]

end Holds

/-- The lines of a source are what stands between the newlines, in order, and then there is none any
more. When a line has been read that a newline ends, nothing that stands after this newline has been
taken from the source. -/
theorem readLines_lines {s : Source} {bytes : Bytes} (h : s.Holds bytes) :
    (∀ n, (s.readLines n).1 =
      (List.range n).map fun k => .ok ((Line.lines bytes)[k]?.map decodeLossy)) ∧
    ∀ n ≤ bytes.count newline, ∃ handed, s.answers = handed ++ (s.readLines n).2.answers ∧
      Answer.bytes handed = ((pieces (· = newline) bytes).take n).flatMap (· ++ [newline]) :=
  ⟨h.readLines_fst, fun _ hn => h.exists_handed hn⟩

/-- A character is cut in two by an interruption, and an empty line by the end of a chunk. -/
theorem readLines_lines_interrupted :
    let s : Source := ⟨[0x61, 0xC3], [.failed (.system .interrupted), .data [0xA9, 0x0A],
      .data [0x0A, 0x62], .failed (.system .interrupted)]⟩
    (s.readLines 5).1 = [.ok (some "aé"), .ok (some ""), .ok (some "b"), .ok none, .ok none] ∧
      ∃ handed, s.answers = handed ++ (s.readLines 2).2.answers ∧
        Answer.bytes handed = [0x61, 0xC3, 0xA9, 0x0A, 0x0A] := by
  intro s
  have hs : s.Holds [0x61, 0xC3, 0xA9, 0x0A, 0x0A, 0x62] :=
    ⟨_, .interrupted rfl (.data _ (.data _ (.interrupted rfl .nil))), rfl⟩
  obtain ⟨hlines, hhanded⟩ := readLines_lines hs
  refine ⟨(hlines 5).trans ?_, hhanded 2 (by decide)⟩
  cbv

/-- Until the end, the lines of a source put together again are the text of all its bytes, and that
has one replacement character for each run of bytes that is the beginning of an encoding and no more,
or a byte with which none begins. -/
theorem readLines_decodeLossy {s : Source} {bytes : Bytes} (h : s.Holds bytes) :
    (∃ lines : List String,
      (s.readLines (lines.length + 1)).1 = lines.map (fun line => .ok (some line)) ++ [.ok none] ∧
        "\n".intercalate lines ++ (if bytes.getLast? = some newline then "\n" else "") =
          decodeLossy bytes) ∧
    ∀ text, Utf8.Decodes bytes text ↔ text = (decodeLossy bytes).toList := by
  refine ⟨⟨(Line.lines bytes).map decodeLossy, ?_, Line.intercalate_lines bytes⟩,
    Utf8.decodes_iff bytes⟩
  rw [h.readLines_fst, List.length_map, List.range_succ, List.map_append]
  congr 1
  · refine List.ext_getElem (by simp) fun k hk _ => ?_
    have hk : k < (Line.lines bytes).length := by simpa using hk
    simp [hk]
  · simp

/-- The beginning of a character stands before a newline. After it there are a byte that begins none
and the beginning of a longer character. -/
theorem readLines_decodeLossy_cut :
    let s : Source := ⟨[0xE2], [.failed (.system .interrupted), .data [0x82, 0x0A, 0xFF, 0xF0],
      .data [0x9F, 0x98, 0x0A]]⟩
    (∃ lines : List String,
      (s.readLines (lines.length + 1)).1 = lines.map (fun line => .ok (some line)) ++ [.ok none] ∧
        "\n".intercalate lines ++ "\n" = "\ufffd\n\ufffd\ufffd\n") ∧
    Utf8.Decodes [0xE2, 0x82, 0x0A, 0xFF, 0xF0, 0x9F, 0x98, 0x0A]
      ['\ufffd', '\n', '\ufffd', '\ufffd', '\n'] := by
  intro s
  have hs : s.Holds [0xE2, 0x82, 0x0A, 0xFF, 0xF0, 0x9F, 0x98, 0x0A] :=
    ⟨_, .interrupted rfl (.data _ (.data _ .nil)), rfl⟩
  have htext : decodeLossy [0xE2, 0x82, 0x0A, 0xFF, 0xF0, 0x9F, 0x98, 0x0A] =
      "\ufffd\n\ufffd\ufffd\n" := by
    cbv
  obtain ⟨⟨lines, hlines, hjoined⟩, hdecodes⟩ := readLines_decodeLossy hs
  rw [htext] at hjoined hdecodes
  exact ⟨⟨lines, hlines, hjoined⟩, (hdecodes _).mpr rfl⟩

end Source

end LineShell
