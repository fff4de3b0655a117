import LineShell.Editor
import LineShell.Line.Source
import Mathlib

/-!
Where the readers cut a line off. One of them asks its source for one byte at a time; the other reads
ahead in blocks and keeps what stands after the line. Both go on with the same bytes.
-/

namespace LineShell

open Utf8 (newline)

section Newline

variable {line rest : Bytes}

theorem takeWhile_of_notMem (h : newline ∉ line) : line.takeWhile (· != newline) = line :=
  List.takeWhile_eq_self_iff.mpr fun _ hb => bne_iff_ne.mpr fun heq => h (heq ▸ hb)

theorem dropWhile_of_notMem (h : newline ∉ line) : line.dropWhile (· != newline) = [] :=
  List.dropWhile_eq_nil_iff.mpr fun _ hb => bne_iff_ne.mpr fun heq => h (heq ▸ hb)

theorem takeWhile_newline (h : newline ∉ line) :
    (line ++ newline :: rest).takeWhile (· != newline) = line := by
  rw [List.takeWhile_append, takeWhile_of_notMem h]
  simp

theorem dropWhile_newline (h : newline ∉ line) :
    (line ++ newline :: rest).dropWhile (· != newline) = newline :: rest := by
  rw [List.dropWhile_append, dropWhile_of_notMem h]
  simp

/-- A newline is the first one in only one way. -/
theorem newline_inj {line' rest' : Bytes} (h : newline ∉ line) (h' : newline ∉ line')
    (heq : line ++ newline :: rest = line' ++ newline :: rest') : line = line' ∧ rest = rest' := by
  have hline := congrArg (List.takeWhile (· != newline)) heq
  rw [takeWhile_newline h, takeWhile_newline h'] at hline
  obtain rfl := hline
  exact ⟨rfl, (List.cons.inj (List.append_cancel_left heq)).2⟩

/-- The first newline of two parts is in the second one if it is not in the first. -/
theorem exists_append_newline {front back : Bytes} (h : newline ∉ front)
    (heq : front ++ back = line ++ newline :: rest) :
    ∃ line', line = front ++ line' ∧ back = line' ++ newline :: rest := by
  rcases List.append_eq_append_iff.mp heq with ⟨line', hline, hback⟩ | ⟨between, rfl, hrest⟩
  · exact ⟨line', hline, hback⟩
  · cases between with
    | nil => exact ⟨[], by simp, by simpa using hrest.symm⟩
    | cons b between =>
        obtain ⟨rfl, _⟩ := List.cons.inj hrest
        simp at h

end Newline

/-! ### Byte after byte -/

/-- The bytes that chunks hold, one chunk after another. They do not end before that, but there may be
interruptions. -/
inductive Chunk.Hold : List Chunk → Bytes → Prop
  | nil : Hold [] []
  | data (bytes : Bytes) {later : List Chunk} {rest : Bytes} (h : Hold later rest) :
      Hold (.data bytes :: later) (bytes ++ rest)
  | interrupted {fault : Fault} {later : List Chunk} {rest : Bytes}
      (hfault : fault.isInterruption = true) (h : Hold later rest) :
      Hold (.failed fault :: later) rest

namespace Source

/-- All that the source holds. -/
def Holds (s : Source) (bytes : Bytes) : Prop :=
  ∃ rest, Chunk.Hold s.pending rest ∧ bytes = s.unread ++ rest

theorem holds_ofBytes (bytes : Bytes) : (ofBytes bytes).Holds bytes :=
  ⟨[], .nil, (List.append_nil bytes).symm⟩

section ReadFrom

variable (begun : Bytes) {unread : Bytes}

theorem readFrom_newline (h : newline ∉ unread) (rest : Bytes) (pending : List Chunk) :
    readFrom begun (unread ++ newline :: rest) pending =
      (.ok (some (begun ++ unread)), ⟨rest, pending⟩) := by
  rw [readFrom.eq_def]
  simp only [takeWhile_newline h, dropWhile_newline h]

/-- What is read on after the bytes at hand, if they do not end the line. -/
theorem readFrom_of_notMem (h : newline ∉ unread) (pending : List Chunk) :
    readFrom begun unread pending =
      match pending with
      | [] => (.ok (if (begun ++ unread).isEmpty then none else some (begun ++ unread)), ⟨[], []⟩)
      | .data bytes :: later => readFrom (begun ++ unread) bytes later
      | .ended :: later =>
          (.ok (if (begun ++ unread).isEmpty then none else some (begun ++ unread)), ⟨[], later⟩)
      | .failed fault :: later =>
          if fault.isInterruption then readFrom (begun ++ unread) [] later
          else (.error fault, ⟨[], later⟩) := by
  rw [readFrom.eq_def]
  rcases pending with _ | ⟨_ | _ | _, later⟩ <;>
    simp only [takeWhile_of_notMem h, dropWhile_of_notMem h]

end ReadFrom

section Read

variable {pending : List Chunk} {later unread line rest : Bytes}

/-- The newline that ends a line is in the chunk at hand, or it is in those that come later. -/
theorem exists_readFrom_or (hpending : Chunk.Hold pending later) (begun : Bytes)
    (hline : newline ∉ line) (hbytes : unread ++ later = line ++ newline :: rest) :
    (∃ s : Source, readFrom begun unread pending = (.ok (some (begun ++ line)), s) ∧
        s.Holds rest) ∨
      newline ∉ unread ∧ ∃ line', newline ∉ line' ∧ line = unread ++ line' ∧
        later = line' ++ newline :: rest := by
  by_cases hunread : newline ∈ unread
  · obtain ⟨front, back, rfl, hfront⟩ := List.eq_append_cons_of_mem hunread
    rw [List.append_assoc, List.cons_append] at hbytes
    obtain ⟨rfl, rfl⟩ := newline_inj hfront hline hbytes
    exact .inl ⟨⟨back, pending⟩, readFrom_newline begun hfront .., _, hpending, rfl⟩
  · obtain ⟨line', rfl, hlater⟩ := exists_append_newline hunread hbytes
    exact .inr ⟨hunread, line', fun hmem => hline (List.mem_append_right _ hmem), rfl, hlater⟩

/-- A line that a newline ends is read up to there, in as many chunks as it may come. -/
theorem exists_readFrom_newline (hpending : Chunk.Hold pending later) (begun : Bytes)
    (hline : newline ∉ line) (hbytes : unread ++ later = line ++ newline :: rest) :
    ∃ s : Source, readFrom begun unread pending = (.ok (some (begun ++ line)), s) ∧
      s.Holds rest := by
  induction hpending generalizing begun unread line with
  | nil =>
      rcases exists_readFrom_or .nil begun hline hbytes with hdone | ⟨_, line', _, _, hlater⟩
      · exact hdone
      · simp at hlater
  | data bytes h ih =>
      rcases exists_readFrom_or (.data bytes h) begun hline hbytes with
        hdone | ⟨hunread, line', hline', rfl, hlater⟩
      · exact hdone
      · rw [readFrom_of_notMem begun hunread, ← List.append_assoc]
        exact ih (begun ++ unread) hline' hlater
  | interrupted hfault h ih =>
      rcases exists_readFrom_or (.interrupted hfault h) begun hline hbytes with
        hdone | ⟨hunread, line', hline', rfl, hlater⟩
      · exact hdone
      · rw [readFrom_of_notMem begun hunread, ← List.append_assoc]
        simp only [hfault, if_true]
        exact ih (begun ++ unread) hline' hlater

/-- Without another newline all that is left is read, and it is the last line if there is any. -/
theorem exists_readFrom_last (hpending : Chunk.Hold pending later) (begun : Bytes)
    (hbytes : newline ∉ unread ++ later) :
    ∃ s : Source, readFrom begun unread pending =
        (.ok (if (begun ++ unread ++ later).isEmpty then none else some (begun ++ unread ++ later)),
          s) ∧ s.Holds [] := by
  induction hpending generalizing begun unread with
  | nil =>
      rw [List.append_nil] at hbytes ⊢
      exact ⟨⟨[], []⟩, readFrom_of_notMem begun hbytes [], holds_ofBytes []⟩
  | data bytes h ih =>
      obtain ⟨hunread, hlater⟩ := not_or.mp (mt List.mem_append.mpr hbytes)
      rw [readFrom_of_notMem begun hunread, ← List.append_assoc]
      exact ih (begun ++ unread) hlater
  | interrupted hfault h ih =>
      -- What was read before the interruption is begun, and nothing is at hand any more.
      obtain ⟨hunread, hlater⟩ := not_or.mp (mt List.mem_append.mpr hbytes)
      have hrest : newline ∉ [] ++ _ := hlater
      rw [readFrom_of_notMem begun hunread]
      simp only [hfault, if_true]
      simpa using ih (begun ++ unread) hrest

end Read

variable {s : Source} {bytes line rest : Bytes}

theorem Holds.readBytes_newline (h : s.Holds (line ++ newline :: rest)) (hline : newline ∉ line) :
    ∃ s', s.readBytes = (.ok (some line), s') ∧ s'.Holds rest := by
  obtain ⟨later, hpending, hbytes⟩ := h
  exact exists_readFrom_newline hpending [] hline hbytes.symm

theorem Holds.readBytes_last (h : s.Holds bytes) (hbytes : newline ∉ bytes) :
    ∃ s', s.readBytes = (.ok (if bytes.isEmpty then none else some bytes), s') ∧ s'.Holds [] := by
  obtain ⟨later, hpending, rfl⟩ := h
  exact exists_readFrom_last hpending [] hbytes

theorem Holds.serves_newline {line rest : Bytes} (h : s.Holds (line ++ newline :: rest))
    (hline : newline ∉ line) :
    s.readLine.1 = .ok (some (Utf8.decodeLossy line)) ∧ s.readLine.2.Holds rest := by
  obtain ⟨s', hread, hs'⟩ := h.readBytes_newline hline
  rw [readLine, hread]
  exact ⟨rfl, hs'⟩

theorem Holds.serves_last (h : s.Holds bytes) (hbytes : newline ∉ bytes) :
    s.readLine.1 = .ok (if bytes.isEmpty then none else some (Utf8.decodeLossy bytes)) ∧
      s.readLine.2.Holds [] := by
  obtain ⟨s', hread, hs'⟩ := h.readBytes_last hbytes
  rw [readLine, hread]
  refine ⟨?_, hs'⟩
  cases bytes <;> rfl

end Source

/-! ### Block after block -/

namespace Line

variable {line rest : Bytes}

theorem first?_newline (h : newline ∉ line) :
    first? (line ++ newline :: rest) = some (dropReturn line, rest) := by
  simp [first?, takeWhile_newline h, dropWhile_newline h]

theorem first?_last (h : newline ∉ line) :
    first? line = if line.isEmpty then none else some (line, []) := by
  simp only [first?, takeWhile_of_notMem h, dropWhile_of_notMem h]

end Line

namespace Editor

theorem le_readAhead (needed size : Nat) : min needed size ≤ readAhead needed size := by
  simp only [readAhead, blockSize]
  omega

theorem readAhead_le (needed size : Nat) : readAhead needed size ≤ size := Nat.min_le_left ..

theorem lineSize_newline {line rest : Bytes} (h : newline ∉ line) :
    lineSize (line ++ newline :: rest) = line.length + 1 := by
  simp [lineSize, takeWhile_newline h]

theorem lineSize_last {line : Bytes} (h : newline ∉ line) : lineSize line = line.length := by
  simp [lineSize, takeWhile_of_notMem h]

variable {e : Editor} {pending line rest : Bytes}

/-- What is read ahead reaches to the end of the first line. -/
theorem le_length_readAhead {size : Nat} (hsize : lineSize (e.ahead ++ pending) = size) :
    size ≤ (e.ahead ++ pending.take (readAhead (size - e.ahead.length) pending.length)).length := by
  replace hsize : size ≤ (e.ahead ++ pending).length := hsize ▸ Nat.min_le_right ..
  have hcount := le_readAhead (size - e.ahead.length) pending.length
  simp only [List.length_append, List.length_take] at hsize ⊢
  omega

/-- Enough is read to have the whole line. What stands after it is kept or still to be read. -/
theorem readLine_newline (hbytes : e.ahead ++ pending = line ++ newline :: rest)
    (hline : newline ∉ line) :
    ∃ ahead count, count ≤ pending.length ∧ ahead ++ pending.drop count = rest ∧
      e.readLine pending =
        ((e.take (some (Line.dropReturn line, ahead))).1,
          (e.take (some (Line.dropReturn line, ahead))).2, count) := by
  have hreach := le_length_readAhead ((congrArg lineSize hbytes).trans (lineSize_newline hline))
  generalize hcount : readAhead (line.length + 1 - e.ahead.length) pending.length = count at hreach
  have hsplit : e.ahead ++ pending.take count ++ pending.drop count = line ++ [newline] ++ rest := by
    rw [List.append_assoc, List.take_append_drop, hbytes, List.append_assoc]
    rfl
  obtain ⟨ahead, hahead⟩ : line ++ [newline] <+: e.ahead ++ pending.take count :=
    List.prefix_of_prefix_length_le ⟨rest, rfl⟩ ⟨_, hsplit⟩ (by simpa using hreach)
  -- The line and its newline are the first of what is at hand; the rest of it is kept.
  refine ⟨ahead, count, by rw [← hcount]; exact readAhead_le .., ?_, ?_⟩
  · rw [← hahead, List.append_assoc] at hsplit
    exact List.append_cancel_left hsplit
  · have hfirst : Line.first? (line ++ newline :: ahead) = some (Line.dropReturn line, ahead) :=
      Line.first?_newline hline
    simp only [readLine, hbytes, lineSize_newline hline, hcount, ← hahead, List.append_assoc,
      List.singleton_append, hfirst]

/-- All that is left is read if no newline is left. -/
theorem readLine_last (hbytes : newline ∉ e.ahead ++ pending) :
    e.readLine pending =
      ((e.take (Line.first? (e.ahead ++ pending))).1,
        (e.take (Line.first? (e.ahead ++ pending))).2, pending.length) := by
  have hsize := lineSize_last hbytes
  have hcount : readAhead (lineSize (e.ahead ++ pending) - e.ahead.length) pending.length =
      pending.length := by
    have hle := le_readAhead (lineSize (e.ahead ++ pending) - e.ahead.length) pending.length
    have hge := readAhead_le (lineSize (e.ahead ++ pending) - e.ahead.length) pending.length
    simp only [hsize, List.length_append] at hle hge ⊢
    omega
  simp only [readLine, hcount, List.take_length]

end Editor

end LineShell
