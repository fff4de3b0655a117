import LineShell.Line.Source
import LineShell.Proofs.Line.Cut
import Mathlib

/-!
A source as it is seen by somebody who asks it for one byte at a time: each demand is answered by a
byte, by an end, or by a failure. Lines are read from the answers alone, and each line takes a part of
them and leaves the rest, so no answer is used twice and none is passed over.
-/

namespace LineShell

open Utf8 (newline decodeLossy)

/-! ### Answers -/

/-- What a source answers to one demand for a byte. -/
inductive Source.Answer where
  | byte (b : UInt8)
  /-- There is no byte for now. -/
  | ended
  | failed (fault : Fault)
  deriving DecidableEq, Repr

open Source (Answer)

def Chunk.answers : Chunk → List Answer
  | .data bytes => bytes.map .byte
  | .ended => [.ended]
  | .failed fault => [.failed fault]

namespace Source

/-- All that a source has to answer. After the last of it there is an end for every demand. -/
def answers (s : Source) : List Answer := s.unread.map .byte ++ s.pending.flatMap Chunk.answers

namespace Answer

def byte? : Answer → Option UInt8
  | byte b => some b
  | _ => none

/-- A byte of a line, or an interruption: it is not what a line, or the attempt to read one, ends
with. -/
inductive Quiet : Answer → Prop
  | byte {b : UInt8} (h : b ≠ newline) : Quiet (byte b)
  | interrupted {fault : Fault} (h : fault.isInterruption = true) : Quiet (failed fault)

/-- The bytes among some answers. -/
def bytes (part : List Answer) : Bytes := part.filterMap byte?

@[simp] theorem bytes_nil : bytes [] = [] := rfl

@[simp] theorem bytes_byte (b : UInt8) (part : List Answer) :
    bytes (byte b :: part) = b :: bytes part := rfl

@[simp] theorem bytes_ended (part : List Answer) : bytes (ended :: part) = bytes part := rfl

@[simp] theorem bytes_failed (fault : Fault) (part : List Answer) :
    bytes (failed fault :: part) = bytes part := rfl

@[simp] theorem bytes_append (part later : List Answer) :
    bytes (part ++ later) = bytes part ++ bytes later := List.filterMap_append

@[simp] theorem bytes_map_byte (line : Bytes) : bytes (line.map byte) = line := by
  induction line with
  | nil => rfl
  | cons b line ih => rw [List.map_cons, bytes_byte, ih]

/-- Asks for one byte after another, where `line` is what has come of the line so far. -/
def demand (line : Bytes) : List Answer → Except Fault (Option Bytes) × List Answer
  | [] => (.ok (if line.isEmpty then none else some line), [])
  | byte b :: later => if b = newline then (.ok (some line), later) else demand (line ++ [b]) later
  | ended :: later => (.ok (if line.isEmpty then none else some line), later)
  | failed fault :: later =>
      if fault.isInterruption then demand line later else (.error fault, later)

variable {line more : Bytes}

theorem demand_newline (h : newline ∉ more) (later : List Answer) :
    demand line (more.map byte ++ byte newline :: later) = (.ok (some (line ++ more)), later) := by
  induction more generalizing line with
  | nil => simp [demand]
  | cons b more ih =>
      obtain ⟨hb, hmore⟩ := not_or.mp (mt List.mem_cons.mpr h)
      rw [List.map_cons, List.cons_append, demand, if_neg (Ne.symm hb), ih hmore]
      simp

theorem demand_of_notMem (h : newline ∉ more) (later : List Answer) :
    demand line (more.map byte ++ later) = demand (line ++ more) later := by
  induction more generalizing line with
  | nil => simp
  | cons b more ih =>
      obtain ⟨hb, hmore⟩ := not_or.mp (mt List.mem_cons.mpr h)
      rw [List.map_cons, List.cons_append, demand, if_neg (Ne.symm hb), ih hmore]
      simp

end Answer

/-- That a line is taken from the bytes at hand all at once makes no difference. -/
theorem readFrom_eq_demand (line unread : Bytes) (pending : List Chunk) :
    Answer.demand line (answers ⟨unread, pending⟩) =
      ((readFrom line unread pending).1, (readFrom line unread pending).2.answers) := by
  -- A chunk is asked for when no newline is among the bytes at hand, and then they all are in the line.
  induction pending generalizing line unread with
  | nil =>
      by_cases hmem : newline ∈ unread
      · obtain ⟨front, back, rfl, hfront⟩ := List.eq_append_cons_of_mem hmem
        rw [readFrom_newline line hfront]
        simp [answers, Answer.demand_newline hfront]
      · rw [readFrom_of_notMem line hmem, answers, Answer.demand_of_notMem hmem]
        rfl
  | cons chunk later ih =>
      by_cases hmem : newline ∈ unread
      · obtain ⟨front, back, rfl, hfront⟩ := List.eq_append_cons_of_mem hmem
        rw [readFrom_newline line hfront]
        simp [answers, Answer.demand_newline hfront]
      · rw [readFrom_of_notMem line hmem, answers, Answer.demand_of_notMem hmem]
        cases chunk with
        | data bytes => exact ih (line ++ unread) bytes
        | ended => rfl
        | failed fault =>
            have hinterrupted := ih (line ++ unread) []
            simp only [answers, List.map_nil, List.nil_append] at hinterrupted
            simp only [List.flatMap_cons, Chunk.answers, List.cons_append, List.nil_append,
              Answer.demand]
            split
            · exact hinterrupted
            · rfl

theorem readLine_eq_demand (s : Source) :
    s.readLine.1 = (Answer.demand [] s.answers).1.map (·.map decodeLossy) ∧
      s.readLine.2.answers = (Answer.demand [] s.answers).2 := by
  have h : Answer.demand [] s.answers = (s.readBytes.1, s.readBytes.2.answers) :=
    readFrom_eq_demand [] s.unread s.pending
  rw [h]
  exact ⟨rfl, rfl⟩

/-! ### What one line takes -/

/-- What comes of asking for a line, by the answers that this takes and those that are left: a line
that a newline ends; what has come before an end, if anything has; or a failure, with which all that
has come before it is lost. -/
inductive Answer.Serves : List Answer → List Answer → Except Fault (Option String) → Prop
  | newline {part : List Answer} (left : List Answer) (h : ∀ a ∈ part, a.Quiet) :
      Serves (part ++ [byte Utf8.newline]) left (.ok (some (decodeLossy (bytes part))))
  | ended {part : List Answer} (left : List Answer) (h : ∀ a ∈ part, a.Quiet) :
      Serves (part ++ [ended]) left
        (.ok (if bytes part = [] then none else some (decodeLossy (bytes part))))
  | exhausted {part : List Answer} (h : ∀ a ∈ part, a.Quiet) :
      Serves part [] (.ok (if bytes part = [] then none else some (decodeLossy (bytes part))))
  | failed {part : List Answer} {fault : Fault} (left : List Answer) (h : ∀ a ∈ part, a.Quiet)
      (hfault : fault.isInterruption = false) : Serves (part ++ [failed fault]) left (.error fault)

theorem Answer.serves_demand {before : List Answer} (h : ∀ a ∈ before, a.Quiet)
    (later : List Answer) :
    ∃ part, before ++ later = part ++ (demand (bytes before) later).2 ∧
      Serves part (demand (bytes before) later).2
        ((demand (bytes before) later).1.map (·.map decodeLossy)) := by
  have hrest (line : Bytes) : (if line.isEmpty then none else some line).map decodeLossy =
      if line = [] then none else some (decodeLossy line) := by
    cases line <;> rfl
  -- What is asked for on the way is put behind what was asked for before.
  induction later generalizing before with
  | nil =>
      refine ⟨before, rfl, ?_⟩
      simp only [demand, Except.map, hrest]
      exact .exhausted h
  | cons a later ih =>
      have hmore (hquiet : a.Quiet) : ∀ a' ∈ before ++ [a], a'.Quiet :=
        List.forall_mem_append.mpr ⟨h, List.forall_mem_singleton.mpr hquiet⟩
      rw [List.append_cons before a later]
      cases a with
      | byte b =>
          by_cases hb : b = newline
          · subst hb
            refine ⟨before ++ [byte newline], ?_, ?_⟩
            · simp [demand]
            · simp only [demand, if_true]
              exact .newline later h
          · simpa [demand, hb] using ih (hmore (.byte hb))
      | ended =>
          refine ⟨before ++ [ended], ?_, ?_⟩
          · simp [demand]
          · simp only [demand, Except.map, hrest]
            exact .ended later h
      | failed fault =>
          cases hfault : fault.isInterruption with
          | true => simpa [demand, hfault] using ih (hmore (.interrupted hfault))
          | false =>
              refine ⟨before ++ [failed fault], ?_, ?_⟩
              · simp [demand, hfault]
              · simp only [demand, hfault, Bool.false_eq_true, if_false]
                exact .failed later h hfault

theorem serves_readLine (s : Source) :
    ∃ part, s.answers = part ++ s.readLine.2.answers ∧
      Answer.Serves part s.readLine.2.answers s.readLine.1 := by
  obtain ⟨hline, hleft⟩ := s.readLine_eq_demand
  rw [hline, hleft]
  exact Answer.serves_demand (List.forall_mem_nil _) s.answers

/-- What comes of asking for a line depends on the answers alone that are left. -/
theorem readLine_congr {s s' : Source} (h : s.answers = s'.answers) :
    s.readLine.1 = s'.readLine.1 ∧ s.readLine.2.answers = s'.readLine.2.answers := by
  obtain ⟨hline, hleft⟩ := s.readLine_eq_demand
  obtain ⟨hline', hleft'⟩ := s'.readLine_eq_demand
  rw [hline, hleft, hline', hleft', h]
  exact ⟨rfl, rfl⟩

/-! ### Line after line -/

/-- Asks for a number of lines. -/
def readLines (s : Source) : Nat → List (Except Fault (Option String)) × Source
  | 0 => ([], s)
  | n + 1 => (s.readLine.1 :: (s.readLine.2.readLines n).1, (s.readLine.2.readLines n).2)

/-- Lines are asked for with these results: each attempt takes a part of the answers, and the next one
goes on from there. -/
inductive Answer.Account :
    List (List Answer) → List (Except Fault (Option String)) → List Answer → Prop
  | nil (left : List Answer) : Account [] [] left
  | cons {part : List Answer} {parts : List (List Answer)} {result : Except Fault (Option String)}
      {results : List (Except Fault (Option String))} {left : List Answer}
      (h : Serves part (parts.flatten ++ left) result) (hlater : Account parts results left) :
      Account (part :: parts) (result :: results) left

/-- However many lines are asked for, each attempt comes to something. Each answer of the source is used
for one of them, in order, and what comes of them depends on nothing but the answers. -/
theorem account_readLines (s : Source) (n : Nat) :
    (s.readLines n).1.length = n ∧
    (∃ parts, s.answers = parts.flatten ++ (s.readLines n).2.answers ∧
      Answer.Account parts (s.readLines n).1 (s.readLines n).2.answers) ∧
    ∀ s' : Source, s'.answers = s.answers →
      (s'.readLines n).1 = (s.readLines n).1 ∧
        (s'.readLines n).2.answers = (s.readLines n).2.answers := by
  induction n generalizing s with
  | zero => exact ⟨rfl, ⟨[], rfl, .nil _⟩, fun s' h => ⟨rfl, h⟩⟩
  | succ n ih =>
      obtain ⟨part, hpart, hserves⟩ := s.serves_readLine
      obtain ⟨hlength, ⟨parts, hparts, haccount⟩, hlater⟩ := ih s.readLine.2
      refine ⟨congrArg Nat.succ hlength, ⟨part :: parts, ?_, ?_⟩, fun s' h => ?_⟩
      · rw [hpart, hparts, List.flatten_cons, List.append_assoc]
        rfl
      · rw [hparts] at hserves
        exact .cons hserves haccount
      · obtain ⟨hline, hleft⟩ := readLine_congr h
        obtain ⟨hlines, hrest⟩ := hlater _ hleft
        exact ⟨by rw [readLines, readLines, hline, hlines], hrest⟩

/-- A line is interrupted, another one is lost by a failure, and twice an end comes after a byte. In
what chunks the bytes come does not matter. -/
theorem account_readLines_mixed :
    let s : Source := ⟨[0x61], [.failed (.system .interrupted), .data [0x62, 0x0A, 0x63],
      .failed (.other "lost"), .ended, .data [0x64], .ended, .data [0x65]]⟩
    let s' : Source := ⟨[], [.data [0x61], .failed (.system .interrupted), .data [0x62],
      .data [0x0A], .data [0x63], .failed (.other "lost"), .ended, .data [0x64], .ended, .data [0x65]]⟩
    (s'.readLines 6).1 = (s.readLines 6).1 ∧
      (s.readLines 6).1 = [.ok (some "ab"), .error (.other "lost"), .ok none, .ok (some "d"),
        .ok (some "e"), .ok none] := by
  intro s s'
  obtain ⟨-, -, hcongr⟩ := account_readLines s 6
  refine ⟨(hcongr s' rfl).1, ?_⟩
  cbv

end Source

end LineShell
