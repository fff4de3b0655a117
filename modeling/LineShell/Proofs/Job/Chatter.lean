import LineShell.Proofs.Job.Ends
import LineShell.Proofs.Job.Reference
import LineShell.Proofs.Kernel.Room

/-!
A job that talks too much: `help` is asked time and again for the help on itself, and another task
is to read it. The record of the job is known for any number of times.
-/

namespace LineShell

namespace Console

theorem write_rehearsed (bytes : Bytes) (c : Console (Recorded Rehearsal)) :
    call (Kernel.write Descriptor.output bytes) c =
      (.ok (), { c with kernel :=
        ⟨c.kernel.kernel, c.kernel.log ++ [.wrote Descriptor.output bytes (.ok ())]⟩ }) := rfl

theorem print_lines_rehearsed {bytes lines tail : Bytes} (h : splitLines bytes = (lines, tail))
    (hlines : lines ≠ []) (htail : tail.length < bufferCapacity) (k : Rehearsal)
    (log : List Event) :
    print bytes (⟨⟨k, log⟩, []⟩ : Console (Recorded Rehearsal)) =
      (.ok (), ⟨⟨k, log ++ [.wrote Descriptor.output lines (.ok ())]⟩, tail⟩) := by
  have hroom : tail.length ≤ bufferCapacity := Nat.le_of_lt htail
  simp [print, h, hlines, writeThrough, write_rehearsed, buffer, hroom, htail, append]

theorem print_newline_rehearsed {tail : Bytes} (hne : tail ≠ [])
    (htail : tail.length < bufferCapacity) (k : Rehearsal) (log : List Event) :
    print (Utf8.encode "\n") (⟨⟨k, log⟩, tail⟩ : Console (Recorded Rehearsal)) =
      (.ok (), ⟨⟨k, log ++ [.wrote Descriptor.output (tail ++ [Utf8.newline]) (.ok ())]⟩, []⟩) := by
  have hsplit : splitLines (Utf8.encode "\n") = ([Utf8.newline], []) := by decide +kernel
  have hroom : 1 ≤ bufferCapacity - tail.length := by omega
  have hone : 1 < bufferCapacity := by decide
  have hzero : 0 < bufferCapacity := by decide
  simp [print, hsplit, hne, buffer, hroom, hone, hzero, append, flush, write_rehearsed]

end Console

namespace Builtin.Help

/-- The two writes in which the help on `help` itself goes out. -/
def told : List Event :=
  let (lines, tail) := Console.splitLines (Utf8.encode topic.help)
  [.wrote Descriptor.output lines (.ok ()),
    .wrote Descriptor.output (tail ++ [Utf8.newline]) (.ok ())]

/-- The help on `help` has some whole lines and a last one, which fits into the buffer. -/
theorem split_help {lines tail : Bytes}
    (h : Console.splitLines (Utf8.encode topic.help) = (lines, tail)) :
    lines ≠ [] ∧ tail ≠ [] ∧ tail.length < Console.bufferCapacity ∧
      lines.length + (tail ++ [Utf8.newline]).length = 213 := by
  obtain rfl : (Console.splitLines (Utf8.encode topic.help)).1 = lines := congrArg Prod.fst h
  obtain rfl : (Console.splitLines (Utf8.encode topic.help)).2 = tail := congrArg Prod.snd h
  decide +kernel

theorem writeAll_rehearsed (n : Nat) (k : Rehearsal) (log : List Event) :
    Console.standardOutput.writeAll ((List.replicate n topic).flatMap fun t => [t.help, "\n"])
        (⟨⟨k, log⟩, []⟩ : Console (Recorded Rehearsal)) =
      (.ok (), ⟨⟨k, log ++ (List.replicate n told).flatten⟩, []⟩) := by
  induction n generalizing log with
  | zero => simp [Sink.writeAll]
  | succ n ih =>
      rcases hsplit : Console.splitLines (Utf8.encode topic.help) with ⟨lines, tail⟩
      obtain ⟨hlines, hne, htail, _⟩ := split_help hsplit
      simp only [List.replicate_succ, List.flatMap_cons, List.cons_append, List.nil_append,
        Sink.writeAll, Console.standardOutput, bind_apply,
        Console.print_lines_rehearsed hsplit hlines htail,
        Console.print_newline_rehearsed hne htail]
      refine (ih _).trans ?_
      simp [told, hsplit]

theorem run_rehearsed (n : Nat) (k : Rehearsal) (log : List Event) :
    Registry.standard.run Console.standardOutput (topic.name :: List.replicate (n + 1) topic.name)
        (⟨⟨k, log⟩, []⟩ : Console (Recorded Rehearsal)) =
      (some .success, ⟨⟨k, log ++ (List.replicate (n + 1) told).flatten⟩, []⟩) := by
  let registry : Registry (Console (Recorded Rehearsal)) := .standard
  have hfind : registry.find? topic.name = some command := rfl
  have hfirst : registry.topics.find? (·.name = topic.name) = some topic := rfl
  have hselect : select registry.topics (List.replicate (n + 1) topic.name) =
      List.replicate (n + 1) topic := by
    rw [select, List.filterMap_replicate, hfirst]
  have houtput : output registry.topics (List.replicate (n + 1) topic.name) =
      (List.replicate (n + 1) topic).flatMap fun t => [t.help, "\n"] := by
    rw [output, hselect]
    rfl
  have hmissing : missing? registry.topics (List.replicate (n + 1) topic.name) = none := by
    simp [missing?, hselect, List.getLast?_replicate]
  show registry.run _ _ _ = _
  simp only [Registry.run, hfind, command, body, bind_apply, List.drop_succ_cons, List.drop_zero,
    houtput, writeAll_rehearsed, hmissing]
  rfl

theorem isOutput_of_told {n : Nat} : ∀ e ∈ (List.replicate n told).flatten, e.IsOutput := by
  have hone : ∀ e ∈ told, e.IsOutput := by simp [told, Event.IsOutput]
  intro e he
  obtain ⟨events, hevents, he⟩ := List.mem_flatten.mp he
  rw [List.eq_of_mem_replicate hevents] at he
  exact hone e he

theorem queued_told (l : Ledger) (pipe n : Nat) :
    l.queued pipe (List.replicate n told).flatten =
      if l.table Descriptor.output = some (.writer pipe) then n * 213 else 0 := by
  have hone : l.queued pipe told =
      if l.table Descriptor.output = some (.writer pipe) then 213 else 0 := by
    rcases hsplit : Console.splitLines (Utf8.encode topic.help) with ⟨lines, tail⟩
    obtain ⟨_, _, _, hlength⟩ := split_help hsplit
    by_cases h : l.table Descriptor.output = some (.writer pipe)
    · simpa [told, hsplit, Ledger.queued, Ledger.poured, Ledger.record, h] using hlength
    · simp [told, hsplit, Ledger.queued, Ledger.poured, Ledger.record, h]
  induction n with
  | zero => simp [Ledger.queued]
  | succ n ih =>
      rw [List.replicate_succ, List.flatten_cons, Ledger.queued_append, hone,
        show l.after told = l from rfl, ih]
      split
      · omega
      · rfl

end Builtin.Help

namespace Job

/-- Asks `n + 1` times for the help on `help`, and has another task read it. -/
def chatter (n : Nat) : Job :=
  .ofArgvs [Builtin.Help.topic.name :: List.replicate (n + 1) Builtin.Help.topic.name, ["cat"]]

/-- What the shell asks for before the help goes out. -/
def beforeChatter : List Event :=
  [.piped (.ok (3, 4)), .duplicated 1 (.ok 5), .replaced 4 1 (.ok ())]

def afterChatter : List Event :=
  [.replaced 5 1 (.ok ()), .closed 5, .closed 4, .forked ⟨["cat"], [(3, 0)], [3]⟩ (.ok 2),
    .closed 3, .waited 2]

theorem log_chatter (n : Nat) :
    (execute Registry.standard (chatter n)
      ({ kernel := { kernel := {} } } : Console (Recorded Rehearsal))).2.kernel.log =
        beforeChatter ++ (List.replicate (n + 1) Builtin.Help.told).flatten ++ afterChatter := by
  let opened : Console (Recorded Rehearsal) :=
    ⟨⟨{ inUse := [4, 3, 0, 1, 2] }, [.piped (.ok (3, 4))]⟩, []⟩
  have hopen : Console.call (Pipe.openMany ((chatter n).size - 1))
      { kernel := { kernel := {} } } = (.ok [⟨3, 4⟩], opened) := rfl
  have hbound : Console.call (Streams.bindAfter [] (Streams.first none [⟨3, 4⟩]).bindings)
      (Console.flush opened).2 =
        ((.ok (), [⟨1, 5⟩]), ⟨⟨{ inUse := [5, 4, 3, 0, 1, 2] }, beforeChatter⟩, []⟩) := rfl
  have hturn : Task.turn Registry.standard (.first none [⟨3, 4⟩]) (Pipe.endsFrom none [⟨3, 4⟩])
      (Builtin.Help.topic.name :: List.replicate (n + 1) Builtin.Help.topic.name) opened =
        (.command .success, ⟨⟨{ inUse := [4, 3, 0, 1, 2] },
          beforeChatter ++ (List.replicate (n + 1) Builtin.Help.told).flatten ++
            [Event.replaced 5 1 (.ok ())] ++ [Event.closed 5]⟩, []⟩) := by
    have hbuiltin : (Registry.standard (σ := Console (Recorded Rehearsal))).isBuiltin
        Builtin.Help.topic.name = true := rfl
    rw [Task.turn, if_pos hbuiltin, Task.runBuiltin, bind_apply, Streams.within_of_bound hbound,
      Builtin.Help.run_rehearsed]
    rfl
  have hturns : turns Registry.standard none [⟨3, 4⟩] (chatter n).argvs opened =
      ([.command .success, .launched 2], ⟨⟨{ inUse := [0, 1, 2], lastPid := 2 },
        beforeChatter ++ (List.replicate (n + 1) Builtin.Help.told).flatten ++
          [Event.replaced 5 1 (.ok ())] ++ [Event.closed 5] ++ [Event.closed 4] ++
          [Event.forked ⟨["cat"], [(3, 0)], [3]⟩ (.ok 2)] ++ [Event.closed 3]⟩, []⟩) := by
    rw [chatter, argvs_ofArgvs, turns, bind_apply, hturn]
    -- The record so far depends on `n`; the rest can be evaluated with any record in its place.
    generalize beforeChatter ++ (List.replicate (n + 1) Builtin.Help.told).flatten = log
    obtain ⟨_, _, _, hstandard⟩ := Registry.exists_standard (σ := Console (Recorded Rehearsal))
    rw [hstandard]
    cbv
  have hafter (log : List Event) : log ++ afterChatter =
      log ++ [Event.replaced 5 1 (.ok ())] ++ [Event.closed 5] ++ [Event.closed 4] ++
        [Event.forked ⟨["cat"], [(3, 0)], [3]⟩ (.ok 2)] ++ [Event.closed 3] ++
        [Event.waited 2] := by
    simp [afterChatter]
  rw [execute_of_opened hopen, hturns]
  generalize beforeChatter ++ (List.replicate (n + 1) Builtin.Help.told).flatten = log
  rw [hafter]
  rfl

/-- The system does well by the job. -/
theorem lawful_chatter (n : Nat) :
    let log := beforeChatter ++ (List.replicate (n + 1) Builtin.Help.told).flatten ++ afterChatter
    (Ledger.start customary).Lawful log ∧ (Ledger.start customary).Along Ledger.Accepts log := by
  have htold : ∀ e ∈ (List.replicate (n + 1) Builtin.Help.told).flatten,
      ∀ l : Ledger, l.Grants e ∧ l.Accepts e := by
    intro e he l
    obtain ⟨events, hevents, he⟩ := List.mem_flatten.mp he
    rw [List.eq_of_mem_replicate hevents] at he
    simp only [Builtin.Help.told, List.mem_cons, List.not_mem_nil, or_false] at he
    rcases he with rfl | rfl
    · exact ⟨trivial, fun _ _ _ _ => rfl⟩
    · exact ⟨trivial, fun _ _ _ _ => rfl⟩
  have hbefore : (Ledger.start customary).Lawful beforeChatter := by
    cbv
    simp
  have hafter : ((Ledger.start customary).after beforeChatter).Lawful afterChatter := by
    cbv
    simp
  intro log
  constructor
  · have houtput (l : Ledger) : l.Lawful (List.replicate (n + 1) Builtin.Help.told).flatten :=
      Ledger.along_of_forall (fun e he l => (htold e he l).1) l
    rw [Ledger.lawful_append, Ledger.lawful_append, Ledger.after_append,
      Ledger.after_of_isOutput _ Builtin.Help.isOutput_of_told]
    exact ⟨⟨hbefore, houtput _⟩, hafter⟩
  · have houtput (l : Ledger) :
        l.Along Ledger.Accepts (List.replicate (n + 1) Builtin.Help.told).flatten :=
      Ledger.along_of_forall (fun e he l => (htold e he l).2) l
    rw [Ledger.along_append, Ledger.along_append]
    refine ⟨⟨?_, houtput _⟩, ?_⟩
    · simp [beforeChatter, Ledger.Accepts]
    · simp [afterChatter, Ledger.Accepts]

theorem queued_chatter (pipe n : Nat) : (Ledger.start customary).queued pipe
    (beforeChatter ++ (List.replicate (n + 1) Builtin.Help.told).flatten ++ afterChatter) =
      if pipe = 0 then (n + 1) * 213 else 0 := by
  have hbound : ((Ledger.start customary).after beforeChatter).table Descriptor.output =
      some (.writer 0) := rfl
  rw [Ledger.queued_append, Ledger.queued_append, Builtin.Help.queued_told, hbound]
  simp [beforeChatter, afterChatter, Ledger.queued, Ledger.poured, eq_comm]

end Job

end LineShell
