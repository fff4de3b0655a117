import LineShell.Builtin.Help
import LineShell.Proofs.Builtin.Dispatched
import LineShell.Proofs.Text.Decoded
import LineShell.Shell.Supply
import LineShell.Sink.Bounded

/-!
What `help` tells, and how much of it is taken by a place for output that has only so much room.
The whole text is fixed by the list of commands and the names that are asked for. Of it the place
takes what it has room for, and the command succeeds if that is everything and there was something
to tell.
-/

namespace LineShell

namespace Utf8

theorem encode_append (text later : String) : encode (text ++ later) = encode text ++ encode later := by
  simp only [encode_eq_flatMap, String.toList_append, List.flatMap_append]

theorem encode_join (texts : List String) : encode (String.join texts) = texts.flatMap encode := by
  induction texts with
  | nil => exact encode_empty
  | cons text rest ih => rw [String.join_cons, encode_append, ih, List.flatMap_cons]

end Utf8

/-! ### Places with only so much room -/

namespace Sink

variable {σ : Type}

/-- Where the room is known, only so many bytes are taken in all. A write is taken as far as there is
room, and fails if that is not the whole of it. Flushing may fail too, but changes nothing about what
was taken. -/
structure Limited (sink : Sink σ) (room : σ → Option Nat) (taken : σ → Bytes) : Prop where
  write_eq_ok_iff (bytes : Bytes) {s : σ} {n : Nat} : room s = some n →
    ((sink.write bytes s).1 = .ok () ↔ bytes.length ≤ n)
  room_write (bytes : Bytes) {s : σ} {n : Nat} : room s = some n →
    room (sink.write bytes s).2 = some (n - bytes.length)
  taken_write (bytes : Bytes) {s : σ} {n : Nat} : room s = some n →
    taken (sink.write bytes s).2 = taken s ++ bytes.take n
  taken_flush (s : σ) : taken (sink.flush s).2 = taken s

namespace Limited

variable {sink : Sink σ} {room : σ → Option Nat} {taken : σ → Bytes}
  (h : sink.Limited room taken)

include h

theorem writeAll_cons_of_le {text : String} {s : σ} {n : Nat} (hroom : room s = some n)
    (hfits : (Utf8.encode text).length ≤ n) (rest : List String) :
    sink.writeAll (text :: rest) s = sink.writeAll rest (sink.write (Utf8.encode text) s).2 := by
  rw [writeAll, bind_apply, (h.write_eq_ok_iff _ hroom).mpr hfits]

theorem writeAll_cons_of_lt {text : String} {s : σ} {n : Nat} (hroom : room s = some n)
    (hcut : n < (Utf8.encode text).length) (rest : List String) :
    (sink.writeAll (text :: rest) s).1 ≠ .ok () ∧
      (sink.writeAll (text :: rest) s).2 = (sink.write (Utf8.encode text) s).2 := by
  have hwrite := mt (h.write_eq_ok_iff (Utf8.encode text) hroom).mp (Nat.not_le.mpr hcut)
  rw [writeAll, bind_apply]
  cases hanswer : (sink.write (Utf8.encode text) s).1 with
  | ok => exact absurd hanswer hwrite
  | error fault => exact ⟨by simp, rfl⟩

/-- Many writes go as one write of all the texts would. -/
theorem writeAll_eq_ok_iff (texts : List String) {s : σ} {n : Nat} (hroom : room s = some n) :
    (sink.writeAll texts s).1 = .ok () ↔ (texts.flatMap Utf8.encode).length ≤ n := by
  induction texts generalizing s n with
  | nil => simp [writeAll]
  | cons text rest ih =>
      rw [List.flatMap_cons, List.length_append]
      rcases Nat.lt_or_ge n (Utf8.encode text).length with hcut | hfits
      · exact iff_of_false (h.writeAll_cons_of_lt hroom hcut rest).1 (by omega)
      · rw [h.writeAll_cons_of_le hroom hfits, ih (h.room_write _ hroom)]
        omega

theorem taken_writeAll (texts : List String) {s : σ} {n : Nat} (hroom : room s = some n) :
    taken (sink.writeAll texts s).2 = taken s ++ (texts.flatMap Utf8.encode).take n := by
  induction texts generalizing s n with
  | nil => simp [writeAll]
  | cons text rest ih =>
      rw [List.flatMap_cons, List.take_append]
      rcases Nat.lt_or_ge n (Utf8.encode text).length with hcut | hfits
      · rw [(h.writeAll_cons_of_lt hroom hcut rest).2, h.taken_write _ hroom,
          Nat.sub_eq_zero_of_le hcut.le, List.take_zero, List.append_nil]
      · rw [h.writeAll_cons_of_le hroom hfits, ih (h.room_write _ hroom), h.taken_write _ hroom,
          List.append_assoc]

end Limited

end Sink

theorem Bounded.limited {σ : Type} :
    (sink (σ := σ)).Limited (fun p => p.2.room) fun p => p.2.taken where
  write_eq_ok_iff bytes s n hroom := by
    by_cases hfits : bytes.length ≤ n <;> simp [sink, write, hroom, hfits]
  room_write bytes s n hroom := by simp [sink, write, hroom]
  taken_write bytes s n hroom := taken_write_of_room_some hroom bytes
  taken_flush _ := rfl

namespace Registry

variable {σ : Type}

/-! ### The whole text -/

/-- One line for each command that is listed, in the order of the list. -/
def overview (r : Registry σ) : String :=
  "koiSh v0.1.0\n----------\nExecute a program by entering its name.\n" ++
  "Otherwise, the following commands are built-in:\n\n" ++
  String.join (r.commands.map fun c => "  " ++ c.name ++ "\t\t" ++ c.description ++ "\n") ++
  "\nYou can also use `man <program_name>` for specific information on a program.\n"

/-- The help text of the command that each name stands for, one below the other. There is none for a
name that nothing is listed under. -/
inductive Explains (r : Registry σ) : List String → String → Prop
  | nil : r.Explains [] ""
  | known {name : String} {names : List String} {c : Command σ} {text : String} :
      r.IsFirst name c → r.Explains names text →
        r.Explains (name :: names) (c.help ++ "\n" ++ text)
  | unknown {name : String} {names : List String} {text : String} :
      ¬ r.Knows [name] → r.Explains names text → r.Explains (name :: names) text

/-- All that there is to tell when the names are asked for. -/
inductive Tells (r : Registry σ) : List String → String → Prop
  | overview : r.Tells [] r.overview
  | topics {name : String} {names : List String} {text : String} :
      r.Explains (name :: names) text → r.Tells (name :: names) text

/-- Something is listed under one of the names, or none are given. -/
def CanTell (r : Registry σ) (names : List String) : Prop :=
  names = [] ∨ ∃ name ∈ names, r.Knows [name]

variable {r : Registry σ}

theorem IsFirst.knows {name : String} {c : Command σ} (h : r.IsFirst name c) : r.Knows [name] :=
  isBuiltin_iff.mp (by simp [isBuiltin, find?_eq_some_iff.mpr h])

theorem IsFirst.unique {name : String} {c c' : Command σ} (h : r.IsFirst name c)
    (h' : r.IsFirst name c') : c = c' :=
  Option.some.inj ((find?_eq_some_iff.mpr h).symm.trans (find?_eq_some_iff.mpr h'))

theorem Explains.unique {names : List String} {text text' : String} (h : r.Explains names text)
    (h' : r.Explains names text') : text = text' := by
  induction h generalizing text' with
  | nil => cases h'; rfl
  | known hfirst _ ih =>
      cases h' with
      | known hfirst' hrest' => rw [hfirst.unique hfirst', ih hrest']
      | unknown hnot => exact absurd hfirst.knows hnot
  | unknown hnot _ ih =>
      cases h' with
      | known hfirst' => exact absurd hfirst'.knows hnot
      | unknown _ hrest' => exact ih hrest'

theorem Tells.unique {names : List String} {text text' : String} (h : r.Tells names text)
    (h' : r.Tells names text') : text = text' := by
  cases h with
  | overview => cases h'; rfl
  | topics hexplains =>
      cases h' with
      | topics hexplains' => exact hexplains.unique hexplains'

end Registry

namespace Builtin.Help

variable {σ : Type} (r : Registry σ)

theorem find?_topics (name : String) :
    r.topics.find? (·.name = name) = (r.find? name).map Command.toTopic := by
  rw [Registry.topics, List.find?_map]
  rfl

/-- Asking for one more name: there is more to tell just if something is listed under it. -/
theorem select_cons (name : String) (names : List String) :
    (∃ c, r.IsFirst name c ∧
      select r.topics (name :: names) = c.toTopic :: select r.topics names) ∨
    (¬ r.Knows [name] ∧ select r.topics (name :: names) = select r.topics names) := by
  rw [select, List.filterMap_cons, find?_topics]
  cases hfind : r.find? name with
  | none => exact .inr ⟨Registry.find?_eq_none_iff.mp hfind, rfl⟩
  | some c => exact .inl ⟨c, Registry.find?_eq_some_iff.mp hfind, rfl⟩

theorem explains_select (names : List String) :
    r.Explains names (String.join ((select r.topics names).flatMap fun t => [t.help, "\n"])) := by
  induction names with
  | nil => exact .nil
  | cons name names ih =>
      rcases select_cons r name names with ⟨c, hfirst, hselect⟩ | ⟨hnot, hselect⟩
      · rw [hselect, List.flatMap_cons, String.join_append]
        exact .known hfirst ih
      · rw [hselect]
        exact .unknown hnot ih

theorem join_lines (commands : List (Command σ)) :
    String.join ((commands.map Command.toTopic).flatMap fun t =>
        ["  ", t.name, "\t\t", t.description, "\n"]) =
      String.join (commands.map fun c => "  " ++ c.name ++ "\t\t" ++ c.description ++ "\n") := by
  induction commands with
  | nil => rfl
  | cons c rest ih =>
      simp only [List.map_cons, List.flatMap_cons, String.join_append, String.join_cons, ih,
        String.join_nil, String.append_empty, String.append_assoc]

theorem join_output_nil : String.join (output r.topics []) = r.overview := by
  have houtput : output r.topics [] = [
        "koiSh v" ++ version ++ "\n", "----------\n", "Execute a program by entering its name.\n",
        "Otherwise, the following commands are built-in:\n", "\n"] ++
      (r.commands.map Command.toTopic).flatMap (fun t =>
        ["  ", t.name, "\t\t", t.description, "\n"]) ++
      ["\n", "You can also use `man <program_name>` for specific information on a program.\n"] := by
    rw [output, if_pos List.isEmpty_nil, overview, List.flatten_append, List.flatten_append,
      ← List.flatMap_def, Registry.topics]
    rfl
  rw [houtput, String.join_append, String.join_append, join_lines]
  exact congrArg₂ (· ++ ·) (congrArg₂ (· ++ ·) (by rfl) rfl) (by rfl)

theorem tells_output (names : List String) :
    r.Tells names (String.join (output r.topics names)) := by
  cases names with
  | nil => exact join_output_nil r ▸ .overview
  | cons name names => exact .topics (explains_select r (name :: names))

/-! ### What is left to complain of -/

theorem select_eq_nil_iff (names : List String) :
    select r.topics names = [] ↔ ∀ name ∈ names, ¬ r.Knows [name] := by
  induction names with
  | nil => simp [select]
  | cons name names ih =>
      rcases select_cons r name names with ⟨c, hfirst, hselect⟩ | ⟨hnot, hselect⟩
      · simp [hselect, hfirst.knows]
      · simp [hselect, hnot, ih]

theorem missing?_eq_none {names : List String} (h : r.CanTell names) :
    missing? r.topics names = none := by
  rcases h with rfl | ⟨name, hmem, hknows⟩
  · rfl
  · have hselect : (select r.topics names).isEmpty = false := by
      rw [List.isEmpty_eq_false_iff, Ne, select_eq_nil_iff]
      exact fun hnone => hnone name hmem hknows
    rw [missing?]
    split <;> simp [hselect]

theorem select_eq_nil {names : List String} (h : ¬ r.CanTell names) :
    names ≠ [] ∧ select r.topics names = [] := by
  rw [select_eq_nil_iff]
  simpa [Registry.CanTell] using h

theorem output_eq_nil {names : List String} (h : ¬ r.CanTell names) :
    output r.topics names = [] := by
  obtain ⟨hne, hselect⟩ := select_eq_nil r h
  rw [output, if_neg (by simpa using hne), hselect, List.flatMap_nil]

theorem missing?_eq_some {names : List String} (h : ¬ r.CanTell names) :
    ∃ last, names.getLast? = some last ∧
      missing? r.topics names = some (.command ("help: no help topics match " ++ last) 1) := by
  obtain ⟨hne, hselect⟩ := select_eq_nil r h
  refine ⟨names.getLast hne, List.getLast?_eq_some_getLast hne, ?_⟩
  rw [missing?, List.getLast?_eq_some_getLast hne, hselect]
  rfl

/-- What the command comes to: whether everything could be written, and whether there was anything to
tell. -/
def verdict : Except Fault Unit → Option Error → Except Error Status
  | .error fault, _ => .error (.stream fault)
  | .ok (), some e => .error e
  | .ok (), none => .ok .success

theorem body_apply (call : Invocation σ) (s : σ) :
    let names := call.argv.drop 1
    let written := call.sink.writeAll (output call.topics names) s
    command.body call s = (verdict written.1 (missing? call.topics names), written.2) := by
  simp only [command, body, bind_apply]
  cases (call.sink.writeAll (output call.topics (call.argv.drop 1)) s).1 with
  | error fault => rfl
  | ok => cases missing? call.topics (call.argv.drop 1) <;> rfl

end Builtin.Help

/-! ### Running the command -/

namespace Registry

variable {σ : Type} [Environment σ] {r : Registry σ}

/-- The command comes to its result, and the sink is flushed whatever that is. -/
theorem run_help (h : r.IsFirst "help" Builtin.Help.command) (sink : Sink σ) (names : List String)
    (s : σ) {texts : List String} (htexts : Builtin.Help.output r.topics names = texts) :
    let written := sink.writeAll texts s
    r.run sink ("help" :: names) s =
      (some <$> conclude (Builtin.Help.verdict written.1 (Builtin.Help.missing? r.topics names)))
        (sink.flush written.2).2 := by
  subst htexts
  rw [run_of_isFirst h, bind_apply, Builtin.Help.body_apply]
  rfl

theorem taken_conclude {taken : σ → Bytes}
    (hapart : ∀ text s, taken (Environment.complain text s).2 = taken s)
    (result : Except Error Status) (s : σ) : taken (conclude result s).2 = taken s := by
  cases result with
  | ok status => rfl
  | error e => exact hapart e.report s

/-- Of what `help` has to tell as much is written as there is room for. The command succeeds if that is
all of it and there was something to tell; if there was not, it names the last of the names. -/
theorem informed (hhelp : r.IsFirst "help" Builtin.Help.command) {sink : Sink σ}
    {room : σ → Option Nat} {taken : σ → Bytes} (hsink : sink.Limited room taken)
    (hapart : ∀ text s, taken (Environment.complain text s).2 = taken s) (names : List String)
    {s : σ} {n : Nat} (hroom : room s = some n) :
    ∃ full, r.Tells names full ∧
      let bytes := Utf8.encode full
      let after := r.run sink ("help" :: names) s
      taken after.2 = taken s ++ bytes.take n ∧
      (bytes.length ≤ n ∧ r.CanTell names → after.1 = some .success) ∧
      (¬ (bytes.length ≤ n ∧ r.CanTell names) → after.1 = some .failure) ∧
      (¬ r.CanTell names → full = "" ∧ ∃ last, names.getLast? = some last ∧
        after.2 = (Environment.complain ("koish: help: no help topics match " ++ last ++ "\n")
          (sink.flush s).2).2) := by
  refine ⟨_, Builtin.Help.tells_output r names, ?_⟩
  generalize htexts : Builtin.Help.output r.topics names = texts
  have hok := hsink.writeAll_eq_ok_iff texts hroom
  rw [Utf8.encode_join, run_help hhelp sink names s htexts]
  refine ⟨?_, ?_, ?_, ?_⟩
  · rw [map_apply, taken_conclude hapart, hsink.taken_flush, hsink.taken_writeAll texts hroom]
  · rintro ⟨hfits, htell⟩
    rw [hok.mpr hfits, Builtin.Help.missing?_eq_none r htell]
    rfl
  · intro hnot
    cases hwrite : (sink.writeAll texts s).1 with
    | error fault => rfl
    | ok =>
        obtain ⟨last, _, hmissing⟩ :=
          Builtin.Help.missing?_eq_some r (not_and.mp hnot (hok.mp hwrite))
        rw [hmissing]
        rfl
  · intro hnot
    obtain ⟨last, hlast, hmissing⟩ := Builtin.Help.missing?_eq_some r hnot
    obtain rfl : texts = [] := htexts ▸ Builtin.Help.output_eq_nil r hnot
    refine ⟨String.join_nil, last, hlast, ?_⟩
    rw [hmissing]
    rfl

/-- The last command is listed under the name of the first. -/
def doubled : Registry (Rehearsal × Bounded) := ⟨[
  Builtin.Scripted.command { name := "say", description := "", help := "first" },
  Builtin.Help.command,
  Builtin.Scripted.command { name := "say", description := "", help := "second" }]⟩

theorem doubled_tells : doubled.Tells ["say", "no", "say"] "first\nfirst\n" := by
  have hfirst : doubled.IsFirst "say"
      (Builtin.Scripted.command { name := "say", description := "", help := "first" }) :=
    ⟨[], _, rfl, rfl, by simp⟩
  have hnot : ¬ doubled.Knows ["no"] := by
    rw [← isBuiltin_iff]
    decide
  exact .topics (.known hfirst (.unknown hnot (.known hfirst .nil)))

/-- There is room for one of two lines and a part of the other. -/
theorem informed_doubled :
    let after := doubled.run Bounded.sink ["help", "say", "no", "say"]
      ({}, { room := some 8, jammed := true })
    doubled.Tells ["say", "no", "say"] "first\nfirst\n" ∧ after.1 = some .failure ∧
      after.2.2.taken = Utf8.encode "first\nfi" := by
  obtain ⟨full, htells, htaken, _, hfailure, _⟩ := informed (r := doubled)
    ⟨[_], _, rfl, rfl, by decide⟩ Bounded.limited (fun _ _ => rfl) ["say", "no", "say"]
    (s := ({}, { room := some 8, jammed := true })) rfl
  obtain rfl := htells.unique doubled_tells
  have hlength : ¬ (Utf8.encode "first\nfirst\n").length ≤ 8 := by cbv
  exact ⟨doubled_tells, hfailure fun h => hlength h.1, htaken.trans (by cbv)⟩

end Registry

end LineShell
