import LineShell.Proofs.Builtin.Dialog
import LineShell.Proofs.Kernel.Recorded

/-!
What becomes of the bytes that a command writes to standard output. Together with what was in the
buffer before they are written out, or stay in the buffer, or are lost, in the order in which they
were written; and none is lost as long as every write succeeds.
-/

namespace LineShell

namespace Event

/-- The bytes that got to where they were written. -/
def written : Event → Bytes
  | .wrote _ bytes answer =>
      match answer with
      | .ok () => bytes
      | .error (count, _) => bytes.take count
  | _ => []

/-- A write that succeeded, if it is one. -/
def IsWhole : Event → Prop
  | .wrote _ _ answer => answer = .ok ()
  | _ => True

end Event

def written (events : List Event) : Bytes := events.flatMap Event.written

@[simp] theorem written_nil : written [] = [] := rfl

@[simp] theorem written_append (events later : List Event) :
    written (events ++ later) = written events ++ written later :=
  List.flatMap_append

/-- What comes from a store and an inflow goes to an outflow and a store, one time after another. -/
theorem sublist_through {α : Type} {before said sent between said' sent' after : List α}
    (h : (sent ++ between).Sublist (before ++ said))
    (hlater : (sent' ++ after).Sublist (between ++ said')) :
    (sent ++ sent' ++ after).Sublist (before ++ (said ++ said')) := by
  rw [List.append_assoc, ← List.append_assoc before]
  refine (hlater.append_left sent).trans ?_
  rw [← List.append_assoc]
  exact h.append_right said'

/-- From `before` in the buffer to `after` in the buffer, and all that was said meanwhile. -/
structure Carried (before said after : Bytes) (events : List Event) : Prop where
  isOutput : ∀ e ∈ events, e.IsOutput
  kept : (written events ++ after).Sublist (before ++ said)
  whole : (∀ e ∈ events, e.IsWhole) → written events ++ after = before ++ said

namespace Carried

variable {before said said' between after : Bytes} {events later : List Event}

theorem nil (buffered : Bytes) : Carried buffered [] buffered [] :=
  ⟨by simp, by simp, by simp⟩

theorem of_eq (hevents : ∀ e ∈ events, e.IsOutput)
    (h : written events ++ after = before ++ said) : Carried before said after events :=
  ⟨hevents, h ▸ .refl _, fun _ => h⟩

/-- Writing out only moves what is in the buffer. -/
theorem flushed (hevents : ∀ e ∈ events, e.IsOutput) (h : written events ++ after = before) :
    Carried before [] after events :=
  .of_eq hevents (by rw [h, List.append_nil])

theorem append (h : Carried before said between events)
    (hlater : Carried between said' after later) :
    Carried before (said ++ said') after (events ++ later) := by
  refine ⟨List.forall_mem_append.mpr ⟨h.isOutput, hlater.isOutput⟩, ?_, fun hwhole => ?_⟩
  · rw [written_append]
    exact sublist_through h.kept hlater.kept
  · obtain ⟨hevents, hevents'⟩ := List.forall_mem_append.mp hwhole
    rw [written_append, List.append_assoc, hlater.whole hevents', ← List.append_assoc,
      h.whole hevents, List.append_assoc]

/-- After a write that failed it makes no difference what else would have been said. -/
theorem cut (h : Carried before said after events) (hfailed : ∃ e ∈ events, ¬ e.IsWhole)
    (said' : Bytes) : Carried before (said ++ said') after events := by
  refine ⟨h.isOutput, ?_, fun hwhole => ?_⟩
  · rw [← List.append_assoc]
    exact h.kept.trans (List.sublist_append_left ..)
  · obtain ⟨e, he, hnot⟩ := hfailed
    exact absurd (hwhole e he) hnot

end Carried

namespace Console

variable {κ α β : Type}

/-- The program says just this on standard output. -/
def Emits (m : StateM (Console (Recorded κ)) α) (said : Console (Recorded κ) → Bytes) : Prop :=
  ∀ c, ∃ events, (m c).2.kernel.log = c.kernel.log ++ events ∧
    Carried c.buffered (said c) (m c).2.buffered events

namespace Emits

theorem pure (a : α) : Emits (κ := κ) (Pure.pure a) fun _ => [] :=
  fun c => ⟨[], (List.append_nil _).symm, .nil c.buffered⟩

theorem bind {m : StateM (Console (Recorded κ)) α} {f : α → StateM (Console (Recorded κ)) β}
    {said : Console (Recorded κ) → Bytes} {said' : α → Console (Recorded κ) → Bytes}
    (hm : Emits m said) (hf : ∀ a, Emits (f a) (said' a)) :
    Emits (m >>= f) fun c => said c ++ said' (m c).1 (m c).2 := by
  intro c
  obtain ⟨events, hlog, hcarried⟩ := hm c
  obtain ⟨later, hlog', hcarried'⟩ := hf (m c).1 (m c).2
  refine ⟨events ++ later, ?_, hcarried.append hcarried'⟩
  rw [bind_apply, hlog', hlog, List.append_assoc]

theorem congr {m : StateM (Console (Recorded κ)) α} {said said' : Console (Recorded κ) → Bytes}
    (h : Emits m said) (heq : ∀ c, said c = said' c) : Emits m said' :=
  (funext heq : said = said') ▸ h

theorem quietly (m : StateM κ α) : Emits (call (Recorded.quietly m)) fun _ => [] :=
  fun c => ⟨[], (List.append_nil _).symm, .nil c.buffered⟩

end Emits

variable [Kernel κ]

theorem emits_put (q : Question) : Emits (κ := κ) q.put fun _ => [] := by
  cases q with
  | complain text => exact .quietly (Environment.complain text)
  | changeDirectory path => exact .quietly (Environment.changeDirectory path)
  | value? name => exact .quietly (Environment.value? name)
  | setVariable name value => exact .quietly (Environment.setVariable name value)
  | currentDirectory => exact .quietly Environment.currentDirectory
  | accountHome? => exact .quietly Environment.accountHome?
  | readInput => exact .quietly Environment.readInput

/-- Printing these bytes has come to this result. -/
def Printed (bytes : Bytes) (c : Console (Recorded κ))
    (answer : Except Fault Unit × Console (Recorded κ)) : Prop :=
  ∃ events, answer.2.kernel.log = c.kernel.log ++ events ∧
    Carried c.buffered bytes answer.2.buffered events ∧
    (answer.1 ≠ .ok () → ∃ e ∈ events, ¬ e.IsWhole)

namespace Printed

variable {bytes bytes' : Bytes} {c c' : Console (Recorded κ)} {fault : Fault}

omit [Kernel κ] in
theorem nothing (c : Console (Recorded κ)) : Printed [] c (.ok (), c) :=
  ⟨[], (List.append_nil _).symm, .nil c.buffered, fun h => absurd rfl h⟩

omit [Kernel κ] in
/-- One thing is printed after another, unless the first fails. -/
theorem bind {m : StateM (Console (Recorded κ)) (Except Fault Unit)}
    {f : Except Fault Unit → StateM (Console (Recorded κ)) (Except Fault Unit)}
    (hm : Printed bytes c (m c))
    (hok : (m c).1 = .ok () → Printed bytes' (m c).2 (f (.ok ()) (m c).2))
    (herror : ∀ fault, f (.error fault) = Pure.pure (.error fault)) :
    Printed (bytes ++ bytes') c ((m >>= f) c) := by
  rw [bind_apply]
  generalize m c = answered at hm hok
  obtain ⟨answer, c'⟩ := answered
  obtain ⟨events, hlog, hcarried, hfailed⟩ := hm
  cases answer with
  | ok _ =>
      obtain ⟨later, hlog', hcarried', hfailed'⟩ := hok rfl
      refine ⟨events ++ later, by rw [hlog', hlog, List.append_assoc], hcarried.append hcarried', ?_⟩
      intro hanswer
      obtain ⟨e, he, hnot⟩ := hfailed' hanswer
      exact ⟨e, List.mem_append_right _ he, hnot⟩
  | error fault =>
      rw [herror]
      exact ⟨events, hlog, hcarried.cut (hfailed (by simp)) bytes', hfailed⟩

end Printed

/-- What flushing does: all that is in the buffer is written out, or, on failure, a part of it. -/
theorem flush_apply (c : Console κ) :
    flush c =
      if c.buffered = [] then (.ok (), c)
      else
        match Kernel.write Descriptor.output c.buffered c.kernel with
        | (.ok (), kernel) => (.ok (), ⟨kernel, []⟩)
        | (.error (count, e), kernel) => (.error (.system e), ⟨kernel, c.buffered.drop count⟩) := by
  obtain ⟨kernel, buffered⟩ := c
  cases buffered with
  | nil => rfl
  | cons b rest =>
      rw [if_neg (List.cons_ne_nil b rest)]
      have hwrites : flush ⟨kernel, b :: rest⟩ = (do
          match ← call (Kernel.write Descriptor.output (b :: rest)) with
          | .ok () => modify ({ · with buffered := [] }); return .ok ()
          | .error (count, e) =>
              modify ({ · with buffered := (b :: rest).drop count })
              return .error (.system e) : StateM (Console κ) (Except Fault Unit))
          ⟨kernel, b :: rest⟩ := rfl
      rw [hwrites, bind_apply, call_apply]
      rcases Kernel.write Descriptor.output (b :: rest) kernel with ⟨answer, kernel'⟩
      cases answer <;> rfl

/-- Flushing loses nothing: what it does not write out stays in the buffer. -/
theorem flush_keeps (c : Console (Recorded κ)) :
    ∃ events, (flush c).2.kernel.log = c.kernel.log ++ events ∧ (∀ e ∈ events, e.IsOutput) ∧
      written events ++ (flush c).2.buffered = c.buffered ∧
      ((flush c).1 = .ok () → (flush c).2.buffered = []) ∧
      ((flush c).1 ≠ .ok () → ∃ e ∈ events, ¬ e.IsWhole) := by
  rw [flush_apply]
  split
  · rename_i hempty
    exact ⟨[], by simp, by simp, by simp, fun _ => hempty, fun h => absurd rfl h⟩
  · simp only [Kernel.write, Recorded.noting]
    rcases Kernel.write Descriptor.output c.buffered c.kernel.kernel with ⟨answer, kernel⟩
    refine ⟨[.wrote Descriptor.output c.buffered answer], ?_⟩
    cases answer with
    | ok _ => simp [written, Event.written, Event.IsOutput]
    | error failure => simp [written, Event.written, Event.IsOutput, Event.IsWhole]

theorem printed_flush (c : Console (Recorded κ)) : Printed [] c (flush c) := by
  obtain ⟨events, hlog, houtput, hkept, _, hfailed⟩ := flush_keeps c
  exact ⟨events, hlog, .flushed houtput hkept, hfailed⟩

/-- Bytes can go past the buffer only if it is empty. -/
theorem printed_writeThrough {c : Console (Recorded κ)} (h : c.buffered = []) (bytes : Bytes) :
    Printed bytes c (writeThrough bytes c) := by
  simp only [writeThrough, bind_apply, call_apply, Kernel.write, Recorded.noting]
  rcases Kernel.write Descriptor.output bytes c.kernel.kernel with ⟨answer, kernel⟩
  refine ⟨[.wrote Descriptor.output bytes answer], ?_⟩
  cases answer with
  | ok _ =>
      refine ⟨rfl, .of_eq (by simp [Event.IsOutput]) ?_, fun hanswer => absurd rfl hanswer⟩
      simp [written, Event.written, h]
  | error failure =>
      refine ⟨rfl, ⟨by simp [Event.IsOutput], ?_, fun hwhole => ?_⟩, fun _ => ?_⟩
      · simpa [written, Event.written, h] using List.take_sublist ..
      · exact absurd (hwhole _ List.mem_cons_self) (by simp [Event.IsWhole])
      · exact ⟨_, List.mem_cons_self, by simp [Event.IsWhole]⟩

omit [Kernel κ] in
theorem printed_append (bytes : Bytes) (c : Console (Recorded κ)) :
    Printed bytes c ((append bytes >>= fun _ => pure (.ok ())) c) :=
  ⟨[], by simp [append], .of_eq (by simp) (by simp [append]), fun h => absurd rfl h⟩

/-- What is done with bytes that do not fit into the buffer, once it is written out. -/
theorem printed_rest {c : Console (Recorded κ)} (h : c.buffered = []) (bytes : Bytes) :
    Printed bytes c ((if bufferCapacity ≤ bytes.length then writeThrough bytes
      else append bytes >>= fun _ => pure (.ok ())) c) := by
  split
  · exact printed_writeThrough h bytes
  · exact printed_append bytes c

theorem printed_buffer (bytes : Bytes) (c : Console (Recorded κ)) :
    Printed bytes c (buffer bytes c) := by
  simp only [buffer, bind_apply]
  split
  · exact printed_append bytes c
  · rename_i hfits
    split
    · rename_i hroom
      -- So many bytes leave room only in an empty buffer.
      have hempty : c.buffered = [] := by
        have hlong : ¬ bytes.length < bufferCapacity := fun hlt => hfits ⟨hroom, hlt⟩
        have hroom' : bytes.length ≤ bufferCapacity - c.buffered.length := hroom
        refine List.length_eq_zero_iff.mp ?_
        have : 0 < bufferCapacity := by decide
        omega
      exact printed_rest hempty bytes
    · obtain ⟨_, _, _, _, hempty, _⟩ := flush_keeps c
      exact (printed_flush c).bind (fun hok => printed_rest (hempty hok) bytes) fun _ => rfl

theorem splitLines_append (bytes : Bytes) :
    (splitLines bytes).1 ++ (splitLines bytes).2 = bytes := by
  have htail : (bytes.reverse.takeWhile (· != Utf8.newline)).reverse <:+ bytes := by
    simpa using List.reverse_suffix.mpr (List.takeWhile_prefix (· != Utf8.newline) (l := bytes.reverse))
  exact (List.suffix_iff_eq_append.mp htail)

theorem printed_print (bytes : Bytes) (c : Console (Recorded κ)) :
    Printed bytes c (print bytes c) := by
  have hbytes := splitLines_append bytes
  rcases hsplit : splitLines bytes with ⟨lines, tail⟩
  rw [hsplit] at hbytes
  obtain rfl : lines ++ tail = bytes := hbytes
  have htail (c : Console (Recorded κ)) := printed_buffer tail c
  simp only [print, hsplit, bind_apply]
  -- Whole lines go out at once, past the buffer if it is empty and through it otherwise; what is left
  -- of the last line stays in it.
  split
  · rename_i hlines
    obtain rfl : lines = [] := List.isEmpty_iff.mp hlines
    split
    · exact (printed_flush c).bind (fun _ => htail _) fun _ => rfl
    · exact (Printed.nothing c).bind (fun _ => htail _) fun _ => rfl
  · split
    · rename_i hpending
      have hempty : c.buffered = [] := List.isEmpty_iff.mp hpending
      exact (printed_writeThrough hempty lines).bind (fun _ => htail _) fun _ => rfl
    · refine (printed_buffer lines c).bind (fun _ => ?_) fun _ => rfl
      exact (printed_flush _).bind (fun _ => htail _) fun _ => rfl

theorem emits_print (bytes : Bytes) : Emits (κ := κ) (print bytes) fun _ => bytes := fun c => by
  obtain ⟨events, hlog, hcarried, _⟩ := printed_print bytes c
  exact ⟨events, hlog, hcarried⟩

theorem emits_flush : Emits (κ := κ) flush fun _ => [] := fun c => by
  obtain ⟨events, hlog, hcarried, _⟩ := printed_flush c
  exact ⟨events, hlog, hcarried⟩

/-- A command says on standard output what its dialog says. -/
theorem emits_hold {call : Invocation (Console (Recorded κ))}
    (hsink : ∀ bytes, Emits (call.sink.write bytes) fun _ => bytes)
    {handed : Console (Recorded κ) → Bytes} (honward : Emits call.onward handed)
    (dialog : Dialog β) : Emits (dialog.hold call) (dialog.said call handed) := by
  -- What is said later depends on the answers, so the induction is on the dialog and not on its text.
  induction dialog with
  | ended b => exact .pure b
  | say bytes next ih => exact (hsink bytes).bind ih
  | ask q next ih => exact (emits_put q).bind ih
  | handOn next ih => exact honward.bind ih

theorem emits_conclude (result : Except Error Status) :
    Emits (κ := κ) (Registry.conclude result) fun _ => [] := by
  cases result with
  | ok status => exact .pure status
  | error e => exact (emits_put (.complain e.report)).bind fun _ => .pure _

/-- A run of commands says on standard output what they say. -/
theorem emits_run (commands : List Spoken) (argv : List String) :
    Emits (κ := κ) ((Spoken.registry commands).run standardOutput argv)
      (Spoken.said commands standardOutput argv) := by
  induction argv with
  | nil => exact .pure none
  | cons name args ih =>
      rw [Registry.run, Spoken.find?_registry]
      simp only [Spoken.said]
      cases commands.find? (·.name = name) with
      | none => exact .pure none
      | some command =>
          let call : Invocation (Console (Recorded κ)) :=
            { topics := (Spoken.registry (σ := Console (Recorded κ)) commands).topics
              argv := name :: args, sink := standardOutput
              onward := (Spoken.registry commands).run standardOutput args }
          have hend (result : Except Error Status) : Emits (κ := κ) (do
              let _ ← standardOutput.flush
              return some (← Registry.conclude result)) fun _ => [] :=
            emits_flush.bind fun _ => (emits_conclude result).bind fun _ => .pure _
          have hheld (dialog : Dialog (Except Error Status)) :
              Emits (dialog.hold call) (dialog.said call _) := emits_hold emits_print ih dialog
          exact ((hheld _).bind hend).congr fun c => List.append_nil _

end Console

end LineShell
