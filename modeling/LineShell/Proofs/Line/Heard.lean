import LineShell.Proofs.Line.Cut
import LineShell.Proofs.Line.Joined
import LineShell.Proofs.Session.Served
import LineShell.Proofs.Text.Decoded
import LineShell.Shell.Supply
import Mathlib

/-!
What the readers make of a text. One gives each line as it stands. The line editor drops a carriage
return before a newline and lets backspaces take effect; where there are none, the same jobs come out.
-/

namespace LineShell

namespace Line

/-! ### A text, line by line -/

/-- A line of a text. -/
structure Segment where
  text : List Char
  /-- A newline ends it. -/
  ended : Bool

/-- The lines of a text. After a newline at its end there is none. -/
def segments : List Char → List Segment
  | [] => []
  | c :: rest =>
      if c = '\n' then ⟨[], true⟩ :: segments rest
      else match segments rest with
        | [] => [⟨[c], false⟩]
        | s :: later => ⟨c :: s.text, s.ended⟩ :: later

theorem segments_newline {line : List Char} (h : '\n' ∉ line) (later : List Char) :
    segments (line ++ '\n' :: later) = ⟨line, true⟩ :: segments later := by
  induction line with
  | nil => rfl
  | cons c line ih =>
      obtain ⟨hc, hline⟩ := not_or.mp (mt List.mem_cons.mpr h)
      rw [List.cons_append, segments, if_neg (Ne.symm hc), ih hline]

theorem segments_last {line : List Char} (h : '\n' ∉ line) (hne : line ≠ []) :
    segments line = [⟨line, false⟩] := by
  induction line with
  | nil => exact absurd rfl hne
  | cons c line ih =>
      obtain ⟨hc, hline⟩ := not_or.mp (mt List.mem_cons.mpr h)
      rw [segments, if_neg (Ne.symm hc)]
      cases line with
      | nil => rfl
      | cons c' line => rw [ih hline (List.cons_ne_nil _ _)]

theorem mem_of_mem_segments {text : List Char} {s : Segment} (h : s ∈ segments text) {c : Char}
    (hc : c ∈ s.text) : c ∈ text := by
  induction text generalizing s with
  | nil => cases h
  | cons c' rest ih =>
      rw [segments] at h
      split at h
      · rcases List.mem_cons.mp h with rfl | h
        · cases hc
        · exact List.mem_cons_of_mem _ (ih h hc)
      · split at h
        next =>
          obtain rfl := List.mem_singleton.mp h
          obtain rfl := List.mem_singleton.mp hc
          exact List.mem_cons_self
        next first later heq =>
          rcases List.mem_cons.mp h with rfl | h
          · rcases List.mem_cons.mp hc with rfl | hc
            · exact List.mem_cons_self
            · exact List.mem_cons_of_mem _ (ih (heq ▸ List.mem_cons_self) hc)
          · exact List.mem_cons_of_mem _ (ih (heq ▸ List.mem_cons_of_mem _ h) hc)

/-! ### What the line editor makes of a line -/

/-- What the backspaces of a line leave of it. -/
def heard (text : String) : Except Error String :=
  match rubout text with
  | some text => .ok text
  | none => .error .collapse

theorem foldlM_next {clusters : List (List Char)} (h : [backspace] ∉ clusters) (k : Kept) :
    ∃ k', clusters.foldlM Kept.next k = some k' ∧
      k'.characters = clusters.flatten.reverse ++ k.characters := by
  induction clusters generalizing k with
  | nil => exact ⟨k, rfl, rfl⟩
  | cons cluster rest ih =>
      obtain ⟨hcluster, hrest⟩ := not_or.mp (mt List.mem_cons.mpr h)
      have hnext : k.next cluster = some (k.push cluster) := if_neg (Ne.symm hcluster)
      obtain ⟨k', hk', hcharacters⟩ := ih hrest (k.push cluster)
      refine ⟨k', ?_, ?_⟩
      · rw [List.foldlM_cons, hnext]
        exact hk'
      · rw [hcharacters]
        simp [Kept.push]

/-- Without a backspace the line stays as it is. -/
theorem heard_of_notMem {text : String} (h : backspace ∉ text.toList) : heard text = .ok text := by
  have hclusters : [backspace] ∉ Cluster.split text.toList := fun hmem =>
    h (Cluster.flatten_split text.toList ▸
      List.mem_flatten.mpr ⟨_, hmem, List.mem_singleton_self _⟩)
  obtain ⟨k, hk, hcharacters⟩ := foldlM_next hclusters {}
  have hrubout : rubout text = some text := by
    rw [rubout, hk, Option.map_some, hcharacters, Cluster.flatten_split]
    simp
  rw [heard, hrubout]

theorem tokenize_return (text : List Char) :
    tokenize (String.ofList (text ++ ['\r'])) = tokenize (String.ofList text) := by
  have hreturn : isDelimiter '\r' = true := by decide
  have hnone : words [] = [] := rfl
  simp only [tokenize, String.toList_ofList, words_append_cons hreturn, hnone, List.append_nil]

namespace Segment

/-- The line as it stands. -/
def line (s : Segment) : String := String.ofList s.text

/-- The text without a carriage return before the newline. -/
def stripped (s : Segment) : List Char :=
  if s.ended ∧ s.text.getLast? = some '\r' then s.text.dropLast else s.text

/-- What the line editor makes of it. -/
def heard (s : Segment) : Except Error String := Line.heard (String.ofList s.stripped)

theorem text_eq_stripped (s : Segment) : s.text = s.stripped ∨ s.text = s.stripped ++ ['\r'] := by
  rw [stripped]
  split
  next h => exact .inr (List.dropLast_append_getLast? _ h.2).symm
  next => exact .inl rfl

/-- Without a backspace the line editor does no more than that. -/
theorem heard_of_notMem {s : Segment} (h : backspace ∉ s.text) :
    s.heard = .ok (String.ofList s.stripped) := by
  refine Line.heard_of_notMem ?_
  rw [String.toList_ofList]
  rcases s.text_eq_stripped with heq | heq
  · rwa [← heq]
  · exact fun hmem => h (heq ▸ List.mem_append_left _ hmem)

/-- Without a backspace the same jobs come out. -/
theorem tokenize_of_notMem {s : Segment} (h : backspace ∉ s.text) :
    ∃ line, s.heard = .ok line ∧ tokenize line = tokenize s.line := by
  refine ⟨String.ofList s.stripped, heard_of_notMem h, ?_⟩
  rw [line]
  rcases s.text_eq_stripped with heq | heq
  · rw [heq]
  · rw [heq, tokenize_return]

theorem exists_lines_of_notMem {segments : List Segment} (h : ∀ s ∈ segments, backspace ∉ s.text) :
    ∃ lines : List String, segments.map heard = lines.map .ok ∧
      lines.map tokenize = segments.map fun s => tokenize s.line := by
  induction segments with
  | nil => exact ⟨[], rfl, rfl⟩
  | cons s later ih =>
      obtain ⟨hs, hlater⟩ := List.forall_mem_cons.mp h
      obtain ⟨line, hheard, htokens⟩ := tokenize_of_notMem hs
      obtain ⟨lines, hheards, hall⟩ := ih hlater
      exact ⟨line :: lines, by simp [hheard, hheards], by simp [htokens, hall]⟩

/-- A byte that is a carriage return stands for that character and for no part of another. -/
theorem dropReturn_encode (text : List Char) :
    dropReturn (Utf8.encode (String.ofList text)) =
      Utf8.encode (String.ofList (stripped ⟨text, true⟩)) := by
  rcases List.eq_nil_or_concat text with rfl | ⟨front, c, rfl⟩
  · simp [stripped, dropReturn]
  · have hencode : Utf8.encode (String.ofList (front ++ [c])) =
        Utf8.encode (String.ofList front) ++ String.utf8EncodeChar c := by
      rw [Utf8.encode_ofList_append, Utf8.encode_ofList [c], List.flatMap_singleton]
    simp only [List.concat_eq_append, stripped, List.getLast?_concat, Option.some.injEq, true_and,
      List.dropLast_concat]
    rw [hencode, dropReturn]
    by_cases hc : c = '\r'
    · subst hc
      have hreturn : String.utf8EncodeChar '\r' = [carriageReturn] := by decide
      simp [hreturn]
    · rw [if_neg hc, hencode, if_neg]
      intro hlast
      have hmem : carriageReturn ∈ String.utf8EncodeChar c := by
        have hne : String.utf8EncodeChar c ≠ [] := String.utf8EncodeChar_ne_nil
        rw [List.getLast?_append_of_ne_nil _ hne] at hlast
        exact List.mem_of_getLast? hlast
      exact hc (Utf8.eq_ofNat_of_mem_utf8EncodeChar (by decide) hmem)

end Segment

end Line

/-! ### Reading line after line -/

namespace LineSupply

variable {σ : Type}

/-- Asked again and again, the supply gives these lines and failures, and then its end. -/
inductive Yields (supply : LineSupply σ) : σ → List (Except Error String) → Prop
  | ended {s s' : σ} (h : supply Session.prompt s = (.ok none, s')) : Yields supply s []
  | given {s s' : σ} {answer : Except Error String} {later : List (Except Error String)}
      (h : supply Session.prompt s = (answer.map some, s')) (hlater : Yields supply s' later) :
      Yields supply s (answer :: later)

/-- Whatever text is left in a state, the supply takes one line of it at a time, with this answer. -/
structure Cuts (supply : LineSupply σ) (Left : σ → List Char → Prop)
    (answer : Line.Segment → Except Error String) : Prop where
  ended {s : σ} : Left s [] → ∃ s', supply Session.prompt s = (.ok none, s')
  newline {s : σ} {line later : List Char} : '\n' ∉ line → Left s (line ++ '\n' :: later) →
    ∃ s', supply Session.prompt s = ((answer ⟨line, true⟩).map some, s') ∧ Left s' later
  last {s : σ} {line : List Char} : '\n' ∉ line → line ≠ [] → Left s line →
    ∃ s', supply Session.prompt s = ((answer ⟨line, false⟩).map some, s') ∧ Left s' []

theorem Cuts.yields {supply : LineSupply σ} {Left : σ → List Char → Prop}
    {answer : Line.Segment → Except Error String} (h : supply.Cuts Left answer)
    {text : List Char} {s : σ} (hs : Left s text) :
    supply.Yields s ((Line.segments text).map answer) := by
  -- By the length of the text: a line takes its newline away, or it is the last.
  induction hlength : text.length using Nat.strong_induction_on generalizing text s with
  | _ n ih =>
      by_cases hmem : '\n' ∈ text
      · obtain ⟨line, later, rfl, hline⟩ := List.eq_append_cons_of_mem hmem
        obtain ⟨s', hanswer, hs'⟩ := h.newline hline hs
        rw [Line.segments_newline hline, List.map_cons]
        exact .given hanswer (ih later.length (by simp at hlength; omega) hs' rfl)
      · by_cases hne : text = []
        · obtain ⟨s', hanswer⟩ := h.ended (hne ▸ hs)
          rw [hne]
          exact .ended hanswer
        · obtain ⟨s', hanswer, hs'⟩ := h.last hmem hne hs
          obtain ⟨s'', hended⟩ := h.ended hs'
          rw [Line.segments_last hmem hne]
          exact .given hanswer (.ended hended)

end LineSupply

/-! ### A source of bytes -/

namespace Source.Holds

variable {s : Source} {line later : List Char}

theorem readLine_newline (h : s.Holds (Utf8.encode (String.ofList (line ++ '\n' :: later))))
    (hline : '\n' ∉ line) :
    ∃ s' : Source, s.readLine = (.ok (some (String.ofList line)), s') ∧
      s'.Holds (Utf8.encode (String.ofList later)) := by
  rw [Utf8.encode_newline] at h
  obtain ⟨hread, hleft⟩ := h.serves_newline (Utf8.newline_notMem_encode hline)
  rw [Utf8.decodeLossy_encode] at hread
  exact ⟨s.readLine.2, Prod.ext hread rfl, hleft⟩

theorem readLine_last (h : s.Holds (Utf8.encode (String.ofList line))) (hline : '\n' ∉ line) :
    ∃ s' : Source,
      s.readLine = (.ok (if line.isEmpty then none else some (String.ofList line)), s') ∧
        s'.Holds [] := by
  obtain ⟨hread, hleft⟩ := h.serves_last (Utf8.newline_notMem_encode hline)
  rw [Utf8.isEmpty_encode_ofList, Utf8.decodeLossy_encode] at hread
  exact ⟨s.readLine.2, Prod.ext hread rfl, hleft⟩

end Source.Holds

/-- A source is read by one byte at a time. -/
theorem LineSupply.cuts_bytes {σ : Type} (s : σ) :
    Cuts (bytes (σ := σ))
      (fun t text => t.1 = s ∧ t.2.Holds (Utf8.encode (String.ofList text)))
      fun segment => .ok segment.line where
  ended := by
    rintro ⟨s', source⟩ ⟨rfl, h⟩
    obtain ⟨source', hread, _⟩ := h.readLine_last (by simp)
    exact ⟨(s', source'), by simp only [bytes, hread]; rfl⟩
  newline := by
    rintro ⟨s', source⟩ line later hline ⟨rfl, h⟩
    obtain ⟨source', hread, hsource'⟩ := h.readLine_newline hline
    exact ⟨(s', source'), by simp only [bytes, hread]; rfl, rfl, hsource'⟩
  last := by
    rintro ⟨s', source⟩ line hline hne ⟨rfl, h⟩
    obtain ⟨source', hread, hsource'⟩ := h.readLine_last hline
    rw [List.isEmpty_eq_false_iff.mpr hne] at hread
    exact ⟨(s', source'), by simp only [bytes, hread]; rfl, rfl, by simpa using hsource'⟩

/-! ### A shared input -/

section Input

variable {κ : Type} [Kernel κ] {input : SharedInput κ}

theorem SharedInput.rest_of_position {σ : Type} {input : SharedInput σ} {s s' : σ} {count : Nat}
    (h : input.position s' = input.position s + count) :
    input.rest s' = (input.rest s).drop count := by
  rw [rest, h, rest, List.drop_drop]

theorem SharedInput.rest_congr {σ : Type} {input : SharedInput σ} {s s' : σ}
    (h : input.position s' = input.position s) : input.rest s' = input.rest s :=
  congrArg (List.drop · input.content) h

/-- An open file is read so too. -/
theorem LineSupply.cuts_descriptor (h : input.Lawful) (d : Descriptor) :
    Cuts (descriptor (κ := κ) d)
      (fun c text => input.console.Reads c d ∧
        input.console.rest c = Utf8.encode (String.ofList text))
      fun segment => .ok segment.line where
  ended := by
    rintro c ⟨hreads, hrest⟩
    obtain ⟨c', _, ⟨_, _, hsupply⟩ | ⟨line, htaken, _⟩⟩ := h.descriptor_eq hreads
    · exact ⟨c', hsupply⟩
    · rw [String.ofList_nil, Utf8.encode_empty] at hrest
      cases htaken with
      | ended _ hbytes _ => simp [hrest] at hbytes
      | last _ hne hbytes _ => exact absurd (hbytes.symm.trans hrest) hne
  newline := by
    rintro c line later hline ⟨hreads, hrest⟩
    have hnewline := Utf8.newline_notMem_encode hline
    rw [Utf8.encode_newline] at hrest
    obtain ⟨c', hreads', ⟨hnone, _⟩ | ⟨taken, htaken, hsupply⟩⟩ := h.descriptor_eq hreads
    · simp [hnone] at hrest
    · cases htaken with
      | ended hbytes hsplit hposition =>
          obtain ⟨rfl, rfl⟩ := newline_inj hbytes hnewline (hsplit.symm.trans hrest)
          refine ⟨c', by rw [hsupply, Utf8.decodeLossy_encode]; rfl, hreads', ?_⟩
          rw [SharedInput.rest_of_position (hposition.trans (Nat.add_assoc ..)), hsplit]
          simp
      | last hbytes _ hall _ => exact absurd (by simp [← hall, hrest]) hbytes
  last := by
    rintro c line hline hne ⟨hreads, hrest⟩
    have hnewline := Utf8.newline_notMem_encode hline
    obtain ⟨c', hreads', ⟨hnone, _⟩ | ⟨taken, htaken, hsupply⟩⟩ := h.descriptor_eq hreads
    · have hempty := Utf8.isEmpty_encode_ofList line
      rw [← hrest, hnone] at hempty
      exact absurd (List.isEmpty_iff.mp hempty.symm) hne
    · cases htaken with
      | ended _ hsplit _ => exact absurd (by simp [← hrest, hsplit]) hnewline
      | last _ _ hall hposition =>
          obtain rfl := hall.symm.trans hrest
          refine ⟨c', by rw [hsupply, Utf8.decodeLossy_encode]; rfl, hreads', ?_⟩
          rw [SharedInput.rest_of_position hposition, hrest]
          simp

/-! ### The line editor -/

namespace Editor

/-- An editor that asks for lines or does not, as told, can do so and nobody reads meanwhile. -/
def AsksQuietly (input : SharedInput κ) (asks : Bool) : Prop :=
  ∀ (e : Editor) (c : Console κ), e.asks = asks → input.console.Reads c Descriptor.input →
    ∃ c', e.ask Session.prompt c = (.ok (), c') ∧ input.console.Reads c' Descriptor.input ∧
      input.console.position c' = input.console.position c

/-- That goes without saying if it does not ask. -/
theorem asksQuietly_false (input : SharedInput κ) : AsksQuietly input false :=
  fun e c hasks hreads => ⟨c, by simp [ask, hasks], hreads, rfl⟩

/-- A line of a text is taken for what is heard of it. -/
theorem exists_take_encode (e : Editor) (text : List Char) (ahead : Bytes) :
    ∃ e', e.take (some (Utf8.encode (String.ofList text), ahead)) =
        ((Line.heard (String.ofList text)).map some, e') ∧
      e'.ahead = ahead ∧ e'.asks = e.asks := by
  simp only [take, Utf8.decode?_encode, Line.heard]
  cases Line.rubout (String.ofList text) with
  | none => exact ⟨_, rfl, rfl, rfl⟩
  | some line =>
      refine ⟨_, rfl, ?_⟩
      rw [record]
      split <;> exact ⟨rfl, rfl⟩

/-- Of a text at hand and still to be read, a line is read up to its newline. -/
theorem exists_readLine_newline {e : Editor} {pending : Bytes} {line later : List Char}
    (hline : '\n' ∉ line)
    (htext : e.ahead ++ pending = Utf8.encode (String.ofList (line ++ '\n' :: later))) :
    ∃ e' count, e.readLine pending = ((Line.Segment.heard ⟨line, true⟩).map some, e', count) ∧
      count ≤ pending.length ∧
      e'.ahead ++ pending.drop count = Utf8.encode (String.ofList later) ∧ e'.asks = e.asks := by
  rw [Utf8.encode_newline] at htext
  obtain ⟨ahead, count, hcount, hrest, hread⟩ :=
    readLine_newline htext (Utf8.newline_notMem_encode hline)
  rw [Line.Segment.dropReturn_encode] at hread
  obtain ⟨e', htake, hahead, hasks⟩ :=
    e.exists_take_encode (Line.Segment.stripped ⟨line, true⟩) ahead
  rw [htake] at hread
  exact ⟨e', count, hread, hcount, hahead ▸ hrest, hasks⟩

/-- Without a newline all of it is read. -/
theorem exists_readLine_last {e : Editor} {pending : Bytes} {line : List Char}
    (hline : '\n' ∉ line) (hne : line ≠ [])
    (htext : e.ahead ++ pending = Utf8.encode (String.ofList line)) :
    ∃ e', e.readLine pending =
        ((Line.Segment.heard ⟨line, false⟩).map some, e', pending.length) ∧
      e'.ahead = [] ∧ e'.asks = e.asks := by
  have hnewline := Utf8.newline_notMem_encode hline
  have hread := readLine_last (htext ▸ hnewline)
  rw [htext, Line.first?_last hnewline, Utf8.isEmpty_encode_ofList,
    List.isEmpty_eq_false_iff.mpr hne] at hread
  obtain ⟨e', htake, hahead, hasks⟩ := e.exists_take_encode line []
  simp only [Bool.false_eq_true, if_false, htake] at hread
  exact ⟨e', hread, hahead, hasks⟩

theorem readLine_ended {e : Editor} {pending : Bytes} (h : e.ahead ++ pending = []) :
    e.readLine pending = (.ok none, { e with ahead := [] }, pending.length) := by
  have hnewline : Utf8.newline ∉ e.ahead ++ pending := by simp [h]
  have hread := readLine_last hnewline
  rw [h] at hread
  exact hread

/-- Once the prompt is shown, what is at hand and still to be read decides on the line. -/
theorem exists_next_of_asked (h : input.Lawful) {e e' : Editor} {prompt : String}
    {c c₁ : Console κ} {line : Except Error (Option String)} {count : Nat}
    (hask : e.ask prompt c = (.ok (), c₁)) (hreads : input.console.Reads c₁ Descriptor.input)
    (hline : e.readLine (input.console.rest c₁) = (line, e', count))
    (hcount : count ≤ (input.console.rest c₁).length) :
    ∃ c', e.next prompt c = ((line, e'), c') ∧
      input.console.Reads c' Descriptor.input ∧
        input.console.rest c' = (input.console.rest c₁).drop count := by
  obtain ⟨hpending, hreads₂, hposition₂⟩ := h.pending c₁.kernel _ hreads
  have hrest₂ : input.rest (Kernel.pending Descriptor.input c₁.kernel).2 = input.rest c₁.kernel :=
    SharedInput.rest_congr hposition₂
  obtain ⟨hreads₃, hposition₃⟩ := h.skip _ _ count hreads₂ (by rw [hrest₂]; exact hcount)
  have hrest₁ : input.rest c₁.kernel = input.console.rest c₁ := rfl
  refine ⟨{ c₁ with kernel := (Kernel.skip Descriptor.input count
    (Kernel.pending Descriptor.input c₁.kernel).2).2 }, ?_, hreads₃, ?_⟩
  · simp only [next, bind_apply, hask, Console.call_apply, hpending, hrest₁, hline, pure_apply]
  · rw [← hrest₁, ← hrest₂]
    exact SharedInput.rest_of_position hposition₃

theorem exists_next {asks : Bool} (hasks : AsksQuietly input asks) (h : input.Lawful)
    {e e' : Editor} {c : Console κ} {line : Except Error (Option String)} {count : Nat}
    (he : e.asks = asks) (hreads : input.console.Reads c Descriptor.input)
    (hline : e.readLine (input.console.rest c) = (line, e', count))
    (hcount : count ≤ (input.console.rest c).length) :
    ∃ c', e.next Session.prompt c = ((line, e'), c') ∧
      input.console.Reads c' Descriptor.input ∧
        input.console.rest c' = (input.console.rest c).drop count := by
  obtain ⟨c₁, hask, hreads₁, hposition₁⟩ := hasks e c he hreads
  have hrest : input.console.rest c₁ = input.console.rest c := SharedInput.rest_congr hposition₁
  rw [← hrest] at hline hcount ⊢
  exact exists_next_of_asked h hask hreads₁ hline hcount

end Editor

/-- The line editor takes its lines from what it has read ahead and from the standard input. -/
theorem LineSupply.cuts_editor {asks : Bool} (hasks : Editor.AsksQuietly input asks)
    (h : input.Lawful) :
    Cuts (editor (κ := κ))
      (fun t text => t.2.asks = asks ∧ input.console.Reads t.1 Descriptor.input ∧
        t.2.ahead ++ input.console.rest t.1 = Utf8.encode (String.ofList text))
      Line.Segment.heard where
  ended := by
    rintro ⟨c, e⟩ ⟨he, hreads, htext⟩
    rw [String.ofList_nil, Utf8.encode_empty] at htext
    obtain ⟨c', hnext, _⟩ :=
      Editor.exists_next hasks h he hreads (Editor.readLine_ended htext) (Nat.le_refl _)
    exact ⟨(c', { e with ahead := [] }), by simp only [editor, hnext]⟩
  newline := by
    rintro ⟨c, e⟩ line later hline ⟨he, hreads, htext⟩
    obtain ⟨e', count, hread, hcount, hleft, hasks'⟩ := Editor.exists_readLine_newline hline htext
    obtain ⟨c', hnext, hreads', hrest'⟩ := Editor.exists_next hasks h he hreads hread hcount
    exact ⟨(c', e'), by simp only [editor, hnext], hasks'.trans he, hreads', by rwa [hrest']⟩
  last := by
    rintro ⟨c, e⟩ line hline hne ⟨he, hreads, htext⟩
    obtain ⟨e', hread, hahead, hasks'⟩ := Editor.exists_readLine_last hline hne htext
    obtain ⟨c', hnext, hreads', hrest'⟩ := Editor.exists_next hasks h he hreads hread (Nat.le_refl _)
    refine ⟨(c', e'), by simp only [editor, hnext], hasks'.trans he, hreads', ?_⟩
    rw [hahead, hrest', List.drop_length, String.ofList_nil, Utf8.encode_empty]
    rfl

end Input

namespace LineSupply

/-- Read from a source of bytes or from an open file, a text comes line by line, however the bytes
come. Read through the line editor, as many lines come before the end, of each what is heard of it.
Where there are no backspaces, the same jobs come out. -/
theorem yields_segments (text : String) {κ : Type} [Kernel κ] {input : SharedInput κ}
    (hinput : input.Lawful) {asks : Bool} (hasks : Editor.AsksQuietly input asks) :
    let segments := Line.segments text.toList
    (∀ {σ : Type} (s : σ) (source : Source), source.Holds (Utf8.encode text) →
      bytes.Yields (s, source) (segments.map fun l => .ok l.line)) ∧
    (∀ (d : Descriptor) (c : Console κ), input.console.Reads c d →
      input.console.rest c = Utf8.encode text →
        (descriptor d).Yields c (segments.map fun l => .ok l.line)) ∧
    (∀ (e : Editor) (c : Console κ), e.asks = asks → input.console.Reads c Descriptor.input →
      e.ahead ++ input.console.rest c = Utf8.encode text →
        editor.Yields (c, e) (segments.map Line.Segment.heard)) ∧
    (∀ l ∈ segments, Line.backspace ∉ l.text →
      ∃ line, l.heard = .ok line ∧ Line.tokenize line = Line.tokenize l.line) ∧
    (Line.backspace ∉ text.toList → ∃ lines : List String,
      segments.map Line.Segment.heard = lines.map .ok ∧
        lines.map Line.tokenize = segments.map fun l => Line.tokenize l.line) := by
  intro segments
  have htext : Utf8.encode text = Utf8.encode (String.ofList text.toList) := by
    rw [String.ofList_toList]
  rw [htext]
  refine ⟨fun s source h => (cuts_bytes s).yields ⟨rfl, h⟩,
    fun d c hreads h => (cuts_descriptor hinput d).yields ⟨hreads, h⟩,
    fun e c he hreads h => (cuts_editor hasks hinput).yields ⟨he, hreads, h⟩,
    fun l _ => Line.Segment.tokenize_of_notMem, fun hnone => ?_⟩
  exact Line.Segment.exists_lines_of_notMem fun l hl hmem =>
    hnone (Line.mem_of_mem_segments hl hmem)

/-- The source is interrupted in the middle of the first line, and the editor has read ahead to there.
Of the carriage returns before a newline the editor drops one, and at the end of the text none. -/
theorem yields_segments_trough :
    let text := "cd /\r\n\r\r\n\npwd | cat\r"
    let source : Source := ⟨Utf8.encode "cd", [.failed (.system .interrupted),
      .data (Utf8.encode " /\r\n\r\r\n\npwd | cat\r")]⟩
    let c : Console Trough := { kernel := { content := Utf8.encode text, position := 2 } }
    let e : Editor := { history := { capacity := 10 }, ahead := Utf8.encode "cd" }
    bytes.Yields ((), source) (["cd /\r", "\r\r", "", "pwd | cat\r"].map .ok) ∧
      editor.Yields (c, e) (["cd /", "\r", "", "pwd | cat\r"].map .ok) := by
  intro text source c e
  obtain ⟨hbytes, _, heditor, _⟩ := yields_segments text
    (Trough.lawful_input (Utf8.encode text)) (Editor.asksQuietly_false _)
  have hsource : source.Holds (Utf8.encode text) :=
    ⟨_, .interrupted rfl (.data _ .nil), by cbv⟩
  have hread := hbytes () source hsource
  have hheard := heditor e c rfl ⟨rfl, by cbv, by decide, by decide, by decide⟩ (by cbv)
  have hlines : (Line.segments text.toList).map (fun l => (.ok l.line : Except Error String)) =
      ["cd /\r", "\r\r", "", "pwd | cat\r"].map .ok := by
    cbv
  have hkept : (Line.segments text.toList).map Line.Segment.heard =
      ["cd /", "\r", "", "pwd | cat\r"].map .ok := by
    cbv
  exact ⟨hlines ▸ hread, hkept ▸ hheard⟩

/-- A backspace takes away the character before it, and so the editor makes another job of the line. -/
theorem yields_backspace :
    let text := "echo ab\x08\n"
    let c : Console Trough := { kernel := { content := Utf8.encode text } }
    bytes.Yields ((), .ofBytes (Utf8.encode text)) [.ok "echo ab\x08"] ∧
      editor.Yields (c, .ofCapacity 10) [.ok "echo a"] ∧
      Line.tokenize "echo ab\x08" ≠ Line.tokenize "echo a" := by
  intro text c
  have htext : Utf8.encode text = Utf8.encode (String.ofList text.toList) := by
    rw [String.ofList_toList]
  have hsource : (Source.ofBytes (Utf8.encode text)).Holds (Utf8.encode (String.ofList text.toList)) :=
    htext ▸ Source.holds_ofBytes (Utf8.encode text)
  have hread := (cuts_bytes ()).yields (s := ((), .ofBytes (Utf8.encode text))) ⟨rfl, hsource⟩
  have hinput := Trough.lawful_input (Utf8.encode text)
  have hreads : (Trough.input (Utf8.encode text)).console.Reads c Descriptor.input :=
    ⟨rfl, by cbv, by decide, by decide, by decide⟩
  have hheard := (cuts_editor (Editor.asksQuietly_false _) hinput).yields
    (s := (c, .ofCapacity 10)) ⟨rfl, hreads, htext⟩
  have hlines : (Line.segments text.toList).map (fun l => (.ok l.line : Except Error String)) =
      [.ok "echo ab\x08"] := by
    cbv
  have hkept : (Line.segments text.toList).map Line.Segment.heard = [.ok "echo a"] := by
    cbv
  exact ⟨hlines ▸ hread, hkept ▸ hheard, by decide⟩

end LineSupply

end LineShell
