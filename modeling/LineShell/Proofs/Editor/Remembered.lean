import LineShell.Proofs.Line.Heard
import Mathlib

/-!
What a line editor remembers. Of the lines that it reads and of those that it is told to record, it keeps
the last that are worth keeping, as many as there is room for. Whether a line is kept does not depend on
the room, for the line kept last is always there to compare it with.
-/

namespace LineShell

namespace History

/-- The line is not empty and does not begin with white space. -/
def isWorthy (line : String) : Bool := !line.isEmpty && !Blank.startsBlank line

/-- The lines that would be kept if there were room for all: of those that are worth it, none that
repeats the one kept before it. -/
def kept (lines : List String) : List String := (lines.filter isWorthy).destutter (· ≠ ·)

theorem destutter'_concat (first last : String) (lines : List String) :
    (lines ++ [last]).destutter' (· ≠ ·) first =
      if (lines.destutter' (· ≠ ·) first).getLast? = some last then lines.destutter' (· ≠ ·) first
      else lines.destutter' (· ≠ ·) first ++ [last] := by
  induction lines generalizing first with
  | nil => by_cases h : first = last <;> simp [h]
  | cons line lines ih =>
      by_cases h : first ≠ line
      · rw [List.cons_append, List.destutter'_cons_pos _ h, List.destutter'_cons_pos _ h, ih]
        obtain ⟨line', later, hlater⟩ := List.exists_cons_of_ne_nil
          (List.destutter'_ne_nil lines (· ≠ ·) (a := line))
        rw [hlater, List.getLast?_cons_cons]
        split <;> rfl
      · rw [List.cons_append, List.destutter'_cons_neg _ h, List.destutter'_cons_neg _ h, ih]

/-- One more line is kept if it is worth it and does not repeat the line kept last. -/
theorem kept_concat (lines : List String) (line : String) :
    kept (lines ++ [line]) =
      if isWorthy line = true ∧ (kept lines).getLast? ≠ some line then kept lines ++ [line]
      else kept lines := by
  cases hworthy : isWorthy line with
  | false => simp [kept, hworthy]
  | true =>
      rw [kept, kept, List.filter_append, List.filter_singleton, hworthy]
      cases lines.filter isWorthy with
      | nil => simp
      | cons first later =>
          simp only [cond_true, List.cons_append, List.destutter_cons', destutter'_concat]
          split <;> simp_all

/-- The last part of a list, if there is room for one more than before. -/
theorem rtake_succ_drop {α : Type} (l : List α) (n : Nat) :
    (if (l.rtake (n + 1)).length = n + 1 then (l.rtake (n + 1)).drop 1 else l.rtake (n + 1)) =
      l.rtake n := by
  simp only [List.rtake, List.length_drop]
  split
  · rw [List.drop_drop]
    congr 1
    omega
  · congr 1
    omega

theorem getLast?_rtake_succ {α : Type} (l : List α) (n : Nat) :
    (l.rtake (n + 1)).getLast? = l.getLast? := by
  rw [List.rtake, List.getLast?_drop]
  split
  next hle =>
    have hnil : l = [] := List.length_eq_zero_iff.mp (by omega)
    rw [hnil]
    rfl
  next => rfl

/-- The history has the last of the lines that are to be kept, as many as it has room for. -/
structure Holds (h : History) (capacity : Nat) (lines : List String) : Prop where
  capacity_eq : h.capacity = capacity
  entries_eq : h.entries = (kept lines).rtake capacity

namespace Holds

variable {h : History} {capacity : Nat} {lines : List String}

/-- A history with room for something ignores just what would not be kept. -/
theorem ignores_iff (hlines : h.Holds (capacity + 1) lines) (line : String) :
    h.ignores line = true ↔ ¬ (isWorthy line = true ∧ (kept lines).getLast? ≠ some line) := by
  -- What has made room for later lines is never the line kept last.
  have hlast : h.entries.getLast? = (kept lines).getLast? := by
    rw [hlines.entries_eq, getLast?_rtake_succ]
  simp only [ignores, hlast, hlines.capacity_eq, isWorthy]
  cases line.isEmpty <;> cases Blank.startsBlank line <;> simp

/-- Recording one more line drops the oldest entry only if there is no room. -/
theorem add (hlines : h.Holds capacity lines) (line : String) :
    (h.add line).Holds capacity (lines ++ [line]) := by
  have hcapacity : (h.add line).capacity = h.capacity := by
    rw [History.add]
    split <;> rfl
  refine ⟨hcapacity.trans hlines.capacity_eq, ?_⟩
  cases capacity with
  | zero =>
      -- With no room at all there is no last entry to compare with, but nothing is recorded anyway.
      have hignored : h.ignores line = true := by simp [ignores, hlines.capacity_eq]
      rw [History.add, if_pos hignored, hlines.entries_eq, List.rtake_zero, List.rtake_zero]
  | succ n =>
      have hignores := hlines.ignores_iff line
      rw [History.add, kept_concat]
      split
      next hignored => rw [if_neg (hignores.mp hignored), hlines.entries_eq]
      next hkept =>
        rw [if_pos (not_not.mp (mt hignores.mpr hkept)), List.rtake_concat_succ, hlines.entries_eq,
          hlines.capacity_eq, rtake_succ_drop]

theorem size_eq (hlines : h.Holds capacity lines) : h.size = min capacity (kept lines).length := by
  rw [History.size, hlines.entries_eq, List.rtake, List.length_drop]
  omega

end Holds

end History

namespace Editor

/-! ### One request after another -/

/-- What is asked of a line editor. -/
inductive Request where
  | read (prompt : String)
  | record (line : String)
  deriving DecidableEq, Repr

/-- What comes of asking for a line. -/
abbrev Reply := Except Error (Option String)

def Request.isRead : Request → Bool
  | read _ => true
  | record _ => false

/-- The line that is submitted by a request with this reply, if there is one. -/
def Request.submitted? : Request → Option Reply → Option String
  | record line, _ => some line
  | read _, some (.ok line) => line
  | read _, _ => none

/-- The lines that are submitted by requests with these replies. -/
def submitted (requests : List Request) (replies : List (Option Reply)) : List String :=
  (List.zipWith Request.submitted? requests replies).reduceOption

section Serve

variable {κ : Type} [Kernel κ]

/-- Meets a request. There is a reply only to one for a line. -/
def serve (e : Editor) : Request → StateM (Console κ) (Option Reply × Editor)
  | .read prompt => do
      let (reply, e) ← e.next prompt
      return (some reply, e)
  | .record line => return (none, { e with history := e.history.add line })

def serveAll (e : Editor) : List Request → StateM (Console κ) (List (Option Reply) × Editor)
  | [] => return ([], e)
  | request :: rest => do
      let (reply, e) ← e.serve request
      let (replies, e) ← serveAll e rest
      return (reply :: replies, e)

/-! ### The history -/

/-- A line that holds nothing but white space is not worth keeping either. -/
theorem history_record (e : Editor) (line : String) :
    (e.record line).history = e.history.add line := by
  rw [record]
  split
  next hblank =>
    have hignores : e.history.ignores line = true := by
      rw [Blank.isBlankText] at hblank
      cases hline : line.toList with
      | nil => simp [History.ignores, String.toList_eq_nil_iff.mp hline]
      | cons c rest =>
          have hc : Blank.isBlank c = true := by simpa [hline] using List.all_eq_true.mp hblank c
          simp [History.ignores, Blank.startsBlank, hline, hc]
    rw [History.add, if_pos hignores]
  next => rfl

theorem history_take (e : Editor) (line : Option (Bytes × Bytes)) (prompt : String) :
    (e.take line).2.history =
      ((Request.read prompt).submitted? (some (e.take line).1)).elim e.history e.history.add := by
  rcases line with _ | ⟨line, rest⟩
  · rfl
  · simp only [take]
    cases Utf8.decode? line with
    | none => rfl
    | some text =>
        dsimp only
        cases Line.rubout text with
        | none => rfl
        | some text => exact history_record _ text

/-- A request changes the history by the line that it submits, and by nothing else. -/
theorem history_serve (e : Editor) (request : Request) (c : Console κ) :
    (e.serve request c).1.2.history =
      (request.submitted? (e.serve request c).1.1).elim e.history e.history.add := by
  cases request with
  | record line => rfl
  | read prompt =>
      simp only [serve, next, bind_apply, pure_apply]
      rcases e.ask prompt c with ⟨asked, c₁⟩
      cases asked with
      | error fault => rfl
      | ok _ =>
          simp only [bind_apply]
          rcases Console.call (Kernel.pending Descriptor.input) c₁ with ⟨pending, c₂⟩
          cases pending with
          | error fault => rfl
          | ok pending => exact e.history_take _ prompt

theorem submitted_cons (request : Request) (requests : List Request) (reply : Option Reply)
    (replies : List (Option Reply)) :
    submitted (request :: requests) (reply :: replies) =
      (request.submitted? reply).toList ++ submitted requests replies := by
  cases h : request.submitted? reply <;> simp [submitted, h]

theorem holds_serveAll {e : Editor} {capacity : Nat} {lines : List String}
    (h : e.history.Holds capacity lines) (requests : List Request) (c : Console κ) :
    (e.serveAll requests c).1.2.history.Holds capacity
      (lines ++ submitted requests (e.serveAll requests c).1.1) := by
  induction requests generalizing e lines c with
  | nil => simpa [serveAll, submitted] using h
  | cons request rest ih =>
      have hstep : (e.serve request c).1.2.history.Holds capacity
          (lines ++ (request.submitted? (e.serve request c).1.1).toList) := by
        rw [history_serve]
        cases request.submitted? (e.serve request c).1.1 with
        | none => simpa using h
        | some line => exact h.add line
      simpa [serveAll, submitted_cons] using ih hstep (e.serve request c).2

end Serve

/-! ### The lines -/

/-- The prompt could not be shown, so no line was asked for. -/
def isRefusal : Reply → Bool
  | .error (.editor _) => true
  | _ => false

/-- The replies for which a line was asked. -/
def given (replies : List (Option Reply)) : List Reply :=
  replies.reduceOption.filter (!isRefusal ·)

/-- The reply that a line of the text is, or the end of the text. -/
def replyTo : Option Line.Segment → Reply
  | some line => line.heard.map some
  | none => .ok none

theorem isRefusal_replyTo (line : Option Line.Segment) : isRefusal (replyTo line) = false := by
  cases line with
  | none => rfl
  | some line =>
      rw [replyTo, Line.Segment.heard, Line.heard]
      cases Line.rubout (String.ofList line.stripped) <;> rfl

/-- Of a text at hand and still to be read, the first line is read, or that there is none. -/
theorem exists_readLine {e : Editor} {pending : Bytes} {text : List Char}
    (htext : e.ahead ++ pending = Utf8.encode (String.ofList text)) :
    ∃ e' count later, e.readLine pending = (replyTo (Line.segments text).head?, e', count) ∧
      count ≤ pending.length ∧ Line.segments later = (Line.segments text).tail ∧
      e'.ahead ++ pending.drop count = Utf8.encode (String.ofList later) ∧ e'.asks = e.asks := by
  by_cases hmem : '\n' ∈ text
  · obtain ⟨line, later, rfl, hline⟩ := List.eq_append_cons_of_mem hmem
    obtain ⟨e', count, hread, hcount, hleft, hasks⟩ := exists_readLine_newline hline htext
    rw [Line.segments_newline hline]
    exact ⟨e', count, later, hread, hcount, rfl, hleft, hasks⟩
  · by_cases hne : text = []
    · subst hne
      rw [String.ofList_nil, Utf8.encode_empty] at htext
      refine ⟨_, _, [], readLine_ended htext, Nat.le_refl _, rfl, ?_, rfl⟩
      rw [List.drop_length, String.ofList_nil, Utf8.encode_empty]
      rfl
    · obtain ⟨e', hread, hahead, hasks⟩ := exists_readLine_last hmem hne htext
      rw [Line.segments_last hmem hne]
      refine ⟨e', _, [], hread, Nat.le_refl _, rfl, ?_, hasks⟩
      rw [hahead, List.drop_length, String.ofList_nil, Utf8.encode_empty]
      rfl

section Input

variable {κ : Type} [Kernel κ] {input : SharedInput κ}

/-- Nobody reads while the shell writes to its standard output. -/
def Undisturbed (input : SharedInput κ) : Prop :=
  ∀ bytes s, input.Reads s Descriptor.input →
    input.Reads (Kernel.write Descriptor.output bytes s).2 Descriptor.input ∧
      input.position (Kernel.write Descriptor.output bytes s).2 = input.position s

/-- The program takes nothing of the input. -/
def Abstains {α : Type} (input : SharedInput κ) (m : StateM (Console κ) α) : Prop :=
  ∀ c, input.console.Reads c Descriptor.input →
    input.console.Reads (m c).2 Descriptor.input ∧
      input.console.position (m c).2 = input.console.position c

theorem printing_of_undisturbed (h : Undisturbed input) :
    Console.Printing (κ := κ) (Abstains input) where
  pure _ _ hc := ⟨hc, rfl⟩
  bind hm hf c hc := by
    obtain ⟨hreads, hposition⟩ := hm c hc
    obtain ⟨hreads', hposition'⟩ := hf _ _ hreads
    exact ⟨hreads', hposition'.trans hposition⟩
  look _ hc := ⟨hc, rfl⟩
  change f hf c hc := by
    simp only [modify_apply, SharedInput.console, hf] at hc ⊢
    exact ⟨hc, trivial⟩
  write bytes c hc := h bytes c.kernel hc

theorem abstains_ask {e : Editor} (h : e.asks = true → Undisturbed input) (prompt : String) :
    Abstains input (e.ask prompt) := by
  rw [Editor.ask]
  cases hasks : e.asks with
  | false => exact fun c hc => ⟨hc, rfl⟩
  | true =>
      have hprinting := printing_of_undisturbed (h hasks)
      exact hprinting.bindExcept (hprinting.print _) (fun _ => hprinting.flush)
        fun _ => hprinting.pure _

/-- These lines of a text are left to the editor, some of it read ahead. -/
structure Left (input : SharedInput κ) (e : Editor) (c : Console κ) (lines : List Line.Segment) :
    Prop where
  quiet : e.asks = true → Undisturbed input
  reads : input.console.Reads c Descriptor.input
  text : ∃ text, Line.segments text = lines ∧
    e.ahead ++ input.console.rest c = Utf8.encode (String.ofList text)

namespace Left

variable {e : Editor} {c : Console κ} {lines : List Line.Segment}

/-- Asking for a line takes nothing of the input, whether the prompt can be shown or not. -/
theorem ask (h : Left input e c lines) (prompt : String) :
    Left input e (e.ask prompt c).2 lines := by
  obtain ⟨hreads, hposition⟩ := abstains_ask h.quiet prompt c h.reads
  obtain ⟨text, hlines, htext⟩ := h.text
  exact ⟨h.quiet, hreads, text, hlines, by rw [SharedInput.rest_congr hposition, htext]⟩

/-- The reply to a request for a line is the first that is left, unless the prompt cannot be shown. -/
theorem next (h : Left input e c lines) (hinput : input.Lawful) (prompt : String) :
    (e.asks = true ∧ isRefusal (e.next prompt c).1.1 = true ∧
        Left input (e.next prompt c).1.2 (e.next prompt c).2 lines) ∨
      ((e.next prompt c).1.1 = replyTo lines.head? ∧ (e.next prompt c).1.2.asks = e.asks ∧
        Left input (e.next prompt c).1.2 (e.next prompt c).2 lines.tail) := by
  have hleft := h.ask prompt
  rcases hask : e.ask prompt c with ⟨asked, c₁⟩
  rw [hask] at hleft
  cases asked with
  | error fault =>
      have hnext : e.next prompt c = ((.error (.editor fault), e), c₁) := by
        simp [Editor.next, hask]
      have hasks : e.asks = true := by
        cases hasks : e.asks with
        | false =>
            have hquiet : e.ask prompt c = (.ok (), c) := by simp [Editor.ask, hasks]
            rw [hquiet] at hask
            cases hask
        | true => rfl
      rw [hnext]
      exact .inl ⟨hasks, rfl, hleft⟩
  | ok _ =>
      obtain ⟨text, rfl, htext⟩ := hleft.text
      obtain ⟨e', count, later, hread, hcount, hlater, hrest, hasks⟩ := exists_readLine htext
      obtain ⟨c', hnext, hreads, hleft'⟩ :=
        exists_next_of_asked hinput hask hleft.reads hread hcount
      rw [hnext]
      exact .inr ⟨rfl, hasks, ⟨hasks ▸ h.quiet, hreads, later, hlater, by rw [hleft', hrest]⟩⟩

/-- The replies are the lines one after another, and then that there is none. -/
theorem serveAll (h : Left input e c lines) (hinput : input.Lawful) (requests : List Request) :
    (∀ (k : Nat) (reply : Reply), (given (e.serveAll requests c).1.1)[k]? = some reply →
        reply = replyTo lines[k]?) ∧
      (e.asks = false → given (e.serveAll requests c).1.1 =
        (e.serveAll requests c).1.1.reduceOption) := by
  induction requests generalizing e c lines with
  | nil => simp [Editor.serveAll, given]
  | cons request rest ih =>
      cases request with
      | record line =>
          have hleft : Left input { e with history := e.history.add line } c lines :=
            ⟨h.quiet, h.reads, h.text⟩
          exact ih hleft
      | read prompt =>
          let later := (e.next prompt c).1.2.serveAll rest (e.next prompt c).2
          have hreplies : (e.serveAll (.read prompt :: rest) c).1.1 =
            some (e.next prompt c).1.1 :: later.1.1 := rfl
          rw [hreplies]
          rcases h.next hinput prompt with ⟨hasks, hrefused, hleft⟩ | ⟨hreply, hasks, hleft⟩
          · -- The line is still there for the next request.
            have hgiven : given (some (e.next prompt c).1.1 :: later.1.1) = given later.1.1 := by
              simp [given, hrefused]
            rw [hgiven]
            exact ⟨(ih hleft).1, fun hno => absurd (hasks.symm.trans hno) (by decide)⟩
          · have hgiven : given (some (e.next prompt c).1.1 :: later.1.1) =
                replyTo lines.head? :: given later.1.1 := by
              simp [given, hreply, isRefusal_replyTo]
            obtain ⟨hlines, hall⟩ := ih hleft
            rw [hgiven]
            refine ⟨fun k reply hk => ?_, fun hno => ?_⟩
            · cases k with
              | zero => simpa [List.head?_eq_getElem?] using hk.symm
              | succ k => simpa using hlines k reply (by simpa using hk)
            · rw [hall (hasks.trans hno), hreply, List.reduceOption_cons_of_some]

end Left

end Input

theorem isSome_serveAll {κ : Type} [Kernel κ] (e : Editor) (requests : List Request)
    (c : Console κ) :
    (e.serveAll requests c).1.1.map Option.isSome = requests.map Request.isRead := by
  induction requests generalizing e c with
  | nil => rfl
  | cons request rest ih =>
      simp only [serveAll, bind_apply, pure_apply, List.map_cons, ih]
      cases request <;> rfl

/-- Whatever is asked of a new editor and in whatever order, it gives the lines of the text one after
another, and its history has the last of the lines submitted that are worth keeping. A request whose
prompt cannot be shown is refused, and takes no line. -/
theorem remembers (capacity : Nat) (requests : List Request) (text : String) {κ : Type} [Kernel κ]
    {input : SharedInput κ} (hinput : input.Lawful) {c₀ c : Console κ}
    (hquiet : (new capacity c₀).1.asks = true → Undisturbed input)
    (hreads : input.console.Reads c Descriptor.input)
    (htext : input.console.rest c = Utf8.encode text) :
    let lines := Line.segments text.toList
    let run := ((new capacity c₀).1.serveAll requests c).1
    run.1.map Option.isSome = requests.map Request.isRead ∧
      (∀ (k : Nat) (reply : Reply), (given run.1)[k]? = some reply → reply = replyTo lines[k]?) ∧
      ((new capacity c₀).1.asks = false → given run.1 = run.1.reduceOption) ∧
      (∀ line ∈ lines, Line.backspace ∉ line.text →
        line.heard = .ok (String.ofList line.stripped)) ∧
      run.2.history.entries = (History.kept (submitted requests run.1)).rtake capacity ∧
      run.2.history.size = run.2.history.entries.length ∧ run.2.history.size ≤ capacity := by
  intro lines run
  have hleft : Left input (new capacity c₀).1 c lines := by
    refine ⟨hquiet, hreads, text.toList, rfl, ?_⟩
    rw [String.ofList_toList]
    exact htext
  obtain ⟨hlines, hall⟩ := hleft.serveAll hinput requests
  have hstart : (new capacity c₀).1.history.Holds capacity [] := ⟨rfl, (List.rtake_nil _).symm⟩
  have hholds : run.2.history.Holds capacity (submitted requests run.1) :=
    holds_serveAll hstart requests c
  refine ⟨isSome_serveAll _ requests c, hlines, hall, fun _ _ => Line.Segment.heard_of_notMem,
    hholds.entries_eq, rfl, ?_⟩
  rw [hholds.size_eq]
  exact Nat.min_le_left _ _

/-- Neither the line that begins with white space nor the empty one comes between lines that are the
same, and the first line makes room for the last. -/
theorem remembers_trough :
    let text := "a\n b\r\na\nb\n\nc"
    let c : Console Trough := { kernel := { content := Utf8.encode text } }
    let requests : List Request := [.read "> ", .read "> ", .read "> ", .record "b", .read "> ",
      .record "", .read "> ", .read "> ", .read "> "]
    let replies : List (Option Reply) := [some (.ok (some "a")), some (.ok (some " b")),
      some (.ok (some "a")), none, some (.ok (some "b")), none, some (.ok (some "")),
      some (.ok (some "c")), some (.ok none)]
    ∃ e c', (new 2 c).1.serveAll requests c = ((replies, e), c') ∧
      History.kept (submitted requests replies) = ["a", "b", "c"] ∧
      e.history.entries = ["b", "c"] ∧ e.history.size ≤ 2 := by
  intro text c requests replies
  have hreads : (Trough.input (Utf8.encode text)).console.Reads c Descriptor.input :=
    ⟨rfl, Nat.zero_le _, by decide, by decide, by decide⟩
  have hquiet : (new 2 c).1.asks = true → Undisturbed (Trough.input (Utf8.encode text)) :=
    fun _ _ _ h => ⟨h, rfl⟩
  obtain ⟨-, -, -, -, hentries, -, hsize⟩ := remembers 2 requests text
    (Trough.lawful_input (Utf8.encode text)) hquiet hreads List.drop_zero
  have hreplies : ((new 2 c).1.serveAll requests c).1.1 = replies := by
    subst replies requests c text
    decide +kernel
  have hkept : History.kept (submitted requests replies) = ["a", "b", "c"] := by
    decide
  rcases hrun : (new 2 c).1.serveAll requests c with ⟨⟨replies', e⟩, c'⟩
  rw [hrun] at hreplies hentries hsize
  obtain rfl : replies' = replies := hreplies
  exact ⟨e, c', rfl, hkept, hentries.trans (by rw [hkept]; rfl), hsize⟩

/-- A backspace takes away the character before it, so that the line repeats the one before and is not
kept. As it stands it would be. -/
theorem remembers_backspace :
    let text := "a\nab\x08\n"
    let c : Console Trough := { kernel := { content := Utf8.encode text } }
    let run := ((new 10 c).1.serveAll [.read "> ", .read "> "] c).1
    let lines := (Line.segments text.toList).map Line.Segment.line
    run.1 = [some (.ok (some "a")), some (.ok (some "a"))] ∧ lines = ["a", "ab\x08"] ∧
      run.2.history.entries = ["a"] ∧ (History.kept lines).rtake 10 = ["a", "ab\x08"] := by
  intro text c run lines
  subst lines run c text
  exact ⟨by decide +kernel, by decide +kernel, by decide +kernel, by decide +kernel⟩

end Editor

end LineShell
