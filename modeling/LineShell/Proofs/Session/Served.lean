import LineShell.Proofs.Kernel.SharedInput
import LineShell.Proofs.Line.Cut
import LineShell.Proofs.Session.Contained
import LineShell.Proofs.Session.Joined
import LineShell.Proofs.Trough
import Mathlib

/-!
A shell that reads its lines from an input that it shares with its jobs. It reads no further than the
line that it executes, through a descriptor that no job touches, so each byte of the input is taken
once: by the shell as part of a line, or by one of the jobs.
-/

namespace LineShell

namespace Source

/-- A line is read up to its newline, and what follows is left. -/
theorem readLine_ofBytes_newline {bytes later : Bytes} (h : Utf8.newline ∉ bytes) :
    (ofBytes (bytes ++ Utf8.newline :: later)).readLine =
      (.ok (some (Utf8.decodeLossy bytes)), ofBytes later) := by
  rw [readLine, readBytes, ofBytes, readFrom_newline [] h]
  rfl

/-- A last line without a newline is read to the end. -/
theorem readLine_ofBytes {bytes : Bytes} (h : Utf8.newline ∉ bytes) (hne : bytes ≠ []) :
    (ofBytes bytes).readLine = (.ok (some (Utf8.decodeLossy bytes)), ofBytes []) := by
  rw [readLine, readBytes, ofBytes, readFrom_of_notMem [] h]
  simp [hne, ofBytes, Except.map]

end Source

/-! ### Parts of an input -/

/-- Who takes bytes of an input. -/
inductive Taker where
  | shell (line : String)
  | job (job : Job)

/-- A part of an input that somebody takes. -/
structure Span where
  taker : Taker
  start : Nat
  stop : Nat

namespace Span

def positions (s : Span) : List Nat := List.range' s.start (s.stop - s.start)

/-- Parts that follow one another, from one position to another. -/
inductive Chain : Nat → List Span → Nat → Prop
  | nil (p : Nat) : Chain p [] p
  | cons {p q r : Nat} {spans : List Span} (taker : Taker) (hle : p ≤ q) (h : Chain q spans r) :
      Chain p (⟨taker, p, q⟩ :: spans) r

namespace Chain

theorem le {p q : Nat} {spans : List Span} (h : Chain p spans q) : p ≤ q := by
  induction h with
  | nil p => exact Nat.le_refl p
  | cons _ hle _ ih => exact Nat.le_trans hle ih

theorem append {p q r : Nat} {spans later : List Span} (h : Chain p spans q)
    (hlater : Chain q later r) : Chain p (spans ++ later) r := by
  induction h with
  | nil p => exact hlater
  | cons taker hle _ ih => exact .cons taker hle (ih hlater)

/-- Each position is in one of the parts, once. -/
theorem positions_eq {p q : Nat} {spans : List Span} (h : Chain p spans q) :
    spans.flatMap positions = List.range' p (q - p) := by
  induction h with
  | nil p => simp
  | @cons p q r spans taker hle h ih =>
      have hr := h.le
      rw [List.flatMap_cons, ih, positions]
      have hsum : r - p = (q - p) + (r - q) := by omega
      rw [hsum, ← List.range'_append_1]
      congr 2
      omega

end Chain

end Span

namespace SharedInput

variable {σ : Type} (input : SharedInput σ)

/-- The next line is taken from the input: up to and with the next newline, or all that is left. -/
inductive TakesLine (s : σ) : String → σ → Prop
  | ended {bytes later : Bytes} {s' : σ} (hline : Utf8.newline ∉ bytes)
      (hrest : input.rest s = bytes ++ Utf8.newline :: later)
      (hposition : input.position s' = input.position s + bytes.length + 1) :
      TakesLine s (Utf8.decodeLossy bytes) s'
  | last {bytes : Bytes} {s' : σ} (hline : Utf8.newline ∉ bytes) (hne : bytes ≠ [])
      (hrest : input.rest s = bytes)
      (hposition : input.position s' = input.position s + bytes.length) :
      TakesLine s (Utf8.decodeLossy bytes) s'

theorem TakesLine.position_lt {s s' : σ} {line : String} (h : input.TakesLine s line s') :
    input.position s < input.position s' := by
  cases h with
  | ended _ _ hposition => omega
  | last _ hne _ hposition =>
      have := List.length_pos_iff.mpr hne
      omega

/-- What each of the jobs took: whatever went between the state in which it was taken up and the one
in which the next was, or in which the line was done. -/
def jobSpans : List (Job × σ) → σ → List Span
  | [], _ => []
  | (job, s) :: later, done =>
      ⟨.job job, input.position s, input.position ((later.head?.map Prod.snd).getD done)⟩ ::
        jobSpans later done

variable [Environment σ] (execute : Executor σ)

open Session in
/-- Lines are taken from the input and executed, one after another. Each line is taken from where the
jobs of the line before have left the input, and its jobs find the input just after it. -/
inductive Serves : ExitStatus → σ → List Span → Outcome → σ → Prop
  | ended {last : ExitStatus} {s s' : σ} (hrest : input.rest s = [])
      (hposition : input.position s' = input.position s) :
      Serves last s [] (.ok (.proceed last), last) s'
  | line {last last' exit : ExitStatus} {s s₁ s₂ s₃ : σ} {line : String} {later : List Span}
      {outcome : Outcome} (htaken : input.TakesLine s line s₁)
      (hrun : executeLine execute last line s₁ = ((.ok (.proceed exit), last'), s₂))
      (hlater : Serves last' s₂ later outcome s₃) :
      Serves last s (⟨.shell line, input.position s, input.position s₁⟩ ::
        (input.jobSpans (taken execute (Line.tokenize line) s₁) s₂ ++ later)) outcome s₃
  /-- After a line that ends the shell no other is taken. -/
  | stopped {last last' : ExitStatus} {s s₁ s₂ : σ} {line : String} {result : Except Error Status}
      (htaken : input.TakesLine s line s₁)
      (hrun : executeLine execute last line s₁ = ((result, last'), s₂))
      (hstop : ∀ exit, result ≠ .ok (.proceed exit)) :
      Serves last s (⟨.shell line, input.position s, input.position s₁⟩ ::
        input.jobSpans (taken execute (Line.tokenize line) s₁) s₂) (result, last') s₂

/-! ### Jobs -/

section Jobs

open Session

variable {input execute} {d : Descriptor} (hexecute : ∀ job, input.Passes d (execute job))
  (hcomplain : ∀ text, input.Passes d (Environment.complain (σ := σ) text))

omit hexecute hcomplain in
/-- A job takes whatever goes until the jobs after it are taken up. -/
theorem jobSpans_cons_taken (job : Job) (jobs : List Job) (last : ExitStatus) (status : Status)
    (s s' : σ) :
    input.jobSpans ((job, s) :: taken execute jobs s') (executeJobs execute last status jobs s').2 =
      ⟨.job job, input.position s, input.position s'⟩ ::
        input.jobSpans (taken execute jobs s') (executeJobs execute last status jobs s').2 := by
  cases jobs <;> rfl

include hexecute hcomplain

/-- Whatever is read while the jobs of a line are executed is taken by them, one after another. -/
theorem chain_executeJobs (jobs : List Job) (last : ExitStatus) (status : Status) {s : σ}
    (hreads : input.Reads s d) :
    input.Reads (executeJobs execute last status jobs s).2 d ∧
      Span.Chain (input.position s)
        (input.jobSpans (taken execute jobs s) (executeJobs execute last status jobs s).2)
        (input.position (executeJobs execute last status jobs s).2) := by
  induction jobs generalizing last status s with
  | nil => exact ⟨hreads, .nil _⟩
  | cons job rest ih =>
      obtain ⟨hreads', hle, _⟩ := hexecute job s hreads
      -- The jobs after this one are taken up where it has left the input.
      have hnext (last' : ExitStatus) (status' : Status) {s' : σ} (hreads' : input.Reads s' d)
          (hle : input.position s ≤ input.position s') :
          let done := (executeJobs execute last' status' rest s').2
          input.Reads done d ∧ Span.Chain (input.position s)
            (input.jobSpans ((job, s) :: taken execute rest s') done) (input.position done) := by
        obtain ⟨hover, hchain⟩ := ih last' status' hreads'
        intro done
        rw [jobSpans_cons_taken]
        exact ⟨hover, .cons _ hle hchain⟩
      simp only [executeJobs, taken, passed, bind_apply]
      rcases hrun : execute job s with ⟨result, s'⟩
      rw [hrun] at hreads' hle
      have hstop : Span.Chain (input.position s) (input.jobSpans [(job, s)] s')
          (input.position s') := .cons _ hle (.nil _)
      cases result with
      | ok status =>
          cases status with
          | proceed exit => exact hnext exit (.proceed exit) hreads' hle
          | terminate exit => exact ⟨hreads', hstop⟩
      | error e =>
          cases e with
          | pipe e =>
              obtain ⟨hreads'', hle', _⟩ := hcomplain (Error.pipe e).report s' hreads'
              exact hnext .failure .failure hreads'' (Nat.le_trans hle hle')
          | _ => exact ⟨hreads', hstop⟩

end Jobs

/-! ### Lines -/

namespace Lawful

variable {κ : Type} [Kernel κ] {input : SharedInput κ} (h : input.Lawful) {d : Descriptor}

include h

/-- Asked for a line, the supply takes just that line. -/
theorem descriptor_eq {c : Console κ} (hreads : input.console.Reads c d) :
    ∃ c', input.console.Reads c' d ∧
      ((input.console.rest c = [] ∧ input.console.position c' = input.console.position c ∧
          LineSupply.descriptor d Session.prompt c = (.ok none, c')) ∨
        ∃ line, input.console.TakesLine c line c' ∧
          LineSupply.descriptor d Session.prompt c = (.ok (some line), c')) := by
  obtain ⟨hpending, hreads₁, hposition₁⟩ := h.pending c.kernel d hreads
  have hrest₁ : input.rest (Kernel.pending d c.kernel).2 = input.rest c.kernel := by
    rw [rest, hposition₁, rest]
  -- What the supply does once it is known how many bytes its line takes.
  have hsupply {line : Option String} (left : Bytes) (count : Nat)
      (hline : (Source.ofBytes (input.rest c.kernel)).readLine = (.ok line, .ofBytes left))
      (hcount : (input.rest c.kernel).length = count + left.length) :
      ∃ c', input.console.Reads c' d ∧
        input.console.position c' = input.console.position c + count ∧
          LineSupply.descriptor d Session.prompt c = (.ok line, c') := by
    obtain ⟨hreads₂, hposition₂⟩ := h.skip _ d count hreads₁ (by rw [hrest₁]; omega)
    refine ⟨{ c with kernel := (Kernel.skip d count (Kernel.pending d c.kernel).2).2 }, hreads₂,
      hposition₂.trans (congrArg (· + count) hposition₁), ?_⟩
    have htook : (input.rest c.kernel).length - left.length = count := by omega
    simp only [LineSupply.descriptor, bind_apply, Console.call_apply, hpending, hline, pure_apply]
    simp only [Source.ofBytes, htook]
    rfl
  have hnone : Utf8.newline ∉ (input.rest c.kernel).takeWhile (· != Utf8.newline) := fun hmem => by
    simpa using List.mem_takeWhile_imp hmem
  have hsplit := List.takeWhile_append_dropWhile (p := (· != Utf8.newline)) (l := input.rest c.kernel)
  generalize (input.rest c.kernel).takeWhile (· != Utf8.newline) = bytes at hnone hsplit
  cases hdrop : (input.rest c.kernel).dropWhile (· != Utf8.newline) with
  | nil =>
      rw [hdrop, List.append_nil] at hsplit
      by_cases hne : bytes = []
      · obtain ⟨c', hreads', hposition, hsupply'⟩ := hsupply [] 0
          (by rw [← hsplit, hne]; rfl) (by simp [← hsplit, hne])
        exact ⟨c', hreads', .inl ⟨hsplit.symm.trans hne, hposition, hsupply'⟩⟩
      · obtain ⟨c', hreads', hposition, hsupply'⟩ := hsupply [] bytes.length
          (by rw [← hsplit]; exact Source.readLine_ofBytes hnone hne) (by simp [hsplit])
        exact ⟨c', hreads', .inr ⟨_, .last hnone hne hsplit.symm hposition, hsupply'⟩⟩
  | cons b later =>
      obtain rfl : b = Utf8.newline := by
        have := List.head?_dropWhile_not (· != Utf8.newline) (input.rest c.kernel)
        simpa [hdrop] using this
      rw [hdrop] at hsplit
      obtain ⟨c', hreads', hposition, hsupply'⟩ := hsupply later (bytes.length + 1)
        (by rw [← hsplit]; exact Source.readLine_ofBytes_newline hnone)
        (by simp [← hsplit]; omega)
      exact ⟨c', hreads', .inr ⟨_, .ended hnone hsplit.symm hposition, hsupply'⟩⟩

/-- The bound on the lines of the input leaves room for all of them. -/
theorem lineBound_eq {c : Console κ} (hreads : input.console.Reads c d) :
    ∃ bound c', (input.console.rest c').length < bound ∧ input.console.Reads c' d ∧
      input.console.position c' = input.console.position c ∧ Shell.lineBound d c = (bound, c') := by
  obtain ⟨hpending, hreads', hposition⟩ := h.pending c.kernel d hreads
  refine ⟨(input.rest c.kernel).length + Session.patience,
    { c with kernel := (Kernel.pending d c.kernel).2 }, ?_, hreads', hposition, ?_⟩
  · have hpatience : 0 < Session.patience := by decide
    simp only [rest, console, hposition]
    omega
  · simp only [Shell.lineBound, bind_apply, Console.call_apply, hpending, pure_apply]

/-- The lines of the input are taken and executed up to its end or to one that ends the shell, and
whatever is read belongs to a line or to a job. -/
theorem run_serves {execute : Executor (Console κ)}
    (hexecute : ∀ job, input.console.Passes d (execute job)) {bound : Nat} (last : ExitStatus)
    {c : Console κ} (hreads : input.console.Reads c d)
    (hbound : (input.console.rest c).length < bound) :
    ∃ spans c', input.console.Reads c' d ∧
      Span.Chain (input.console.position c) spans (input.console.position c') ∧
        input.console.Serves execute last c spans
            (Session.run execute (LineSupply.descriptor d) bound last c).1 c' ∧
          (Session.run execute (LineSupply.descriptor d) bound last c).2 = c' := by
  induction bound generalizing last c with
  | zero => simp at hbound
  | succ bound ih =>
      obtain ⟨c₁, hreads₁, ⟨hrest, hposition, hsupply⟩ | ⟨line, htaken, hsupply⟩⟩ :=
        h.descriptor_eq hreads
      · simp only [Session.run, bind_apply, hsupply, pure_apply]
        exact ⟨[], c₁, hreads₁, hposition ▸ .nil _, .ended hrest hposition, rfl⟩
      · obtain ⟨hreads₂, hjobs⟩ := chain_executeJobs hexecute h.passes_complain
          (Line.tokenize line) last (.proceed last) hreads₁
        simp only [Session.run, bind_apply, hsupply]
        rcases hrun : Session.executeLine execute last line c₁ with ⟨⟨result, last'⟩, c₂⟩
        rw [Session.executeLine] at hrun
        rw [hrun] at hreads₂ hjobs
        have hlt := htaken.position_lt
        have hstopped : Span.Chain (input.console.position c)
            (⟨.shell line, input.console.position c, input.console.position c₁⟩ ::
              input.console.jobSpans (Session.taken execute (Line.tokenize line) c₁) c₂)
            (input.console.position c₂) := .cons _ (Nat.le_of_lt hlt) hjobs
        cases result with
        | ok status =>
            cases status with
            | proceed exit =>
                have hshorter : (input.console.rest c₂).length < bound := by
                  have hpos := hjobs.le
                  have hend := h.position_le c₂.kernel d hreads₂
                  simp only [rest, List.length_drop, console] at hbound hpos hlt ⊢
                  omega
                obtain ⟨later, c₃, hreads₃, hchain, hserves, hover⟩ := ih last' hreads₂ hshorter
                refine ⟨_, c₃, hreads₃, ?_, .line htaken hrun hserves, hover⟩
                exact .cons _ (Nat.le_of_lt hlt) (hjobs.append hchain)
            | terminate exit =>
                exact ⟨_, c₂, hreads₂, hstopped, .stopped htaken hrun (by simp), rfl⟩
        | error e => exact ⟨_, c₂, hreads₂, hstopped, .stopped htaken hrun (by simp), rfl⟩

end Lawful

end SharedInput

namespace Shell

variable {κ : Type} [Kernel κ]

/-- How a shell that takes its lines from standard input shares it with its jobs. -/
structure Served (shell : Shell κ) (input : SharedInput κ) (c : Console κ) : Prop where
  /-- A shell that cannot keep its input reads nothing. -/
  refused (e : Errno) : (Kernel.keep Descriptor.input c.kernel).1 = .error e →
    ∃ c', shell.runInput c = ((.error (.stream (.system e)), shell), c') ∧
      input.position c'.kernel = input.position c.kernel
  /-- Lines are taken one after another from where the input stands, and each byte that is read from
  then on until the shell is done is part of one line or is taken by one job. -/
  kept (d : Descriptor) : (Kernel.keep Descriptor.input c.kernel).1 = .ok d →
    ∃ spans result last c₁ c₂ c₃,
      input.console.Serves shell.executor shell.lastStatus c₁ spans (result, last) c₂ ∧
        shell.runInput c = ((result, shell.withLast last), c₃) ∧
        input.position c₁.kernel = input.position c.kernel ∧
        input.position c₃.kernel = input.position c₂.kernel ∧
        Span.Chain (input.position c.kernel) spans (input.position c₃.kernel) ∧
        spans.flatMap Span.positions = List.range' (input.position c.kernel)
          (input.position c₃.kernel - input.position c.kernel)

/-- A shell shares its standard input with its jobs, whatever it holds and however much of it the
jobs take. -/
theorem served {shell : Shell κ} {input : SharedInput κ} (heditor : shell.editor = none)
    (hinput : input.Lawful)
    (hcommands : ∀ d, Descriptor.output < d → ∀ argv,
      input.console.Passes d (shell.registry.run Console.standardOutput argv))
    (c : Console κ) (hreads : input.Reads c.kernel Descriptor.input) :
    Served shell input c where
  refused e he := by
    refine ⟨{ c with kernel := (Kernel.keep Descriptor.input c.kernel).2 }, ?_,
      (hinput.keep c.kernel hreads).1⟩
    simp only [runInput, heditor, bind_apply, Console.call_apply, he]
    rfl
  kept d hd := by
    obtain ⟨hposition, hkept⟩ := hinput.keep c.kernel hreads
    obtain ⟨hreads₀, hstandard⟩ := hkept d hd
    obtain ⟨bound, c₁, hlt, hreads₁, hposition₁, hbound⟩ :=
      hinput.lineBound_eq (c := { c with kernel := (Kernel.keep Descriptor.input c.kernel).2 }) hreads₀
    have hexecute (job : Job) : input.console.Passes d (shell.executor job) :=
      .bind (hinput.passes_execute (hcommands d hstandard) hstandard job) fun _ => .pure _
    obtain ⟨spans, c₂, hreads₂, hchain, hserves, hover⟩ :=
      hinput.run_serves hexecute shell.lastStatus hreads₁ hlt
    have hstart : input.position c₁.kernel = input.position c.kernel := hposition₁.trans hposition
    have hend := hinput.release c₂.kernel d hreads₂
    simp only [SharedInput.console, hstart, ← hend] at hchain
    refine ⟨spans, _, _, c₁, c₂, { c₂ with kernel := (Kernel.close d c₂.kernel).2 }, hserves, ?_,
      hstart, hend, hchain, hchain.positions_eq⟩
    simp only [runInput, heditor, bind_apply, Console.call_apply, hd, runDescriptor, hbound, hover,
      pure_apply]

/-- The child of the first line takes what stands in the second one, while the command after it reads
from a pipe. The third line ends the shell, and what follows it is left. -/
theorem served_thirsty :
    let shell : Shell Trough := { registry := .standard }
    let c : Console Trough :=
      { kernel := { content := Utf8.encode "cat | cd /\ntea\nexit 3\nwater\n", sips := [4] } }
    Served shell (Trough.input c.kernel.content) c ∧
      (shell.runInput c).1.1 = .ok (.terminate (.ofCode 3)) ∧
      (shell.runInput c).2.kernel.rest = Utf8.encode "water\n" := by
  intro shell c
  have hinput := Trough.lawful_input c.kernel.content
  have hcommands (d : Descriptor) (_ : Descriptor.output < d) (argv : List String) :
      (Trough.input c.kernel.content).console.Passes d
        (shell.registry.run Console.standardOutput argv) := by
    rw [show shell.registry = _ from Spoken.registry_standard.symm]
    exact (hinput.respected d).run _ argv
  refine ⟨served rfl hinput hcommands c ⟨rfl, Nat.zero_le _, by decide, by decide, by decide⟩, ?_⟩
  -- Three lines are taken, whatever is added to their number.
  obtain ⟨spare, hspare⟩ : ∃ spare, Session.patience = spare + 3 := ⟨_, rfl⟩
  simp only [runInput, runDescriptor, lineBound, hspare]
  clear hspare
  exact ⟨by cbv, by cbv⟩

end Shell

end LineShell
