import LineShell.Proofs.Job.Processes
import LineShell.Proofs.Rehearsal
import Mathlib

/-!
What the wait words of children say, and what the shell records by them. A wait call that is
interrupted, or that tells of a child that has not ended, is made again; the end of a child then gives
its task a status. All signals but those without a name come through.
-/

namespace LineShell

namespace ExitStatus

variable {s : ExitStatus}

theorem code?_of_ending (h : s.ending ≠ 0) : s.code? = none := if_neg h

theorem signal?_of_ending {signal : Int} (h : s.ending = signal) (hlow : 1 ≤ signal)
    (hhigh : signal ≤ 126) : s.signal? = some signal := by
  rw [signal?, h, if_pos ⟨hlow, hhigh⟩]

/-- All seven bits are set in the word of a child that has not ended. -/
theorem signal?_of_ending_full (h : s.ending = 127) : s.signal? = none := by
  rw [signal?, h, if_neg (by decide)]

end ExitStatus

namespace Wait

/-- What one wait call can tell of a child. -/
inductive News where
  | exited (code : Nat)
  /-- A signal has ended it. It may have left an image of its memory behind. -/
  | killed (signal : Nat) (dumped : Bool)
  /-- A signal has stopped it, or a system call if it is traced. Then there may be an event as well. -/
  | stopped (cause event : Nat)
  | resumed
  deriving DecidableEq, Repr

namespace News

/-- How it is told: the code of an exit stands in the second byte, above a zero; a deadly signal in the
low seven bits, below the mark of an image; and what has stopped a child in the second byte, above
seven bits that are set. -/
def word : News → Int
  | exited code => code * 256
  | killed signal dumped => signal + if dumped then 128 else 0
  | stopped cause event => event * 65536 + cause * 256 + 127
  | resumed => 65535

/-- The code that stands for the end of a child, if it has ended. -/
def code? : News → Option Int
  | exited code => some code
  | killed signal _ => some (128 + signal)
  | stopped .. | resumed => none

/-- Codes are bytes, and there are 64 signals. -/
def Possible : News → Prop
  | exited code => code < 256
  | killed signal _ => 1 ≤ signal ∧ signal ≤ 64
  | stopped cause _ => isNamed cause = true ∨ (cause : Int) = callStop
  | resumed => True

end News

theorem isNamed_iff (signal : Nat) : isNamed signal = true ↔ 1 ≤ signal ∧ signal ≤ 31 := by
  rw [isNamed, Bool.and_eq_true, decide_eq_true_eq, decide_eq_true_eq, lastNamedSignal]
  omega

theorem ending?_exited_word {code : Nat} (h : code < 256) :
    ending? (News.exited code).word = .ok (some (.exited code)) := by
  have hcode : (⟨(News.exited code).word⟩ : ExitStatus).code? = some (code : Int) := by
    have hword : (⟨(News.exited code).word⟩ : ExitStatus) = .ofCode code := by
      simp only [News.word, ExitStatus.ofCode, ExitStatus.mk.injEq]
      omega
    rw [hword, ExitStatus.code?_ofCode]
    congr 1
    omega
  simp only [ending?, hcode]

/-- Whether an image was left does not matter, but whether the signal has a name does. -/
theorem ending?_killed_word {signal : Nat} (dumped : Bool) (hlow : 1 ≤ signal)
    (hhigh : signal ≤ 64) :
    ending? (News.killed signal dumped).word =
      if isNamed signal then .ok (some (.killed signal)) else .error .invalid := by
  have hending : (⟨(News.killed signal dumped).word⟩ : ExitStatus).ending = signal := by
    cases dumped <;> simp only [News.word, ExitStatus.ending] <;> omega
  have hcode := ExitStatus.code?_of_ending (s := ⟨(News.killed signal dumped).word⟩) (by omega)
  have hsignal := ExitStatus.signal?_of_ending hending (by omega) (by omega)
  simp only [ending?, hcode, hsignal]

theorem ending_stopped_word (cause event : Nat) :
    (⟨(News.stopped cause event).word⟩ : ExitStatus).ending = 127 := by
  simp only [News.word, ExitStatus.ending]
  omega

theorem stop?_stopped_word {cause : Nat} (event : Nat) (h : cause < 256) :
    stop? (News.stopped cause event).word = some (cause : Int) := by
  have hlow : (News.stopped cause event).word % 256 = 127 := by
    simp only [News.word]
    omega
  have hbyte : (News.stopped cause event).word / 256 % 256 = cause := by
    simp only [News.word]
    omega
  rw [stop?, if_pos hlow, hbyte]

theorem ending?_stopped_word {cause : Nat} (event : Nat)
    (h : isNamed cause = true ∨ (cause : Int) = callStop) :
    ending? (News.stopped cause event).word = .ok none := by
  have hending := ending_stopped_word cause event
  have hcode := ExitStatus.code?_of_ending (hending.trans_ne (by decide))
  have hcause : cause < 256 := by
    rw [isNamed_iff, callStop] at h
    omega
  have htold : (isNamed cause || decide ((cause : Int) = callStop)) = true := by
    rwa [Bool.or_eq_true, decide_eq_true_eq]
  rw [ending?, hcode, ExitStatus.signal?_of_ending_full hending, stop?_stopped_word event hcause]
  exact if_pos htold

/-- A reply that does not tell of the end of a child: the call was interrupted, or the child has
stopped or goes on. -/
def Passing (reply : WaitReply) : Prop :=
  reply = .error .interrupted ∨
    ∃ news : News, news.code? = none ∧ news.Possible ∧ reply = .ok news.word

theorem Passing.retried {reply : WaitReply} (h : Passing reply) : Retried reply := by
  rcases h with hinterrupted | ⟨news, hcode, hpossible, hreply⟩
  · exact .inl hinterrupted
  · refine .inr ⟨news.word, hreply, ?_⟩
    cases news with
    | exited code => cases hcode
    | killed signal dumped => cases hcode
    | stopped cause event => exact ending?_stopped_word event hpossible
    | resumed => rfl

/-- Replies of which the first that tells of an end tells so of it. -/
def Brings (replies : List WaitReply) (news : News) : Prop :=
  ∃ before later, (∀ reply ∈ before, Passing reply) ∧ replies = before ++ .ok news.word :: later

theorem Brings.settle_eq {replies : List WaitReply} {news : News} (h : Brings replies news) :
    ∃ later, settle replies = settle (.ok news.word :: later) := by
  obtain ⟨before, later, hbefore, rfl⟩ := h
  exact ⟨later, settle_append_of_retried (fun reply hreply => (hbefore reply hreply).retried) _⟩

theorem exit_of_brings_exited {replies : List WaitReply} {code : Nat} (hcode : code < 256)
    (h : Brings replies (.exited code)) : exit replies = .ofCode code := by
  obtain ⟨later, hsettle⟩ := h.settle_eq
  rw [exit, hsettle, settle, ending?_exited_word hcode]
  rfl

theorem exit_of_brings_killed {replies : List WaitReply} {signal : Nat} {dumped : Bool}
    (hlow : 1 ≤ signal) (hhigh : signal ≤ 64) (h : Brings replies (.killed signal dumped)) :
    exit replies = if isNamed signal then .ofCode (128 + signal) else .failure := by
  obtain ⟨later, hsettle⟩ := h.settle_eq
  rw [exit, hsettle, settle, ending?_killed_word dumped hlow hhigh]
  cases isNamed signal <;> rfl

/-- The code that is recorded is the one that stands for the end, unless a signal without a name has
brought it about. -/
theorem code?_exit_eq_iff {replies : List WaitReply} {news : News} (hpossible : news.Possible)
    (hended : news.code?.isSome) (h : Brings replies news) :
    (exit replies).code? = news.code? ↔ ∀ signal dumped, news = .killed signal dumped → signal ≤ 31 := by
  cases news with
  | exited code =>
      have hcode : code < 256 := hpossible
      rw [exit_of_brings_exited hcode h, ExitStatus.code?_ofCode]
      simp only [News.code?, Option.some.injEq, reduceCtorEq, false_implies, implies_true, iff_true]
      omega
  | killed signal dumped =>
      obtain ⟨hlow, hhigh⟩ : 1 ≤ signal ∧ signal ≤ 64 := hpossible
      have hnamed : isNamed signal = true ↔ signal ≤ 31 :=
        (isNamed_iff signal).trans (and_iff_right hlow)
      rw [exit_of_brings_killed hlow hhigh h]
      by_cases hsignal : signal ≤ 31
      · rw [if_pos (hnamed.mpr hsignal), ExitStatus.code?_ofCode]
        simp only [News.code?, Option.some.injEq]
        constructor
        · rintro - _ _ ⟨rfl, rfl⟩
          exact hsignal
        · intro _
          omega
      · -- The wait has failed, and the code for that is 1, less than that of any signal.
        rw [if_neg (mt hnamed.mp hsignal), ExitStatus.failure, ExitStatus.code?_ofCode]
        simp only [News.code?, Option.some.injEq]
        constructor
        · intro heq
          omega
        · intro hall
          exact absurd (hall signal dumped rfl) hsignal
  | stopped cause event => cases hended
  | resumed => cases hended

end Wait

namespace Job

open Wait (News)

variable {κ : Type} [Kernel κ]

/-- The statuses of the tasks that have processes, by the replies to waiting for these. -/
theorem statuses_reap (tasks : List Task) (s : κ) :
    ((reap tasks s).1.filter (·.pid.isSome)).map Task.status =
      (waitAll (tasks.filterMap Task.pid) s).1.map fun replies => some (Wait.exit replies) := by
  rw [reap_eq]
  exact statuses_settleAll (length_waitAll _ s)

/-- Waiting for each process tells in the end how it ended. The codes that are recorded for the tasks are
those that stand for these ends if and only if no signal without a name has ended a process. -/
theorem codes_reap_iff (tasks : List Task) (s : κ) (ends : List News)
    (hends : ∀ news ∈ ends, news.Possible ∧ news.code?.isSome)
    (hreplies : List.Forall₂ Wait.Brings (waitAll (tasks.filterMap Task.pid) s).1 ends) :
    ((reap tasks s).1.filter (·.pid.isSome)).map (·.status.bind ExitStatus.code?) =
        ends.map News.code? ↔
      ∀ signal dumped, .killed signal dumped ∈ ends → signal ≤ 31 := by
  have hstatuses : ((reap tasks s).1.filter (·.pid.isSome)).map (·.status.bind ExitStatus.code?) =
      (waitAll (tasks.filterMap Task.pid) s).1.map fun replies => (Wait.exit replies).code? := by
    have h := congrArg (List.map fun status => status.bind ExitStatus.code?) (statuses_reap tasks s)
    simpa only [List.map_map, Function.comp_def, Option.bind_some] using h
  rw [hstatuses]
  generalize (waitAll (tasks.filterMap Task.pid) s).1 = replies at hreplies
  induction hreplies with
  | nil => simp
  | cons hbrings _ ih =>
      obtain ⟨⟨hpossible, hended⟩, hlater⟩ := List.forall_mem_cons.mp hends
      have hsplit := and_congr (Wait.code?_exit_eq_iff hpossible hended hbrings) (ih hlater)
      rw [List.map_cons, List.map_cons, List.cons.injEq, hsplit]
      simp only [List.mem_cons]
      constructor
      · rintro ⟨hfirst, hrest⟩ signal dumped (hnews | hmem)
        · exact hfirst signal dumped hnews.symm
        · exact hrest signal dumped hmem
      · intro hall
        exact ⟨fun signal dumped hnews => hall signal dumped (.inl hnews.symm),
          fun signal dumped hmem => hall signal dumped (.inr hmem)⟩

/-- The first child is stopped and goes on before it leaves; the third one dies and leaves an image. -/
theorem codes_reap_iff_rehearsed :
    let tasks : List Task := [{ argv := ["worker"], pid := some 2 }, { argv := ["cd"] },
      { argv := ["worker"], pid := some 3 }]
    let r : Rehearsal := { endings := [[.error .interrupted, .ok 4991, .error .interrupted, .ok 65535,
      .ok 768], [.ok 139]] }
    ((reap tasks r).1.filter (·.pid.isSome)).map (·.status.bind ExitStatus.code?) =
      [some 3, some 139] := by
  intro tasks r
  have hends : ∀ news ∈ [News.exited 3, .killed 11 true], news.Possible ∧ news.code?.isSome := by
    simp [News.Possible, News.code?]
  have hinterrupted : Wait.Passing (.error .interrupted) := .inl rfl
  have hstopped : Wait.Passing (.ok 4991) := .inr ⟨.stopped 19 0, rfl, .inl (by decide), rfl⟩
  have hresumed : Wait.Passing (.ok 65535) := .inr ⟨.resumed, rfl, trivial, rfl⟩
  have hfirst : Wait.Brings [.error .interrupted, .ok 4991, .error .interrupted, .ok 65535, .ok 768]
      (.exited 3) :=
    ⟨[.error .interrupted, .ok 4991, .error .interrupted, .ok 65535], [], by simp [*], rfl⟩
  have hsecond : Wait.Brings [.ok 139] (.killed 11 true) := ⟨[], [], by simp, rfl⟩
  exact (codes_reap_iff tasks r [.exited 3, .killed 11 true] hends
    (.cons hfirst (.cons hsecond .nil))).mpr (by simp)

/-- A signal without a name has ended the child. The code for that is 162, but the status of the task,
and of the job, is that of a failure. -/
theorem code_of_unnamed_signal :
    let c : Console Rehearsal := { kernel := { endings := [[.ok 34]] } }
    Wait.Brings [.ok 34] (.killed 34 false) ∧ (News.killed 34 false).code? = some 162 ∧
      (execute Registry.standard (.ofArgvs [["worker"]]) c).1.1 = .ok (.proceed .failure) ∧
      (execute Registry.standard (.ofArgvs [["worker"]]) c).1.2.tasks.map
        (·.status.bind ExitStatus.code?) = [some 1] := by
  intro c
  obtain ⟨_, _, _, hstandard⟩ := Registry.exists_standard (σ := Console Rehearsal)
  rw [hstandard]
  exact ⟨⟨[], [], by simp, rfl⟩, rfl, by cbv, by cbv⟩

end Job

end LineShell
