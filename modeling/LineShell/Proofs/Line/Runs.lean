import LineShell.Proofs.Line.Reading

/-!
What a line holds and what is read of it. The words of a line are its longest runs of characters that
are no delimiters, and the jobs keep them all, in order.
-/

namespace LineShell

namespace Line

/-- The longest runs of characters that are no delimiters, in order. -/
inductive Runs : List Char → List String → Prop
  | none {gap : List Char} (hgap : ∀ c ∈ gap, c ∈ delimiters) : Runs gap []
  | next {gap run rest : List Char} {runs : List String} (hgap : ∀ c ∈ gap, c ∈ delimiters)
      (hne : run ≠ []) (hrun : ∀ c ∈ run, c ∉ delimiters)
      -- A run ends with the text or before a delimiter, so that none is cut in two.
      (hend : ∀ c ∈ rest.head?, c ∈ delimiters) (h : Runs rest runs) :
      Runs (gap ++ run ++ rest) (String.ofList run :: runs)

namespace Runs

variable {text : List Char} {runs : List String} {c : Char}

theorem cons_delimiter (h : Runs text runs) (hc : c ∈ delimiters) : Runs (c :: text) runs := by
  have hcons {gap : List Char} (hgap : ∀ d ∈ gap, d ∈ delimiters) :
      ∀ d ∈ c :: gap, d ∈ delimiters :=
    List.forall_mem_cons.mpr ⟨hc, hgap⟩
  cases h with
  | none hgap => exact .none (hcons hgap)
  | next hgap hne hrun hend h => exact .next (hcons hgap) hne hrun hend h

/-- A character is a run of its own if a delimiter follows it, and else belongs to the run that
does. -/
theorem exists_cons (h : Runs text runs) (hc : c ∉ delimiters) :
    ∃ runs, Runs (c :: text) runs := by
  have hnil : ∀ d ∈ ([] : List Char), d ∈ delimiters := by simp
  have hsingle : ∀ d ∈ [c], d ∉ delimiters := by simpa using hc
  cases h with
  | none hgap =>
      have hend : ∀ d ∈ text.head?, d ∈ delimiters := fun d hd => hgap d (List.mem_of_mem_head? hd)
      exact ⟨_, .next hnil (List.cons_ne_nil c []) hsingle hend (.none hgap)⟩
  | @next gap run rest runs hgap hne hrun hend h =>
      cases gap with
      | nil =>
          exact ⟨_, .next hnil (List.cons_ne_nil c run) (List.forall_mem_cons.mpr ⟨hc, hrun⟩) hend h⟩
      | cons d gap =>
          have hfirst : ∀ e ∈ (d :: gap ++ run ++ rest).head?, e ∈ delimiters := by
            simpa using hgap d List.mem_cons_self
          exact ⟨_, .next hnil (List.cons_ne_nil c []) hsingle hfirst (.next hgap hne hrun hend h)⟩

theorem exists_runs (text : List Char) : ∃ runs, Runs text runs := by
  induction text with
  | nil => exact ⟨[], .none (by simp)⟩
  | cons c rest ih =>
      obtain ⟨runs, h⟩ := ih
      by_cases hc : c ∈ delimiters
      · exact ⟨runs, h.cons_delimiter hc⟩
      · exact h.exists_cons hc

theorem words_append_of_head {rest : List Char} (hend : ∀ c ∈ rest.head?, c ∈ delimiters)
    (l : List Char) : words (l ++ rest) = words l ++ words rest := by
  cases rest with
  | nil => simp [words]
  | cons d rest =>
      have hd : d ∈ delimiters := hend d rfl
      have hgap : ∀ c ∈ [d], c ∈ delimiters := by simpa using hd
      have hrest : words (d :: rest) = words rest := words_append_of_delimiters hgap rest
      rw [words_append_cons ((isDelimiter_iff d).mpr hd), hrest]

theorem words_eq (h : Runs text runs) : words text = runs := by
  induction h with
  | none hgap =>
      have hwords := words_append_of_delimiters hgap []
      rwa [List.append_nil] at hwords
  | @next gap run rest runs hgap hne hrun hend h ih =>
      have hword : IsWord (String.ofList run) := by
        refine ⟨by simpa using hne, fun c hc => ?_⟩
        rw [String.toList_ofList] at hc
        simpa using mt (isDelimiter_iff c).mp (hrun c hc)
      have hwords := words_of_isWord hword
      rw [String.toList_ofList] at hwords
      rw [List.append_assoc, words_append_of_delimiters hgap, words_append_of_head hend, hwords, ih]
      rfl

/-- The words are the only runs that a text has. -/
theorem iff_eq_words (text : List Char) (runs : List String) :
    Runs text runs ↔ runs = words text := by
  refine ⟨fun h => h.words_eq.symm, ?_⟩
  rintro rfl
  obtain ⟨runs, h⟩ := exists_runs text
  exact h.words_eq ▸ h

theorem exists_run (h : Runs text runs) (hmem : c ∈ text) (hc : c ∉ delimiters) :
    ∃ run ∈ runs, c ∈ run.toList := by
  induction h with
  | none hgap => exact absurd (hgap c hmem) hc
  | @next gap run rest runs hgap hne hrun hend h ih =>
      rw [List.mem_append, List.mem_append] at hmem
      rcases hmem with (hmem | hmem) | hmem
      · exact absurd (hgap c hmem) hc
      · exact ⟨_, List.mem_cons_self, by rwa [String.toList_ofList]⟩
      · exact (ih hmem).imp fun run h => ⟨List.mem_cons_of_mem _ h.1, h.2⟩

end Runs

/-- The jobs of a text, written with the separators between tasks and between jobs, are the longest
runs of characters other than delimiters, no more and no less. So each separator that stands alone
makes one more task, and one more job if it closes jobs; and whatever else is no delimiter stays in
an argument. -/
theorem tokenize_conserves (text : String) :
    ∃ runs : List String, (∀ runs', Runs text.toList runs' ↔ runs' = runs) ∧
      spell (tokenize text) = runs ∧
      (tokenize text).length = 1 + runs.count ";" ∧
      ((tokenize text).flatMap Job.tasks).length = 1 + runs.countP (fun run => run = ";" || run = "|") ∧
      ((tokenize text).flatMap fun job => job.tasks.flatMap Task.argv) =
        runs.filter (fun run => run ≠ ";" && run ≠ "|") ∧
      (∀ job ∈ tokenize text, ∀ task ∈ job.tasks, ∀ arg ∈ task.argv,
        arg ≠ ";" ∧ arg ≠ "|" ∧ arg ≠ "") ∧
      ∀ c ∈ text.toList, c ∉ delimiters → ∃ run ∈ runs, c ∈ run.toList ∧
        (run = ";" ∨ run = "|" ∨ ∃ job ∈ tokenize text, ∃ task ∈ job.tasks, run ∈ task.argv) := by
  obtain ⟨hspell, hlength, htasks, harguments⟩ := keeps_tokenize text
  have hseparator (run : String) : (!isSeparator run) = (run ≠ ";" && run ≠ "|") := by
    rcases separator_cases run with rfl | rfl | hargument
    · rfl
    · rfl
    · have hne : run ≠ ";" ∧ run ≠ "|" := ne_of_not_isSeparator hargument
      simp [hargument, hne]
  have hkept : ∀ run ∈ words text.toList, isSeparator run = false →
      ∃ job ∈ tokenize text, ∃ task ∈ job.tasks, run ∈ task.argv := by
    intro run hrun hargument
    have hmem : run ∈ (tokenize text).flatMap (·.argvs.flatten) := by
      rw [harguments]
      simp [hrun, hargument]
    simpa [Job.argvs] using hmem
  refine ⟨words text.toList, Runs.iff_eq_words _, hspell, ?_, ?_, ?_, ?_, ?_⟩
  · rw [hlength, Nat.add_comm]
    rfl
  · rw [htasks, Nat.add_comm]
    rfl
  · simpa only [hseparator, Job.argvs, ← List.flatMap_def] using harguments
  · intro job hjob task htask arg harg
    obtain ⟨⟨hne, -⟩, hjobSeparator, htaskSeparator⟩ :=
      ((wellFormed_tokenize text).2 job hjob).2 task htask arg harg
    exact ⟨hjobSeparator, htaskSeparator, hne⟩
  · intro c hc hdelimiter
    have hruns : Runs text.toList (words text.toList) := (Runs.iff_eq_words _ _).mpr rfl
    obtain ⟨run, hrun, hmem⟩ := hruns.exists_run hc hdelimiter
    refine ⟨run, hrun, hmem, ?_⟩
    rcases separator_cases run with rfl | rfl | hargument
    · exact .inl rfl
    · exact .inr (.inl rfl)
    · exact .inr (.inr (hkept run hrun hargument))

/-- White space of other kinds, a character of no width and separators that do not stand alone. -/
example : (tokenize "a\u00a0b;c |\t\x00;|;").map Job.argvs =
    [[["a\u00a0b;c"], ["\x00;|;"]]] := by decide

end Line

end LineShell
