import LineShell.Proofs.Line.Joined
import Mathlib.Data.List.Basic

/-!
Lines that are written from jobs. A line written from jobs whose arguments are words, and no
separators, is read as the same jobs; and any line at all is read as jobs of this kind, so to write
them and to read them again changes nothing.
-/

namespace LineShell

section Pieces

variable {α : Type} {cut : α → Bool}

theorem pieces_eq_splitOnP (l : List α) : pieces cut l = l.splitOnP cut := by
  induction l with
  | nil => rfl
  | cons a l ih =>
      rw [pieces_cons, List.splitOnP_cons_eq_if_modifyHead, ih]
      split
      · rfl
      · cases h : l.splitOnP cut with
        | nil => exact absurd h (List.splitOnP_ne_nil cut l)
        | cons piece pieces => rfl

theorem pieces_intercalate [DecidableEq α] {sep : α} {ls : List (List α)} (hne : ls ≠ [])
    (hsep : ∀ l ∈ ls, sep ∉ l) : pieces (· = sep) ([sep].intercalate ls) = ls := by
  have hcut : (fun a => decide (a = sep)) = (· == sep) := by
    funext a
    rw [beq_eq_decide]
  rw [pieces_eq_splitOnP, hcut]
  exact List.splitOn_intercalate sep hsep hne

theorem nil_intercalate (ls : List (List α)) : [].intercalate ls = ls.flatten := by
  induction ls with
  | nil => rfl
  | cons l rest ih =>
      cases rest with
      | nil => simp
      | cons next rest => simp [List.intercalate_cons_cons, ih]

theorem intercalate_append {sep : List α} {ls ms : List (List α)} (hls : ls ≠ []) (hms : ms ≠ []) :
    sep.intercalate (ls ++ ms) = sep.intercalate ls ++ sep ++ sep.intercalate ms := by
  induction ls with
  | nil => exact absurd rfl hls
  | cons l rest ih =>
      cases rest with
      | nil => simp [List.intercalate_cons_of_ne_nil hms]
      | cons next rest =>
          have hrest := ih (List.cons_ne_nil next rest)
          rw [List.cons_append] at hrest
          simp [List.intercalate_cons_cons, hrest]

/-- A cut within one of the lists. -/
theorem intercalate_append_cons (sep : List α) (ls : List (List α)) (l m : List α)
    (ms : List (List α)) :
    sep.intercalate (ls ++ (l ++ m) :: ms) =
      sep.intercalate (ls ++ [l]) ++ sep.intercalate (m :: ms) := by
  induction ls with
  | nil => cases ms <;> simp [List.intercalate_cons_cons]
  | cons first rest ih =>
      have hne (a : List α) (as : List (List α)) : rest ++ a :: as ≠ [] := by simp
      rw [List.cons_append, List.cons_append, List.intercalate_cons_of_ne_nil (hne _ _),
        List.intercalate_cons_of_ne_nil (hne _ _), ih, ← List.append_assoc]

theorem eq_or_mem_of_mem_intercalate {sep a : α} {ls : List (List α)}
    (h : a ∈ [sep].intercalate ls) : a = sep ∨ ∃ l ∈ ls, a ∈ l := by
  induction ls with
  | nil => cases h
  | cons l rest ih =>
      cases rest with
      | nil => exact .inr ⟨l, List.mem_cons_self, by simpa using h⟩
      | cons next rest =>
          rw [List.intercalate_cons_cons, List.mem_append, List.mem_append, List.mem_singleton] at h
          rcases h with (h | h) | h
          · exact .inr ⟨l, List.mem_cons_self, h⟩
          · exact .inl h
          · exact (ih h).imp_right fun ⟨l, hl, ha⟩ => ⟨l, List.mem_cons_of_mem _ hl, ha⟩

/-- What is in a piece was in the list, and is no place of a cut. -/
theorem mem_of_mem_pieces {l piece : List α} (h : piece ∈ pieces cut l) {a : α} (ha : a ∈ piece) :
    a ∈ l ∧ cut a = false := by
  induction l generalizing piece with
  | nil =>
      obtain rfl : piece = [] := List.mem_singleton.mp h
      cases ha
  | cons b l ih =>
      rw [pieces_cons] at h
      split at h
      · rcases List.mem_cons.mp h with rfl | h
        · cases ha
        · exact (ih h ha).imp_left (List.mem_cons_of_mem _)
      · rename_i hb
        have hne : pieces cut l ≠ [] := pieces_ne_nil l
        obtain ⟨first, rest, hpieces⟩ := List.exists_cons_of_ne_nil hne
        rw [hpieces] at h ih
        rcases List.mem_cons.mp h with rfl | h
        · rcases List.mem_cons.mp ha with rfl | ha
          · exact ⟨List.mem_cons_self, by simpa using hb⟩
          · exact (ih List.mem_cons_self ha).imp_left (List.mem_cons_of_mem _)
        · exact (ih (List.mem_cons_of_mem _ h) ha).imp_left (List.mem_cons_of_mem _)

end Pieces

namespace Line

/-! ### Words -/

/-- The text is one word. -/
def IsWord (text : String) : Prop := text ≠ "" ∧ ∀ c ∈ text.toList, isDelimiter c = false

/-- A word that is no separator. -/
def IsArgument (text : String) : Prop :=
  IsWord text ∧ text ≠ jobSeparator ∧ text ≠ taskSeparator

-- Only the characters of the text are looked at, not all that there are.
instance : DecidablePred IsWord := fun _ =>
  @instDecidableAnd _ _ inferInstance (List.decidableBAll _ _)

instance : DecidablePred IsArgument := fun _ => inferInstanceAs (Decidable (_ ∧ _))

theorem words_of_isWord {text : String} (h : IsWord text) : words text.toList = [text] := by
  have hne : text.toList ≠ [] := fun heq => h.1 (String.toList_eq_nil_iff.mp heq)
  rw [words, pieces_eq_splitOnP, List.splitOnP_eq_singleton h.2]
  simp [hne, String.ofList_toList]

theorem isWord_of_mem_words {text : List Char} {word : String} (h : word ∈ words text) :
    IsWord word := by
  simp only [words, List.mem_map, List.mem_filter] at h
  obtain ⟨piece, ⟨hpiece, hne⟩, rfl⟩ := h
  refine ⟨?_, fun c hc => ?_⟩
  · simpa using hne
  · rw [String.toList_ofList] at hc
    exact (mem_of_mem_pieces hpiece hc).2

/-- Texts put together by a text that always adds the same words between those on either side. -/
theorem words_intercalate {joint : String} {between : List String}
    (h : ∀ l r, words (l ++ joint.toList ++ r) = words l ++ between ++ words r)
    (texts : List String) :
    words (joint.intercalate texts).toList =
      between.intercalate (texts.map fun text => words text.toList) := by
  induction texts with
  | nil => rfl
  | cons text rest ih =>
      cases rest with
      | nil => simp
      | cons next rest =>
          rw [String.intercalate_cons_cons, String.toList_append, String.toList_append, h, ih]
          simp only [List.map_cons, List.intercalate_cons_cons]

/-- The characters that keep words apart. -/
def delimiters : List Char := [' ', '\t', '\n', '\r']

/-- The text is of such characters, and there are some. -/
def IsGap (text : String) : Prop := text ≠ "" ∧ ∀ c ∈ text.toList, c ∈ delimiters

instance : DecidablePred IsGap := fun _ =>
  @instDecidableAnd _ _ inferInstance (List.decidableBAll _ _)

theorem isDelimiter_iff (c : Char) : isDelimiter c = true ↔ c ∈ delimiters := by
  simp [isDelimiter, delimiters, or_assoc]

theorem words_append_of_delimiters {gap : List Char} (h : ∀ c ∈ gap, c ∈ delimiters)
    (r : List Char) : words (gap ++ r) = words r := by
  induction gap with
  | nil => rfl
  | cons d gap ih =>
      have hd : isDelimiter d = true := (isDelimiter_iff d).mpr (h d List.mem_cons_self)
      calc words (d :: (gap ++ r)) = words [] ++ words (gap ++ r) := words_append_cons hd [] _
        _ = words r := ih fun c hc => h c (List.mem_cons_of_mem d hc)

theorem words_append_gap {gap : String} (h : IsGap gap) (l r : List Char) :
    words (l ++ gap.toList ++ r) = words l ++ words r := by
  obtain ⟨hne, hgap⟩ := h
  obtain ⟨d, rest, heq⟩ := List.exists_cons_of_ne_nil (mt String.toList_eq_nil_iff.mp hne)
  rw [heq] at hgap ⊢
  have hd : isDelimiter d = true := (isDelimiter_iff d).mpr (hgap d List.mem_cons_self)
  rw [List.append_assoc, List.cons_append, words_append_cons hd,
    words_append_of_delimiters fun c hc => hgap c (List.mem_cons_of_mem d hc)]

/-- A word with a gap on either side is a word of the whole text. -/
theorem words_append_between {word before after : String} (hbefore : IsGap before)
    (hword : IsWord word) (hafter : IsGap after) (l r : List Char) :
    words (l ++ before.toList ++ word.toList ++ after.toList ++ r) = words l ++ [word] ++ words r := by
  rw [words_append_gap hafter, words_append_gap hbefore, words_of_isWord hword]

theorem words_append_spaced {word : String} (h : IsWord word) (l r : List Char) :
    words (l ++ (" " ++ word ++ " ").toList ++ r) = words l ++ [word] ++ words r := by
  have hgap : IsGap " " := by decide
  simpa only [String.toList_append, List.append_assoc] using words_append_between hgap h hgap l r

/-! ### Lines written from jobs -/

/-- The line that is written for jobs. -/
def render (jobs : List Job) : String := " ; ".intercalate (jobs.map Job.render)

/-- There are jobs, each with tasks, and every argument is read as what it is. A task may have no
arguments. -/
def WellFormed (jobs : List Job) : Prop :=
  jobs ≠ [] ∧ ∀ job ∈ jobs, job.tasks ≠ [] ∧
    ∀ task ∈ job.tasks, ∀ arg ∈ task.argv, IsArgument arg

instance : DecidablePred WellFormed := fun _ => inferInstanceAs (Decidable (_ ∧ _))

theorem words_render_task {task : Task} (h : ∀ arg ∈ task.argv, IsArgument arg) :
    words task.render.toList = task.argv := by
  have hwords : task.argv.map (fun arg => words arg.toList) = task.argv.map fun arg => [arg] :=
    List.map_congr_left fun arg harg => words_of_isWord (h arg harg).1
  have hblank (l r : List Char) : words (l ++ " ".toList ++ r) = words l ++ [] ++ words r := by
    rw [words_append_gap (by decide), List.append_nil]
  rw [Task.render, words_intercalate hblank, hwords, nil_intercalate,
    ← List.flatMap_def, List.flatMap_singleton']

/-- The words of which a job is read: the arguments in order, with separators between the tasks. -/
def spellJob (job : Job) : List String := [taskSeparator].intercalate job.argvs

theorem words_render_job {job : Job} (h : ∀ task ∈ job.tasks, ∀ arg ∈ task.argv, IsArgument arg) :
    words job.render.toList = spellJob job := by
  have hwords : job.tasks.map (fun task => words task.render.toList) = job.argvs :=
    List.map_congr_left fun task htask => words_render_task (h task htask)
  rw [Job.render, show " | " = " " ++ taskSeparator ++ " " from rfl,
    words_intercalate (words_append_spaced (by decide)), List.map_map]
  exact congrArg _ hwords

def spell (jobs : List Job) : List String := [jobSeparator].intercalate (jobs.map spellJob)

theorem words_render {jobs : List Job}
    (h : ∀ job ∈ jobs, ∀ task ∈ job.tasks, ∀ arg ∈ task.argv, IsArgument arg) :
    words (render jobs).toList = spell jobs := by
  have hwords : jobs.map (fun job => words job.render.toList) = jobs.map spellJob :=
    List.map_congr_left fun job hjob => words_render_job (h job hjob)
  rw [render, show " ; " = " " ++ jobSeparator ++ " " from rfl,
    words_intercalate (words_append_spaced (by decide)), List.map_map]
  exact congrArg _ hwords

theorem jobSeparator_notMem_spellJob {job : Job}
    (h : ∀ task ∈ job.tasks, ∀ arg ∈ task.argv, IsArgument arg) :
    jobSeparator ∉ spellJob job := by
  intro hmem
  rcases eq_or_mem_of_mem_intercalate hmem with heq | ⟨argv, hargv, hmem⟩
  · exact absurd heq (by decide)
  · obtain ⟨task, htask, rfl⟩ := List.mem_map.mp hargv
    exact (h task htask _ hmem).2.1 rfl

/-- Jobs can be told from the words that they are read of. -/
theorem jobArgvs_spell {jobs : List Job} (h : WellFormed jobs) :
    jobArgvs (spell jobs) = jobs.map Job.argvs := by
  obtain ⟨hne, hjobs⟩ := h
  have htasks : ∀ job ∈ jobs, taskArgvs (spellJob job) = job.argvs := by
    intro job hjob
    refine pieces_intercalate (by simpa [Job.argvs] using (hjobs job hjob).1) ?_
    intro argv hargv hmem
    obtain ⟨task, htask, rfl⟩ := List.mem_map.mp hargv
    exact ((hjobs job hjob).2 task htask _ hmem).2.2 rfl
  have hpieces : pieces (· = jobSeparator) (spell jobs) = jobs.map spellJob := by
    refine pieces_intercalate (by simpa using hne) ?_
    intro words hwords
    obtain ⟨job, hjob, rfl⟩ := List.mem_map.mp hwords
    exact jobSeparator_notMem_spellJob (hjobs job hjob).2
  rw [jobArgvs, hpieces, List.map_map]
  exact List.map_congr_left htasks

theorem tokenize_of_words {text : String} {jobs : List Job} (h : WellFormed jobs)
    (hwords : words text.toList = spell jobs) :
    tokenize text = jobs.map fun job => .ofArgvs job.argvs := by
  rw [tokenize, hwords, jobArgvs_spell h, List.map_map, Function.comp_def]

theorem tokenize_render {jobs : List Job} (h : WellFormed jobs) :
    tokenize (render jobs) = jobs.map fun job => .ofArgvs job.argvs :=
  tokenize_of_words h (words_render fun job hjob => (h.2 job hjob).2)

/-! ### Lines as they are read -/

theorem isArgument_of_mem_taskArgvs {text : List Char} {piece argv : List String} {arg : String}
    (hpiece : piece ∈ pieces (· = jobSeparator) (words text)) (hargv : argv ∈ taskArgvs piece)
    (harg : arg ∈ argv) : IsArgument arg := by
  obtain ⟨hmem, htask⟩ := mem_of_mem_pieces hargv harg
  obtain ⟨hword, hjob⟩ := mem_of_mem_pieces hpiece hmem
  exact ⟨isWord_of_mem_words hword, by simpa using hjob, by simpa using htask⟩

theorem wellFormed_tokenize (text : String) : WellFormed (tokenize text) := by
  refine ⟨by simp [tokenize, jobArgvs, pieces_ne_nil], fun job hjob => ?_⟩
  simp only [tokenize, jobArgvs, List.mem_map] at hjob
  obtain ⟨argvs, ⟨piece, hpiece, rfl⟩, rfl⟩ := hjob
  refine ⟨by simp [Job.ofArgvs, taskArgvs, pieces_ne_nil], fun task htask arg harg => ?_⟩
  obtain ⟨argv, hargv, rfl⟩ := List.mem_map.mp htask
  exact isArgument_of_mem_taskArgvs hpiece hargv harg

/-- Jobs that are read have neither processes nor statuses. -/
theorem map_ofArgvs_tokenize (text : String) :
    (tokenize text).map (fun job => Job.ofArgvs job.argvs) = tokenize text := by
  simp [tokenize, Function.comp_def]

/-- Writing jobs as a line and reading it gives the same jobs back, as far as a line can tell: their
tasks have no process and no status. And whatever the line, the jobs read from it are such that
writing and reading them again gives just the same. -/
theorem tokenize_inverse_render :
    (∀ jobs, WellFormed jobs →
      tokenize (" ; ".intercalate (jobs.map Job.render)) =
        jobs.map fun job => { tasks := job.tasks.map fun task => { argv := task.argv } }) ∧
    ∀ text, WellFormed (tokenize text) ∧
      tokenize (" ; ".intercalate ((tokenize text).map Job.render)) = tokenize text := by
  refine ⟨fun jobs h => ?_, fun text => ⟨wellFormed_tokenize text, ?_⟩⟩
  · rw [show " ; ".intercalate (jobs.map Job.render) = render jobs from rfl, tokenize_render h]
    simp [Job.ofArgvs, Job.argvs, Task.ofArgv]
  · exact (tokenize_render (wellFormed_tokenize text)).trans (map_ofArgvs_tokenize text)

/-- An empty task at either end, an empty job, separators within arguments, and tasks that have run. -/
theorem tokenize_inverse_render_ran :
    tokenize " | echo a;b x|y |  ; " =
      [.ofArgvs [[], ["echo", "a;b", "x|y"], []], .ofArgvs [[]]] := by
  let jobs : List Job :=
    [{ tasks := [{ status := some .failure }, { argv := ["echo", "a;b", "x|y"], pid := some 7 }, {}],
       lastStatus := some .success }, { tasks := [{}] }]
  have hwritten : " ; ".intercalate (jobs.map Job.render) = " | echo a;b x|y |  ; " := by decide
  have hjobs : WellFormed jobs := by decide
  rw [← hwritten, tokenize_inverse_render.1 jobs hjobs]
  rfl

end Line

end LineShell
