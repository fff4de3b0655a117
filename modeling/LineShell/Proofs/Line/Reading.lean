import LineShell.Proofs.Line.Rendered

/-!
Reading a line word by word. A separator closes the task that is open, or the job with it; any other
word goes into the task that is open. After each word the jobs, with those that are still open, keep
all words that were read, so this comes to the jobs that are cut out of the words as a whole.
-/

namespace LineShell

namespace Line

/-! ### Words cut into argument vectors -/

theorem exists_jobArgvs (words : List String) :
    ∃ argv argvs rest, jobArgvs words = (argv :: argvs) :: rest := by
  obtain ⟨piece, pieces', hpieces⟩ := List.exists_cons_of_ne_nil
    (pieces_ne_nil words : pieces (· = jobSeparator) words ≠ [])
  obtain ⟨argv, argvs, hargvs⟩ := List.exists_cons_of_ne_nil
    (pieces_ne_nil piece : pieces (· = taskSeparator) piece ≠ [])
  exact ⟨argv, argvs, pieces'.map taskArgvs, by simp [jobArgvs, hpieces, taskArgvs, hargvs]⟩

theorem jobArgvs_cons_jobSeparator (words : List String) :
    jobArgvs (jobSeparator :: words) = [[]] :: jobArgvs words :=
  jobArgvs_append_separator [] words

theorem jobArgvs_cons_of_ne {word : String} {words : List String} {job : List (List String)}
    {rest : List (List (List String))} (hword : word ≠ jobSeparator)
    (h : jobArgvs words = job :: rest) :
    jobArgvs (word :: words) =
      (if word = taskSeparator then [] :: job else consPiece word job) :: rest := by
  obtain ⟨piece, pieces', hpieces⟩ := List.exists_cons_of_ne_nil
    (pieces_ne_nil words : pieces (· = jobSeparator) words ≠ [])
  simp only [jobArgvs, hpieces, List.map_cons, List.cons.injEq] at h
  obtain ⟨rfl, rfl⟩ := h
  simp [jobArgvs, pieces_cons, hword, hpieces, consPiece, taskArgvs]

/-! ### The reader -/

/-- The word is a separator of jobs or of tasks. -/
def isSeparator (word : String) : Bool := word = jobSeparator || word = taskSeparator

theorem ne_of_not_isSeparator {word : String} (h : isSeparator word = false) :
    word ≠ jobSeparator ∧ word ≠ taskSeparator := by
  simpa [isSeparator] using h

theorem separator_cases (word : String) :
    word = jobSeparator ∨ word = taskSeparator ∨ isSeparator word = false := by
  by_cases hjob : word = jobSeparator
  · exact .inl hjob
  · by_cases htask : word = taskSeparator
    · exact .inr (.inl htask)
    · exact .inr (.inr (by simp [isSeparator, hjob, htask]))

/-- The jobs keep the words: nothing is lost, added or merged. -/
structure Keeps (jobs : List Job) (words : List String) : Prop where
  spell : spell jobs = words
  length : jobs.length = words.count jobSeparator + 1
  tasks : (jobs.flatMap Job.tasks).length = words.countP isSeparator + 1
  arguments : jobs.flatMap (·.argvs.flatten) = words.filter (!isSeparator ·)

/-- What has been read of a line: jobs that are closed, and a job and a task that are open. -/
structure Reading where
  jobs : List Job := []
  job : Job := {}
  task : Task := {}

namespace Reading

def take (r : Reading) (word : String) : Reading :=
  if word = jobSeparator then { jobs := r.jobs ++ [r.job.push r.task] }
  else if word = taskSeparator then { r with job := r.job.push r.task, task := {} }
  else { r with task := r.task.push word }

/-- The jobs, if the line ends here. -/
def close (r : Reading) : List Job := r.jobs ++ [r.job.push r.task]

variable {r : Reading} {word : String}

theorem take_jobSeparator (r : Reading) :
    r.take jobSeparator = { jobs := r.jobs ++ [r.job.push r.task] } := rfl

theorem take_taskSeparator (r : Reading) :
    r.take taskSeparator = { r with job := r.job.push r.task, task := {} } := rfl

theorem take_of_not_isSeparator (h : isSeparator word = false) :
    r.take word = { r with task := r.task.push word } := by
  obtain ⟨hjob, htask⟩ := ne_of_not_isSeparator h
  rw [take, if_neg hjob, if_neg htask]

/-! ### Each word -/

theorem argvs_push (job : Job) (task : Task) : (job.push task).argvs = job.argvs ++ [task.argv] := by
  simp [Job.argvs, Job.push]

/-- A word of its own for the new task, which has no words yet. -/
theorem spellJob_push_empty (job : Job) (task : Task) :
    spellJob ((job.push task).push {}) = spellJob (job.push task) ++ [taskSeparator] := by
  have hne : (job.push task).argvs ≠ [] := by simp [argvs_push]
  simp [spellJob, argvs_push (job.push task), intercalate_append hne]

theorem spellJob_push_push (job : Job) (task : Task) (word : String) :
    spellJob (job.push (task.push word)) = spellJob (job.push task) ++ [word] := by
  simp only [spellJob, argvs_push, Task.push]
  rw [intercalate_append_cons, List.intercalate_singleton]

theorem spell_append_empty {jobs : List Job} (h : jobs ≠ []) :
    spell (jobs ++ [Job.push {} {}]) = spell jobs ++ [jobSeparator] := by
  have hne : jobs.map spellJob ≠ [] := by simpa using h
  have hempty : spellJob (Job.push {} {}) = [] := rfl
  simp [spell, intercalate_append hne, hempty]

theorem spell_append_of_last {job job' : Job} {words : List String}
    (h : spellJob job' = spellJob job ++ words) (jobs : List Job) :
    spell (jobs ++ [job']) = spell (jobs ++ [job]) ++ words := by
  simp only [spell, List.map_append, List.map_cons, List.map_nil, h]
  rw [intercalate_append_cons, List.intercalate_singleton]

theorem spell_take (r : Reading) (word : String) :
    spell (r.take word).close = spell r.close ++ [word] := by
  have hne : r.close ≠ [] := by simp [close]
  rcases separator_cases word with rfl | rfl | hargument
  · exact spell_append_empty hne
  · exact spell_append_of_last (spellJob_push_empty ..) _
  · rw [take_of_not_isSeparator hargument]
    exact spell_append_of_last (spellJob_push_push ..) _

theorem length_take (r : Reading) (word : String) :
    (r.take word).close.length = r.close.length + [word].count jobSeparator := by
  rcases separator_cases word with rfl | rfl | hargument
  · simp [take_jobSeparator, close]
  · have hcount : [taskSeparator].count jobSeparator = 0 := by decide
    simp [take_taskSeparator, close, hcount]
  · simp [take_of_not_isSeparator hargument, close, (ne_of_not_isSeparator hargument).1]

theorem tasks_take (r : Reading) (word : String) :
    ((r.take word).close.flatMap Job.tasks).length =
      (r.close.flatMap Job.tasks).length + [word].countP isSeparator := by
  rcases separator_cases word with rfl | rfl | hargument
  · have hcount : [jobSeparator].countP isSeparator = 1 := by decide
    simp [take_jobSeparator, close, Job.push, hcount, Nat.add_assoc]
  · have hcount : [taskSeparator].countP isSeparator = 1 := by decide
    simp [take_taskSeparator, close, Job.push, hcount, Nat.add_assoc]
  · simp [take_of_not_isSeparator hargument, close, Job.push, hargument]

theorem arguments_take (r : Reading) (word : String) :
    (r.take word).close.flatMap (·.argvs.flatten) =
      r.close.flatMap (·.argvs.flatten) ++ [word].filter (!isSeparator ·) := by
  rcases separator_cases word with rfl | rfl | hargument
  · have hfilter : [jobSeparator].filter (!isSeparator ·) = [] := by decide
    have hempty : ({} : Job).argvs = [] := rfl
    simp [take_jobSeparator, close, argvs_push, hfilter, hempty]
  · have hfilter : [taskSeparator].filter (!isSeparator ·) = [] := by decide
    simp [take_taskSeparator, close, argvs_push, hfilter]
  · simp [take_of_not_isSeparator hargument, close, argvs_push, Task.push, hargument]

theorem keeps_take {words : List String} (h : Keeps r.close words) (word : String) :
    Keeps (r.take word).close (words ++ [word]) where
  spell := by rw [spell_take, h.spell]
  length := by rw [length_take, h.length, List.count_append]; omega
  tasks := by rw [tasks_take, h.tasks, List.countP_append]; omega
  arguments := by rw [arguments_take, h.arguments, List.filter_append]

/-! ### All words -/

theorem keeps_foldl {words : List String} (h : Keeps r.close words) (more : List String) :
    Keeps (more.foldl take r).close (words ++ more) := by
  induction more generalizing r words with
  | nil => simpa using h
  | cons word rest ih => simpa using ih (keeps_take h word)

theorem keeps_start : Keeps ({} : Reading).close [] :=
  ⟨rfl, rfl, rfl, rfl⟩

/-- The jobs when the words that follow are read as these argument vectors: the first of them belong
to the task and the job that are open. -/
def resume (r : Reading) : List (List (List String)) → List Job
  | (argv :: argvs) :: rest =>
      let task := { r.task with argv := r.task.argv ++ argv }
      r.jobs ++ { r.job with tasks := r.job.tasks ++ task :: argvs.map .ofArgv } ::
        rest.map .ofArgvs
  | _ => r.close

theorem close_foldl (words : List String) (r : Reading) :
    (words.foldl take r).close = r.resume (jobArgvs words) := by
  induction words generalizing r with
  | nil => simp [jobArgvs, taskArgvs, resume, close, Job.push]
  | cons word rest ih =>
      obtain ⟨argv, argvs, later, hrest⟩ := exists_jobArgvs rest
      rw [List.foldl_cons, ih, hrest]
      rcases separator_cases word with rfl | rfl | hargument
      · rw [jobArgvs_cons_jobSeparator, hrest, take_jobSeparator]
        simp [resume, Job.push, Job.ofArgvs, Task.ofArgv]
      · rw [jobArgvs_cons_of_ne (by decide) hrest, take_taskSeparator]
        simp [resume, Job.push, Task.ofArgv]
      · obtain ⟨hjob, htask⟩ := ne_of_not_isSeparator hargument
        rw [jobArgvs_cons_of_ne hjob hrest, if_neg htask, take_of_not_isSeparator hargument]
        simp [resume, Task.push, consPiece]

end Reading

/-- Reading a line word by word, with a separator closing what is open, gives the jobs that are cut
out of its words. -/
theorem tokenize_eq_close (text : String) :
    tokenize text = ((words text.toList).foldl Reading.take {}).close := by
  obtain ⟨argv, argvs, rest, hwords⟩ := exists_jobArgvs (words text.toList)
  rw [Reading.close_foldl, tokenize, hwords]
  simp [Reading.resume, Job.ofArgvs, Task.ofArgv]

theorem keeps_tokenize (text : String) : Keeps (tokenize text) (words text.toList) := by
  rw [tokenize_eq_close]
  exact Reading.keeps_foldl Reading.keeps_start _

/-! ### A word in the middle of a line -/

variable {d e word : String}

/-- The reader comes to the second text with what is open of the first one and with the word. -/
theorem tokenize_between (hd : IsGap d) (hword : IsWord word) (he : IsGap e) (a b : String) :
    tokenize (a ++ d ++ word ++ e ++ b) =
      (((words a.toList).foldl Reading.take {}).take word).resume (jobArgvs (words b.toList)) := by
  have hwords : words (a ++ d ++ word ++ e ++ b).toList =
      words a.toList ++ [word] ++ words b.toList := by
    simp only [String.toList_append, words_append_between hd hword he]
  rw [tokenize_eq_close, hwords, List.foldl_append, List.foldl_append, Reading.close_foldl]
  rfl

theorem lastStatus_of_mem_tokenize {text : String} {job : Job} (h : job ∈ tokenize text) :
    job.lastStatus = none := by
  obtain ⟨argvs, -, rfl⟩ := List.mem_map.mp h
  rfl

/-- A separator of jobs between two texts puts the jobs of the second one after those of the first.
A separator of tasks does so too, but for the last job of the first text and the first job of the
second, which become one. -/
theorem tokenize_separated (hd : IsGap d) (he : IsGap e) (a b : String) :
    tokenize (a ++ d ++ ";" ++ e ++ b) = tokenize a ++ tokenize b ∧
      ∃ before last first after, tokenize a = before ++ [last] ∧ tokenize b = first :: after ∧
        tokenize (a ++ d ++ "|" ++ e ++ b) =
          before ++ [{ tasks := last.tasks ++ first.tasks }] ++ after := by
  obtain ⟨argv, argvs, rest, hb⟩ := exists_jobArgvs (words b.toList)
  have hsecond : tokenize b = .ofArgvs (argv :: argvs) :: rest.map .ofArgvs := by
    rw [tokenize, hb, List.map_cons]
  have hfirst := tokenize_eq_close a
  have hjob := tokenize_between hd (by decide : IsWord jobSeparator) he a b
  have htask := tokenize_between hd (by decide : IsWord taskSeparator) he a b
  generalize (words a.toList).foldl Reading.take {} = r at hfirst hjob htask
  rw [Reading.close] at hfirst
  have hlast : r.job.push r.task ∈ tokenize a := by simp [hfirst]
  have hnone : r.job.lastStatus = none := by
    simpa [Job.push] using lastStatus_of_mem_tokenize hlast
  rw [hb] at hjob htask
  refine ⟨hjob.trans ?_, _, _, _, _, hfirst, hsecond, htask.trans ?_⟩
  · rw [Reading.take_jobSeparator, hfirst, hsecond]
    simp [Reading.resume, Job.ofArgvs, Task.ofArgv]
  · rw [Reading.take_taskSeparator]
    simp [Reading.resume, Job.ofArgvs, Task.ofArgv, hnone, Job.push]

/-- The first text ends with a separator, and the second one begins with a separator that is not the
same, so the task between them has no arguments. -/
theorem tokenize_separated_empty :
    tokenize ("a ;" ++ "\t" ++ ";" ++ "\r\n" ++ "| b ; c") =
        [.ofArgvs [["a"]], .ofArgvs [[]], .ofArgvs [[], ["b"]], .ofArgvs [["c"]]] ∧
      tokenize ("a ;" ++ "\t" ++ "|" ++ "\r\n" ++ "| b ; c") =
        [.ofArgvs [["a"]], .ofArgvs [[], [], ["b"]], .ofArgvs [["c"]]] := by
  obtain ⟨hjobs, before, last, first, after, ha, hb, htasks⟩ :=
    tokenize_separated (by decide : IsGap "\t") (by decide : IsGap "\r\n") "a ;" "| b ; c"
  have hfirst : tokenize "a ;" = [.ofArgvs [["a"]]] ++ [.ofArgvs [[]]] := by decide
  have hsecond : tokenize "| b ; c" = .ofArgvs [[], ["b"]] :: [.ofArgvs [["c"]]] := by decide
  obtain ⟨rfl, hlast⟩ := List.append_inj' (ha.symm.trans hfirst) rfl
  obtain ⟨rfl, rfl⟩ := List.cons.inj (hb.symm.trans hsecond)
  obtain rfl := List.singleton_inj.mp hlast
  exact ⟨hjobs.trans (by rw [hfirst, hsecond]; rfl), htasks⟩

end Line

end LineShell
