import LineShell.CommandLine
import LineShell.Proofs.Rehearsal
import LineShell.Proofs.State
import Mathlib

/-!
What the shell does when it is started with a command or with the name of a file. It does the work in
a new shell and leaves with the status that comes of it. Only the flag that announces a command, given
without one, has the shell look for work that there is not.
-/

namespace LineShell.CommandLine

variable {κ : Type} [Kernel κ]

/-! ### Reading the arguments -/

namespace Arguments

/-- The arguments name one text and do not ask for a text to be shown. -/
structure Asks (a : Arguments) (text : String) : Prop where
  nodup : (a.flags.map (·.1)).Nodup
  positionals : a.positionals = [text]
  help : a.isSet .help = false
  version : a.isSet .version = false

/-- The work that such arguments ask for. -/
def asked (a : Arguments) (text : String) : Request :=
  if a.isSet .command then .line text else .file text

theorem Asks.ofArguments {a : Arguments} {text : String} (h : a.Asks text) :
    Request.ofArguments a = .ok (a.asked text) := by
  simp only [Request.ofArguments, h.nodup, h.positionals, h.help, h.version, asked]
  cases a.isSet .command <;> rfl

theorem shortLetters?_of_head? {text : String} (h : text.toList.head? ≠ some '-') :
    shortLetters? text = none := by
  rw [shortLetters?]
  split
  · rename_i heq
    simp [heq] at h
  · rfl

theorem longFlag?_of_head? {text : String} (h : text.toList.head? ≠ some '-') :
    longFlag? text = none := by
  have hdashes : text.startsWith "--" = false := by
    rw [Bool.eq_false_iff, Ne, String.startsWith_string_iff]
    rintro ⟨rest, hrest⟩
    rw [← hrest] at h
    exact h rfl
  simp [longFlag?, isLongFlag, hdashes]

/-- A text that does not start with a dash stands for itself. -/
theorem read_text {text : String} (h : text.toList.head? ≠ some '-') :
    read [text] = .ok ⟨[], [text]⟩ := by
  have hne : text ≠ "--" := fun heq => h (by rw [heq]; rfl)
  simp [read, shortLetters?_of_head? h, longFlag?_of_head? h, hne, Except.map, addPositional]

/-- After two dashes every text stands for itself. -/
theorem read_dashes (rest : List String) : read ("--" :: rest) = .ok ⟨[], rest⟩ := by
  have hshort : shortLetters? "--" = none := by decide
  have hlong : longFlag? "--" = none := by cbv
  simp [read, hshort, hlong]

theorem read_command (rest : List String) :
    read ("-c" :: rest) = (read rest).map (·.addFlags [(.command, "")]) :=
  rfl

end Arguments

theorem request_of_asks {args : List String} {a : Arguments} {text : String}
    (hread : Arguments.read args = .ok a) (h : a.Asks text) :
    request args = .ok (a.asked text, a.value? .log) := by
  simp only [request, hread, bind, Except.bind, h.ofArguments]
  rfl

/-- Only the flag that announces a command, without one, makes a request for nothing. -/
theorem positionals_of_nothing {a : Arguments} (h : Request.ofArguments a = .ok .nothing) :
    a.positionals = [] ∧ a.isSet .command = true := by
  unfold Request.ofArguments at h
  grind

theorem arguments_of_request {args : List String} {what : Request} {log : Option String}
    (h : request args = .ok (what, log)) :
    ∃ a, Arguments.read args = .ok a ∧ Request.ofArguments a = .ok what := by
  rw [request] at h
  cases hread : Arguments.read args with
  | error e =>
      rw [hread] at h
      cases h
  | ok a =>
      rw [hread] at h
      cases hwhat : Request.ofArguments a with
      | error e =>
          simp only [bind, Except.bind, hwhat] at h
          cases h
      | ok what' =>
          simp only [bind, Except.bind, hwhat] at h
          cases h
          exact ⟨a, rfl, hwhat⟩

/-! ### Work and departure -/

/-- How a shell leaves that was given work to do. -/
def departing : (Except Error Status × Shell κ) × Console κ → Departure × Console κ
  | ((.ok status, _), c) => (.code status.code, (Console.flush c).2)
  | ((.error e, _), c) => (.code 1, (Console.flush (Environment.reportError e c).2).2)

/-- The shell that is made to do work. -/
def worker : Shell κ := { registry := .standard, config := .noninteractive }

theorem new_worker : Shell.new (κ := κ) .noninteractive .standard = pure (.ok worker) := rfl

/-- The shell has no editor and says nothing when it leaves. -/
structure Silent (shell : Shell κ) : Prop where
  editor : shell.editor = none
  messages : shell.config.messages = false

theorem silent_worker : Silent (worker : Shell κ) := ⟨rfl, rfl⟩

theorem Silent.conclude_eq {shell : Shell κ} (h : Silent shell) (result : Except Error Status)
    (c : Console κ) : conclude shell result c = departing ((result, shell), c) := by
  have hleave (exit : ExitStatus) (c : Console κ) :
      shell.leave (some exit) c = (.code exit.leavingCode, (Console.flush c).2) := by
    simp [Shell.leave, Shell.saveHistory, h.editor, h.messages]
  cases result with
  | ok status => exact hleave status.exit c
  | error e => exact hleave .failure _

theorem silent_executeLine {shell : Shell κ} (h : Silent shell) (line : String) (c : Console κ) :
    Silent (shell.executeLine line c).1.2 := by
  simp only [Shell.executeLine, bind_apply, pure_apply]
  exact ⟨h.editor, h.messages⟩

theorem silent_runFile {shell : Shell κ} (h : Silent shell) (path : String) (c : Console κ) :
    Silent (shell.runFile path c).1.2 := by
  simp only [Shell.runFile, bind_apply]
  cases (Console.call (Kernel.openFile path) c).1 with
  | ok d => exact ⟨h.editor, h.messages⟩
  | error fault => exact h

theorem withShell_eq (work : Shell κ → StateM (Console κ) (Except Error Status × Shell κ))
    (h : ∀ c, Silent (work worker c).1.2) (c : Console κ) :
    withShell work c = departing (work worker c) := by
  simp only [withShell, new_worker, bind_apply, pure_apply]
  exact (h c).conclude_eq _ _

theorem run_of_request {args : List String} {what : Request} {log : Option String}
    (h : request args = .ok (what, log)) (hhelp : what ≠ .help) (c : Console κ) :
    run args c = perform what (openLog log c).2 := by
  rw [run, h]
  cases what with
  | help => exact absurd rfl hhelp
  | _ => simp only [bind_apply]

/-- The shell that is started with one text executes it as a line, if the flag for commands is given,
and else the lines of the file of that name, in a new shell, and leaves with the code of the status
that comes of it. The text can be any, also one that is empty or, after two dashes, one that looks
like a flag. Nothing but the flag without a text makes the shell crash for want of work. -/
theorem run_asked :
    (∀ text : String,
      Arguments.read ["-c", "--", text] = .ok ⟨[(.command, "")], [text]⟩ ∧
        Arguments.read ["--", text] = .ok ⟨[], [text]⟩) ∧
    (∀ text : String, text.toList.head? ≠ some '-' →
      Arguments.read ["-c", text] = .ok ⟨[(.command, "")], [text]⟩ ∧
        Arguments.read [text] = .ok ⟨[], [text]⟩) ∧
    (∀ (args : List String) (a : Arguments) (text : String), Arguments.read args = .ok a →
      a.Asks text → ∀ c : Console κ, run args c =
        departing ((if a.isSet .command then worker.executeLine text else worker.runFile text)
          (openLog (a.value? .log) c).2)) ∧
    ∀ (args : List String) (log : Option String), request args = .ok (.nothing, log) →
      ∃ a, Arguments.read args = .ok a ∧ a.positionals = [] ∧ a.isSet .command = true := by
  refine ⟨fun text => ⟨?_, Arguments.read_dashes [text]⟩, fun text h => ⟨?_, Arguments.read_text h⟩,
    fun args a text hread hasks c => ?_, fun args log hrequest => ?_⟩
  · rw [Arguments.read_command, Arguments.read_dashes]
    rfl
  · rw [Arguments.read_command, Arguments.read_text h]
    rfl
  · cases hcommand : a.isSet .command with
    | true =>
        have hrequest : request args = .ok (.line text, a.value? .log) := by
          simpa [Arguments.asked, hcommand] using request_of_asks hread hasks
        rw [run_of_request hrequest (by simp)]
        exact withShell_eq (·.executeLine text) (silent_executeLine silent_worker text) _
    | false =>
        have hrequest : request args = .ok (.file text, a.value? .log) := by
          simpa [Arguments.asked, hcommand] using request_of_asks hread hasks
        rw [run_of_request hrequest (by simp)]
        exact withShell_eq (·.runFile text) (silent_runFile silent_worker text) _
  · obtain ⟨a, hread, hnothing⟩ := arguments_of_request hrequest
    exact ⟨a, hread, positionals_of_nothing hnothing⟩

/-- The status of the command has the code 300 modulo 256. The empty text is a command too, which
fails. -/
theorem run_asked_rehearsed :
    (run ["-c", "exit 300"] ({ kernel := {} } : Console Rehearsal)).1 = .code 44 ∧
      (run ["-c", ""] ({ kernel := {} } : Console Rehearsal)).1 = .code 1 := by
  obtain ⟨_, htexts, hrun, _⟩ := run_asked (κ := Rehearsal)
  have hasks (text : String) : Arguments.Asks ⟨[(.command, "")], [text]⟩ text :=
    ⟨by simp, rfl, rfl, rfl⟩
  constructor
  · rw [hrun _ _ _ (htexts "exit 300" (by decide)).1 (hasks _)]
    cbv
  · rw [hrun _ _ _ (htexts "" (by decide)).1 (hasks _)]
    cbv

/-- The flag that announces a command, without one, makes the shell crash. -/
theorem run_command_alone :
    (run ["-c"] ({ kernel := {} } : Console Rehearsal)).1 = .crash := by
  cbv

end LineShell.CommandLine
