import LineShell.Proofs.Builtin.Dispatched
import LineShell.Proofs.CommandLine.Asked
import LineShell.Proofs.Job.Stage
import LineShell.Proofs.Line.Rendered
import LineShell.Proofs.Text.Denoted

/-!
Leaving the shell by the command `exit`. Its argument is a numeral that fits into 64 bits, and its
code is what the numeral denotes modulo 256; any other argument is a misuse, which ends the shell
just as well.
-/

namespace LineShell

open Numeral (Denotes Denotes64)

namespace Builtin.Exit

variable {σ : Type} [Environment σ]

/-- How the command answers a call. -/
structure Leaves (call : Invocation σ) : Prop where
  /-- Without an argument the code is zero. -/
  bare : call.argv[1]? = none → ∀ s, command.body call s = (.ok (.terminate (.ofCode 0)), s)
  numeral (arg : String) (n : Int) : call.argv[1]? = some arg → Denotes64 arg n →
    ∀ s, command.body call s = (.ok (.terminate (.ofCode n)), s)
  misuse (arg : String) : call.argv[1]? = some arg → (∀ n, ¬ Denotes64 arg n) →
    ∀ s, command.body call s = (.ok (.terminate (.ofCode 2)),
      (Environment.complain ("koish: exit: " ++ arg ++ ": numeric argument required\n") s).2)

theorem leaves (call : Invocation σ) : Leaves call where
  bare harg s := by
    simp only [command, body, harg]
    rfl
  numeral arg n harg hn s := by
    simp only [command, body, harg, Numeral.signed64?_eq_some_iff.mpr hn, pure_apply]
  misuse arg harg hnot s := by
    have hnone : Numeral.signed64? arg = none :=
      Option.eq_none_iff_forall_ne_some.mpr fun n => mt Numeral.signed64?_eq_some_iff.mp (hnot n)
    simp only [command, body, harg, hnone]
    rfl

variable {r : Registry σ} (hexit : r.IsFirst "exit" command)

include hexit

/-- Later arguments do not count. -/
theorem run_eq_terminate {arg : String} {n : Int} (hn : Denotes64 arg n) (rest : List String)
    (sink : Sink σ) (s : σ) :
    r.run sink ("exit" :: arg :: rest) s =
      (some (.terminate (.ofCode n)), (sink.flush s).2) := by
  rw [Registry.run_of_isFirst hexit, bind_apply, (leaves _).numeral arg n rfl hn]
  rfl

end Builtin.Exit

/-! ### Executing the command -/

theorem Streams.within_own {κ α : Type} [Kernel κ] (action : StateM (Console κ) α) (c : Console κ) :
    (within ⟨none, none⟩ action c).1 = .ok (action (Console.flush c).2).1 :=
  rfl

namespace Job

variable {κ : Type} [Kernel κ] {r : Registry (Console κ)}

theorem execute_exit (hexit : r.IsFirst "exit" Builtin.Exit.command) {arg : String} {n : Int}
    (hn : Denotes64 arg n) (rest : List String) (c : Console κ) :
    ((Job.ofArgvs [("exit" :: arg :: rest)]).execute r c).1.1 = .ok (.terminate (.ofCode n)) := by
  have hbuiltin : r.isBuiltin "exit" = true := by
    rw [Registry.isBuiltin, Registry.find?_eq_some_iff.mpr hexit, Option.isSome_some]
  have hturn (held : List Descriptor) : (Task.turn r ⟨none, none⟩ held ("exit" :: arg :: rest) c).1 =
      .command (.terminate (.ofCode n)) := by
    have hrun := Streams.within_own (r.run Console.standardOutput ("exit" :: arg :: rest)) c
    rw [Builtin.Exit.run_eq_terminate hexit hn] at hrun
    simp only [Task.turn, hbuiltin, if_true, Task.runBuiltin, bind_apply, hrun]
    rfl
  have hturns : (turns r none [] [("exit" :: arg :: rest)] c).1 =
      [.command (.terminate (.ofCode n))] := by
    simp only [turns, Streams.first, bind_apply, List.head?_nil, Option.map_none, hturn]
    rfl
  have hopened : Console.call (Pipe.openMany (size (.ofArgvs [("exit" :: arg :: rest)]) - 1)) c =
      (.ok [], c) := rfl
  simp only [execute_of_opened hopened, argvs_ofArgvs, hturns, Turn.outcome, Option.getD_some]

end Job

namespace Line

/-- A numeral is a word, and separates nothing. -/
theorem isArgument_of_denotes {text : String} {n : Int} (h : Denotes text.toList n) :
    IsArgument text := by
  obtain ⟨⟨d, hmem, hdigit⟩, hall⟩ := h.mem
  have hne {other : String} (hother : ∀ c ∈ other.toList, c.isDigit = false) : text ≠ other := by
    rintro rfl
    rw [hother d hmem] at hdigit
    cases hdigit
  refine ⟨⟨hne (by simp), fun c hc => ?_⟩, hne (by simp [jobSeparator]), hne (by simp [taskSeparator])⟩
  rcases hall c hc with hdigit | rfl | rfl
  · rw [Bool.eq_false_iff, Ne, isDelimiter_iff]
    intro hdelimiter
    fin_cases hdelimiter <;> simp at hdigit
  · rfl
  · rfl

theorem tokenize_exit {text : String} {n : Int} (h : Denotes text.toList n) :
    tokenize ("exit " ++ text) = [.ofArgvs [["exit", text]]] := by
  have hwell : WellFormed [.ofArgvs [["exit", text]]] := by
    have hword : IsArgument "exit" := by decide
    have harg := isArgument_of_denotes h
    simp [WellFormed, Job.ofArgvs, Task.ofArgv, hword, harg]
  have hrender : render [.ofArgvs [["exit", text]]] = "exit " ++ text := by
    simp [render, Job.ofArgvs, Job.render, Task.ofArgv, Task.render]
  rw [← hrender, tokenize_render hwell]
  simp

end Line

/-! ### Leaving the shell -/

theorem ExitStatus.leavingCode_ofCode (n : Int) : (ofCode n).leavingCode = n % 256 := by
  rw [leavingCode, code?_ofCode, Option.getD_some]

namespace Shell

variable {κ : Type} [Kernel κ]

/-- How a shell leaves that is given the command with this argument, of which the number comes. -/
structure LeavesBy (shell : Shell κ) (text : String) (n : Int) : Prop where
  line (c : Console κ) :
    (shell.executeLine ("exit " ++ text) c).1.1 = .ok (.terminate (.ofCode n))
  /-- A session ends with the line, wherever its lines come from. -/
  session (supply : LineSupply (Console κ)) (bound : Nat) (last : ExitStatus) (c : Console κ) :
    (supply Session.prompt c).1 = .ok (some ("exit " ++ text)) →
      (Session.run shell.executor supply (bound + 1) last c).1.1 = .ok (.terminate (.ofCode n))
  /-- After that the shell leaves with the code, unless it cannot even say so. -/
  departure (c : Console κ) :
    (CommandLine.conclude shell (.ok (.terminate (.ofCode n))) c).1 = .code (n % 256) ∨
      shell.config.messages = true ∧
        (CommandLine.conclude shell (.ok (.terminate (.ofCode n))) c).1 = .crash

variable {shell : Shell κ} {text : String} {n : Int}

theorem executeLine_exit (hexit : shell.registry.IsFirst "exit" Builtin.Exit.command)
    (hn : Denotes64 text n) (last : ExitStatus) (c : Console κ) :
    (Session.executeLine shell.executor last ("exit " ++ text) c).1 =
      (.ok (.terminate (.ofCode n)), .ofCode n) := by
  have hjob : (shell.executor (.ofArgvs [["exit", text]]) c).1 = .ok (.terminate (.ofCode n)) :=
    Job.execute_exit hexit hn [] c
  rw [Session.executeLine, Line.tokenize_exit hn.1, Session.executeJobs, bind_apply, hjob]
  rfl

theorem leave_ofCode (c : Console κ) :
    (shell.leave (some (.ofCode n)) c).1 = .code (n % 256) ∨
      shell.config.messages = true ∧ (shell.leave (some (.ofCode n)) c).1 = .crash := by
  cases hmessages : shell.config.messages with
  | false =>
      left
      simp [leave, hmessages, ExitStatus.leavingCode_ofCode]
  | true =>
      simp only [leave, hmessages, if_true, bind_apply]
      cases (Console.print (Utf8.encode farewell) c).1 with
      | error fault => exact .inr ⟨trivial, rfl⟩
      | ok =>
          left
          simp [ExitStatus.leavingCode_ofCode]

theorem leavesBy (hexit : shell.registry.IsFirst "exit" Builtin.Exit.command)
    (hn : Denotes64 text n) : shell.LeavesBy text n where
  line c := by
    simp only [executeLine, bind_apply, executeLine_exit hexit hn]
    rfl
  session supply bound last c hline := by
    simp only [Session.run, bind_apply, hline, executeLine_exit hexit hn]
    rfl
  departure c := leave_ofCode c

end Shell

namespace CommandLine

variable {κ : Type} [Kernel κ]

theorem isFirst_exit : (Registry.standard : Registry (Console κ)).IsFirst "exit" Builtin.Exit.command :=
  ⟨[Builtin.Help.command], _, rfl, rfl, by
    intro other hother
    obtain rfl := List.mem_singleton.mp hother
    show Builtin.Help.topic.name ≠ "exit"
    decide⟩

theorem run_command_line {line : String} (h : line.toList.head? ≠ some '-') (c : Console κ) :
    run ["-c", line] c = departing (worker.executeLine line (openLog none c).2) := by
  have hread : Arguments.read ["-c", line] = .ok ⟨[(.command, "")], [line]⟩ := by
    rw [Arguments.read_command, Arguments.read_text h]
    rfl
  have hasks : Arguments.Asks ⟨[(.command, "")], [line]⟩ line := ⟨by simp, rfl, rfl, rfl⟩
  have hrequest : request ["-c", line] = .ok (.line line, none) := request_of_asks hread hasks
  rw [run_of_request hrequest (by simp)]
  exact withShell_eq (·.executeLine line) (silent_executeLine silent_worker line) _

theorem fst_departing {work : (Except Error Status × Shell κ) × Console κ} {status : Status}
    (h : work.1.1 = .ok status) : (departing work).1 = .code status.code := by
  obtain ⟨⟨result, shell⟩, c⟩ := work
  obtain rfl : result = .ok status := h
  rfl

theorem run_exit {text : String} {n : Int} (hn : Denotes64 text n) (c : Console κ) :
    (run ["-c", "exit " ++ text] c).1 = .code (n % 256) := by
  have hhead : ("exit " ++ text).toList.head? ≠ some '-' := by
    rw [String.toList_append]
    simp
  rw [run_command_line hhead, fst_departing ((Shell.leavesBy isFirst_exit hn).line _)]
  exact congrArg Departure.code (ExitStatus.leavingCode_ofCode n)

end CommandLine

namespace Builtin.Exit

/-- The command always ends the shell: with the code that its argument denotes modulo 256, with zero if
there is no argument, and with two and a complaint if the argument denotes nothing or nothing that fits.
What denotes a number has digits, and nothing else but signs; every number is written so that it denotes
itself. The shell leaves with that code wherever the line comes from. -/
theorem exits_modulo :
    (∀ {σ : Type} [Environment σ] (call : Invocation σ), Leaves call) ∧
    (∀ n : Int, (ExitStatus.ofCode n).code? = some (n % 256) ∧ 0 ≤ n % 256 ∧ n % 256 < 256) ∧
    (∀ (text : String) (n : Int), Denotes text.toList n →
      (∃ c ∈ text.toList, c.isDigit = true) ∧
      (∀ c ∈ text.toList, c.isDigit = true ∨ c = '+' ∨ c = '-') ∧
      (¬ (-2 ^ 63 ≤ n ∧ n < 2 ^ 63) → ∀ m, ¬ Denotes64 text m)) ∧
    (∀ n : Int, -2 ^ 63 ≤ n → n < 2 ^ 63 → Denotes64 (toString n) n) ∧
    ∀ (text : String) (n : Int), Denotes64 text n → ∀ {κ : Type} [Kernel κ],
      (∀ shell : Shell κ, shell.registry.IsFirst "exit" command → shell.LeavesBy text n) ∧
      ∀ c : Console κ, (CommandLine.run ["-c", "exit " ++ text] c).1 = .code (n % 256) := by
  refine ⟨leaves, fun n => ⟨ExitStatus.code?_ofCode n, by omega, by omega⟩,
    fun text n h => ⟨h.mem.1, h.mem.2, fun hfits m hm => ?_⟩,
    fun n hlow hhigh => ⟨Numeral.denotes_toString n, hlow, hhigh⟩,
    fun text n hn κ _ => ⟨fun shell hexit => Shell.leavesBy hexit hn, CommandLine.run_exit hn⟩⟩
  rw [h.unique hm.1] at hfits
  exact hfits hm.2

/-- The least number but one that fits, and the first one that does not. -/
theorem exits_modulo_least :
    let call : Invocation Rehearsal :=
      { topics := [], argv := ["exit", toString (9223372036854775808 : Int), "1"],
        sink := ⟨fun _ => pure (.ok ()), pure (.ok ())⟩, onward := pure none }
    (CommandLine.run ["-c", "exit " ++ toString (-9223372036854775807 : Int)]
      ({ kernel := {} } : Console Rehearsal)).1 = .code 1 ∧
      (command.body call {}).1 = .ok (.terminate (.ofCode 2)) := by
  intro call
  obtain ⟨hcall, _, hdenotes, hwritten, hleaves⟩ := exits_modulo
  constructor
  · exact (hleaves _ _ (hwritten _ (by norm_num) (by norm_num))).2 _
  · have hbeyond := (hdenotes _ _ (Numeral.denotes_toString 9223372036854775808)).2.2 (by norm_num)
    exact congrArg Prod.fst ((hcall call).misuse _ rfl hbeyond {})

end Builtin.Exit

end LineShell
