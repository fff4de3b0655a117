import LineShell.Job.Tokenize
import LineShell.Kernel

/-!
Running lines. A session is whatever executes jobs; all that the lines themselves add is the order
of the jobs, the place where they stop, and the exit status of the job that finished last.
-/

namespace LineShell

/-- Executes one job. -/
abbrev Executor (σ : Type) := Job → StateM σ (Except Error Status)

/-- Gives the next line, or `none` at the end. A supply that is interactive shows the prompt. -/
abbrev LineSupply (σ : Type) := String → StateM σ (Except Error (Option String))

namespace Session

variable {σ : Type} [Environment σ]

/-- Executes jobs in order, up to the first that ends the shell. `last` is the exit status of the
job that finished last and `status` the outcome so far. A job whose pipes could not be made has
failed; any other error ends the line. -/
def executeJobs (execute : Executor σ) (last : ExitStatus) (status : Status) :
    List Job → StateM σ (Except Error Status × ExitStatus)
  | [] => return (.ok status, last)
  | job :: rest => do
      match ← execute job with
      | .ok (.proceed exit) => executeJobs execute exit (.proceed exit) rest
      | .ok (.terminate exit) => return (.ok (.terminate exit), exit)
      | .error (.pipe e) =>
          Environment.reportError (.pipe e)
          executeJobs execute .failure .failure rest
      | .error e => return (.error e, last)

/-- Executes the jobs of a line. -/
def executeLine (execute : Executor σ) (last : ExitStatus) (line : String) :
    StateM σ (Except Error Status × ExitStatus) :=
  executeJobs execute last (.proceed last) (Line.tokenize line)

/-- What is shown to ask for a line. -/
def prompt : String := "\n\x1b[1mᗜˬᗜ > \x1b[0m"

/-- More lines than can be executed in any time. -/
def patience : Nat := 100000000

/-- Executes at most `bound` lines of a supply, up to its end, a failure or a request to end. A run
that came to its bound would end as at the end of the supply, but none does: the bound exceeds the
number of lines that are listed, the bytes of a source and, by `SharedInput.Lawful.lineBound_eq`, the
bytes that an open file has left. -/
def run (execute : Executor σ) (supply : LineSupply σ) :
    Nat → ExitStatus → StateM σ (Except Error Status × ExitStatus)
  | 0, last => return (.ok (.proceed last), last)
  | bound + 1, last => do
      match ← supply prompt with
      | .error e => return (.error e, last)
      | .ok none => return (.ok (.proceed last), last)
      | .ok (some line) =>
          let (result, last) ← executeLine execute last line
          match result with
          | .ok (.proceed _) => run execute supply bound last
          | .ok (.terminate exit) => return (.ok (.terminate exit), last)
          | .error e => return (.error e, last)

end Session

end LineShell
