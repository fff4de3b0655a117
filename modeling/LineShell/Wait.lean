import LineShell.Error
import LineShell.Status

/-!
What a parent learns of a child. Waiting for a child brings one reply after another: an
interruption, the news that the child has stopped or gone on, or its end. The last one, or any
other failure, settles the matter.
-/

namespace LineShell

/-- The reply of one wait call: a wait word, or why there is none. -/
abbrev WaitReply := Except Errno Int

inductive Ending where
  | exited (code : Int)
  | killed (signal : Int)
  deriving DecidableEq, Repr

namespace Wait

/-- The highest number among the signals that have a name. -/
def lastNamedSignal : Int := 31

def isNamed (signal : Int) : Bool := 1 ≤ signal && signal ≤ lastNamedSignal

/-- What stands in the place of a signal when a traced process has stopped at a system call. -/
def callStop : Int := 133

/-- What has stopped a process, by its wait word. -/
def stop? (word : Int) : Option Int :=
  if word % 256 = 127 then some (word / 256 % 256) else none

/-- How a process ended, by its wait word; `none` if it has not. A signal without a name makes the
word unreadable. -/
def ending? (word : Int) : Except Errno (Option Ending) :=
  let status : ExitStatus := ⟨word⟩
  match status.code?, status.signal? with
  | some code, _ => .ok (some (.exited code))
  | none, some signal =>
      if isNamed signal then .ok (some (.killed signal)) else .error .invalid
  | none, none =>
      match stop? word with
      | some signal =>
          if isNamed signal || signal = callStop then .ok none else .error .invalid
      | none => .ok none

/-- The exit status by which the shell knows an ending: a signal counts as a code above 128. -/
def endingStatus : Ending → ExitStatus
  | .exited code => .ofCode code
  | .killed signal => .ofCode (128 + signal)

/-- The status that successive replies settle on. No child is left when the replies run out. -/
def settle : List WaitReply → Except Errno ExitStatus
  | [] => .error .noChild
  | .error e :: later => if e = .interrupted then settle later else .error e
  | .ok word :: later =>
      match ending? word with
      | .ok (some ending) => .ok (endingStatus ending)
      | .ok none => settle later
      | .error e => .error e

end Wait

end LineShell
