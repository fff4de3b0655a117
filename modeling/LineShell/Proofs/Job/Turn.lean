import LineShell.Pipeline
import LineShell.Proofs.State
import Mathlib.Data.List.Basic

/-!
The turns of the tasks of a job, one after another. They alone say what a run does outside the job;
the marks that it leaves on the tasks, and where it stops, follow from them. What the shell holds of
the pipes when a task has its turn follows from the number of the task, so an end that it has given
up is never taken for a stream of the shell's own.
-/

namespace LineShell

namespace Turn

/-- No other task is taken up after this one. -/
def isLast : Turn → Bool
  | command (.terminate _) => true
  | refused _ => true
  | _ => false

def pid? : Turn → Option Pid
  | launched pid => some pid
  | _ => none

/-- Why the tasks were not all taken up, if they were not. -/
def outcome : List Turn → Except Error (Option Status)
  | [] => .ok none
  | refused e :: _ => .error (.fork e)
  | command (.terminate exit) :: _ => .ok (some (.terminate exit))
  | _ :: rest => outcome rest

theorem eq_of_isLast {turn : Turn} (h : turn.isLast = true) :
    (∃ e, turn = refused e) ∨ ∃ exit, turn = command (.terminate exit) := by
  cases turn with
  | refused e => exact .inl ⟨e, rfl⟩
  | command status =>
      cases status with
      | proceed exit => simp [isLast] at h
      | terminate exit => exact .inr ⟨exit, rfl⟩
  | _ => simp [isLast] at h

/-- A turn that is not the last leaves the outcome to those after it. -/
theorem outcome_cons {turn : Turn} (h : turn.isLast = false) (rest : List Turn) :
    outcome (turn :: rest) = outcome rest := by
  cases turn with
  | refused e => simp [isLast] at h
  | command status =>
      cases status with
      | proceed exit => rfl
      | terminate exit => simp [isLast] at h
  | _ => rfl

/-- The tasks after their turns. Those that had none are left as they were. -/
def markAll (turns : List Turn) (tasks : List Task) : List Task :=
  List.zipWith (fun turn task => mark task turn) turns tasks ++ tasks.drop turns.length

@[simp] theorem markAll_nil (tasks : List Task) : markAll [] tasks = tasks := by
  simp [markAll]

@[simp] theorem markAll_cons (turn : Turn) (turns : List Turn) (task : Task) (rest : List Task) :
    markAll (turn :: turns) (task :: rest) = mark task turn :: markAll turns rest := by
  simp [markAll]

/-- The tasks that have a process after their turns are those that were launched. -/
theorem map_pid_markAll {turns : List Turn} {tasks : List Task}
    (hfresh : ∀ task ∈ tasks, task.pid = none) (hlength : turns.length ≤ tasks.length) :
    (markAll turns tasks).map Task.pid =
      turns.map pid? ++ List.replicate (tasks.length - turns.length) none := by
  induction turns generalizing tasks with
  | nil => simpa [List.eq_replicate_iff] using hfresh
  | cons turn turns ih =>
      cases tasks with
      | nil => simp at hlength
      | cons task rest =>
          have htask : task.pid = none := hfresh task List.mem_cons_self
          have hrest := ih (fun t ht => hfresh t (List.mem_cons_of_mem _ ht))
            (by simpa using hlength)
          cases turn <;> simp [mark, Task.withStatus, Task.withPid, pid?, htask, hrest]

end Turn

/-! ### The pipes, as far as they are held -/

/-- The streams of the first of some tasks, by its input and the pipes left. -/
def Streams.first (input : Option Descriptor) (pipes : List Pipe) : Streams :=
  ⟨input, pipes.head?.map Pipe.writer⟩

namespace Pipe

/-- The ends of pipes that the shell holds before some tasks are started. -/
def endsFrom (input : Option Descriptor) (pipes : List Pipe) : List Descriptor :=
  input.toList ++ pipes.flatMap ends

/-- The ends that the first of the tasks leaves to those after it. -/
def left (pipes : List Pipe) : List Descriptor := endsFrom (pipes.head?.map reader) pipes.tail

/-- The input of task `i` after the first of some tasks, by the input of the first and the pipes
left. -/
def inputAt (input : Option Descriptor) (pipes : List Pipe) : Nat → Option Descriptor
  | 0 => input
  | i + 1 => pipes[i]?.map reader

/-- What the shell holds of the pipes of a job when its task `i` has its turn: it has given up the
writing ends of all pipes before the task, and their reading ends except the one that the task reads
from. -/
def heldAt (pipes : List Pipe) (i : Nat) : List HeldPipe :=
  pipes.mapIdx fun k p =>
    ⟨if k + 1 < i then none else some p.reader, if k < i then none else some p.writer⟩

variable (pipes : List Pipe)

theorem getElem?_heldAt (i k : Nat) : (heldAt pipes i)[k]? = pipes[k]?.map fun p =>
    ⟨if k + 1 < i then none else some p.reader, if k < i then none else some p.writer⟩ := by
  rw [heldAt, List.getElem?_mapIdx]

theorem heldAt_zero : heldAt pipes 0 = pipes.map .ofPipe := by
  refine List.ext_getElem? fun k => ?_
  rw [getElem?_heldAt, List.getElem?_map]
  rfl

theorem heldAt_cons_succ (p : Pipe) (i : Nat) :
    heldAt (p :: pipes) (i + 1) =
      ⟨if 0 < i then none else some p.reader, none⟩ :: heldAt pipes i := by
  simp [heldAt, List.mapIdx_cons]

/-- No end that a task is to be given has been given up before. -/
theorem ofTask_heldAt (i : Nat) :
    Streams.ofTask (heldAt pipes i) i = .first (inputAt none pipes i) (pipes.drop i) := by
  have houtput : (heldAt pipes i)[i]?.bind HeldPipe.writer = (pipes.drop i).head?.map writer := by
    rw [getElem?_heldAt, List.head?_drop]
    cases pipes[i]? <;> simp
  cases i with
  | zero => rw [Streams.ofTask, houtput, Streams.first, inputAt]
  | succ i =>
      have hinput : (heldAt pipes (i + 1))[i]?.bind HeldPipe.reader = pipes[i]?.map reader := by
        rw [getElem?_heldAt]
        cases pipes[i]? <;> simp
      rw [Streams.ofTask, houtput, hinput, Streams.first, inputAt]

/-- All that is still held is the input of the task and the ends of the pipes after it. -/
theorem ends_heldAt (i : Nat) :
    (heldAt pipes i).flatMap HeldPipe.ends = endsFrom (inputAt none pipes i) (pipes.drop i) := by
  induction pipes generalizing i with
  | nil => cases i <;> rfl
  | cons p rest ih =>
      cases i with
      | zero =>
          rw [heldAt_zero, List.flatMap_map]
          rfl
      | succ i =>
          rw [heldAt_cons_succ, List.flatMap_cons, ih, List.drop_succ_cons]
          cases i <;> simp [HeldPipe.ends, endsFrom, inputAt]

theorem release_heldAt (i : Nat) : HeldPipe.release (heldAt pipes i) i = heldAt pipes (i + 1) := by
  refine List.ext_getElem? fun k => ?_
  cases i <;>
    grind [HeldPipe.release, HeldPipe.dropReader, HeldPipe.dropWriter, getElem?_heldAt]

/-- What is held at the turn of a task is what the tasks before it have left. -/
theorem foldl_release (i : Nat) :
    (List.range i).foldl HeldPipe.release (pipes.map .ofPipe) = heldAt pipes i := by
  induction i with
  | zero => exact (heldAt_zero pipes).symm
  | succ i ih => rw [List.range_succ, List.foldl_concat, ih, release_heldAt]

end Pipe

/-! ### Starting the tasks, by their turns -/

namespace Job

variable {κ : Type} [Kernel κ]

/-- The turns of tasks with these arguments, up to the last that is taken up. -/
def turns (registry : Registry (Console κ)) (input : Option Descriptor) (pipes : List Pipe) :
    List (List String) → StateM (Console κ) (List Turn)
  | [] => do
      Console.call (Pipe.closeAll (Pipe.endsFrom input pipes))
      return []
  | argv :: rest => do
      let turn ← Task.turn registry (.first input pipes) (Pipe.endsFrom input pipes) argv
      Console.call (Pipe.closeAll (Streams.first input pipes).ends)
      if turn.isLast then
        Console.call (Pipe.closeAll (Pipe.left pipes))
        return [turn]
      else return turn :: (← turns registry (pipes.head?.map Pipe.reader) pipes.tail rest)

theorem start_heldAt (registry : Registry (Console κ)) (pipes : List Pipe) (i : Nat)
    (tasks : List Task) :
    start registry i (Pipe.heldAt pipes i) tasks =
      (fun turns => (Turn.outcome turns, Turn.markAll turns tasks)) <$>
        turns registry (Pipe.inputAt none pipes i) (pipes.drop i) (tasks.map Task.argv) := by
  funext c
  induction tasks generalizing i c with
  | nil =>
      simp only [start, turns, Pipe.ends_heldAt, List.map_nil]
      rfl
  | cons task rest ih =>
      have hnext : (pipes.drop i).head?.map Pipe.reader = Pipe.inputAt none pipes (i + 1) := by
        rw [List.head?_drop, Pipe.inputAt]
      have hleft : Pipe.left (pipes.drop i) =
          Pipe.endsFrom (Pipe.inputAt none pipes (i + 1)) (pipes.drop (i + 1)) := by
        rw [Pipe.left, hnext, List.tail_drop]
      simp only [start, turns, List.map_cons, Task.run, Pipe.ofTask_heldAt, Pipe.ends_heldAt,
        Pipe.release_heldAt, bind_apply, pure_apply, map_apply, hleft, hnext, List.tail_drop]
      rcases Task.turn registry _ _ task.argv c with ⟨turn, c'⟩
      -- After a refused process and after a command that ends the shell nothing more is started.
      cases turn with
      | refused e => simp [Turn.result, Turn.isLast, Turn.outcome]
      | command status =>
          cases status with
          | proceed exit => simp [Turn.result, Turn.isLast, Turn.outcome, ih]
          | terminate exit => simp [Turn.result, Turn.isLast, Turn.outcome]
      | _ => simp [Turn.result, Turn.isLast, Turn.outcome, ih, Status.failure]

/-- The tasks of a job are started with all pipes held. -/
theorem start_eq_turns (registry : Registry (Console κ)) (pipes : List Pipe) (tasks : List Task) :
    start registry 0 (pipes.map .ofPipe) tasks =
      (fun turns => (Turn.outcome turns, Turn.markAll turns tasks)) <$>
        turns registry none pipes (tasks.map Task.argv) := by
  rw [← Pipe.heldAt_zero, start_heldAt]
  rfl

/-! ### A run, by the turns of its tasks -/

section Opened

variable {registry : Registry (Console κ)} {job : Job} {c c₁ : Console κ}

theorem execute_of_unopened {e : Errno}
    (h : Console.call (Pipe.openMany (job.size - 1)) c = (.error e, c₁)) :
    job.execute registry c = ((.error (.pipe e), job), c₁) := by
  rw [execute, bind_apply, show job.tasks.length - 1 = job.size - 1 from rfl, h]
  rfl

variable {pipes : List Pipe} (h : Console.call (Pipe.openMany (job.size - 1)) c = (.ok pipes, c₁))

include h

/-- A process that cannot be made ends the run; otherwise the processes are waited for. -/
theorem execute_of_opened : job.execute registry c =
    let taken := turns registry none pipes job.argvs c₁
    let tasks := Turn.markAll taken.1 job.tasks
    match Turn.outcome taken.1 with
    | .error e => ((.error e, { job with tasks := tasks }), taken.2)
    | .ok stop =>
        let reaped := Console.call (reap tasks) taken.2
        let status := stop.getD (lastTaskStatus reaped.1)
        ((.ok status, ⟨reaped.1, some status⟩), reaped.2) := by
  simp only [execute, bind_apply, show job.tasks.length - 1 = job.size - 1 from rfl, h,
    start_eq_turns, map_apply, show job.tasks.map Task.argv = job.argvs from rfl]
  cases Turn.outcome (turns registry none pipes job.argvs c₁).1 <;> rfl

end Opened

end Job

end LineShell
