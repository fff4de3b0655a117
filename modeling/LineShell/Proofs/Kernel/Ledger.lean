import LineShell.Proofs.Kernel.Recorded
import Mathlib.Logic.Function.Basic

/-!
What a record says about descriptors. The ledger of a record holds what each descriptor of the shell
stands for and the children as they were when they were made. Only successful answers change it, and
it relies on the system for no more than that new descriptors were free before.
-/

namespace LineShell

/-- What a descriptor stands for. Pipes are numbered in the order in which they were made. -/
inductive Port where
  /-- A stream from before the first pipe. -/
  | own (stream : Nat)
  | reader (pipe : Nat)
  | writer (pipe : Nat)
  deriving DecidableEq, Repr

/-- The port is an end of a pipe. -/
def Port.IsEnd (port : Port) : Prop := ∀ stream, port ≠ .own stream

instance : DecidablePred Port.IsEnd
  | .own stream => isFalse fun h => h stream rfl
  | .reader _ | .writer _ => isTrue fun _ => Port.noConfusion

@[simp] theorem Port.not_isEnd_own (stream : Nat) : ¬ (own stream).IsEnd := fun h => h stream rfl

@[simp] theorem Port.isEnd_reader (pipe : Nat) : (reader pipe).IsEnd := fun _ => Port.noConfusion

@[simp] theorem Port.isEnd_writer (pipe : Nat) : (writer pipe).IsEnd := fun _ => Port.noConfusion

/-- The open descriptors of a process. -/
abbrev Holdings := Descriptor → Option Port

namespace Holdings

def ofOwn (own : Descriptor → Option Nat) : Holdings := fun d => (own d).map .own

/-- What is held after a descriptor, the source, was put in the place of another, the target. -/
def rebind (t : Holdings) (binding : Descriptor × Descriptor) : Holdings :=
  Function.update t binding.2 (t binding.1)

theorem rebind_apply (t : Holdings) (source target d : Descriptor) :
    t.rebind (source, target) d = if d = target then t source else t d :=
  Function.update_apply ..

/-- What is held after closing descriptors. -/
def without (t : Holdings) (ds : List Descriptor) : Holdings := fun d =>
  if d ∈ ds then none else t d

@[simp] theorem without_nil (t : Holdings) : t.without [] = t := by
  ext d
  simp [without]

theorem without_cons (t : Holdings) (d : Descriptor) (ds : List Descriptor) :
    t.without (d :: ds) = Holdings.without (Function.update t d none) ds := by
  ext d'
  by_cases h : d' = d
  · subst h
    simp [without]
  · simp [without, h]

theorem without_append (t : Holdings) (ds es : List Descriptor) :
    t.without (ds ++ es) = (t.without ds).without es := by
  ext d
  by_cases hd : d ∈ ds <;> simp [without, hd]

theorem without_congr (t : Holdings) {ds es : List Descriptor} (h : ∀ d, d ∈ ds ↔ d ∈ es) :
    t.without ds = t.without es := by
  ext d
  simp [without, h]

/-- A duplicate taken of a descriptor before something is put in its place brings it back. -/
theorem undone {t : Holdings} {target copy : Descriptor} (hcopy : t copy = none)
    (hne : copy ≠ target) (port : Option Port) :
    let bound := Function.update (Function.update t copy (t target)) target port
    bound copy = t target ∧
      Function.update (Function.update bound target (bound copy)) copy none = t := by
  have hkept : Function.update (Function.update t copy (t target)) target port copy = t target := by
    simp [hne]
  refine ⟨hkept, ?_⟩
  simp only [hkept]
  funext d
  by_cases hd : d = copy
  · subst hd
    simp [hcopy]
  · by_cases hd' : d = target
    · subst hd'
      simp [hd]
    · simp [hd, hd']

end Holdings

/-! ### Children -/

/-- What a child does with its descriptors before it runs its program. -/
inductive Chore where
  | rebind (binding : Descriptor × Descriptor)
  | close (d : Descriptor)

def Chore.apply (t : Holdings) : Chore → Holdings
  | rebind binding => t.rebind binding
  | close d => Function.update t d none

def Child.chores (child : Child) : List Chore :=
  child.bindings.map .rebind ++ child.closing.map .close

/-- A child as it is when it is made: it has what the shell has at that moment. -/
structure Birth where
  pid : Pid
  child : Child
  inherited : Holdings

/-- What the child holds when it runs its program. -/
def Birth.settled (b : Birth) : Holdings := b.child.chores.foldl Chore.apply b.inherited

theorem foldl_close (t : Holdings) (ds : List Descriptor) :
    (ds.map Chore.close).foldl Chore.apply t = t.without ds := by
  induction ds generalizing t with
  | nil => simp
  | cons d rest ih => rw [List.map_cons, List.foldl_cons, ih, Holdings.without_cons]; rfl

theorem Birth.settled_eq (b : Birth) :
    b.settled = (b.child.bindings.foldl Holdings.rebind b.inherited).without b.child.closing := by
  rw [settled, Child.chores, List.foldl_append, foldl_close, List.foldl_map]
  rfl

/-! ### The ledger -/

structure Ledger where
  /-- What the shell holds. -/
  table : Holdings
  /-- How many pipes have been made. -/
  made : Nat := 0
  births : List Birth := []

namespace Ledger

/-- The ledger of a shell that has made no pipe yet. -/
def start (own : Descriptor → Option Nat) : Ledger := { table := .ofOwn own }

def record (l : Ledger) : Event → Ledger
  | .piped (.ok (reader, writer)) =>
      { l with
        table := Function.update (Function.update l.table reader (some (.reader l.made))) writer
          (some (.writer l.made))
        made := l.made + 1 }
  | .closed d => { l with table := Function.update l.table d none }
  | .duplicated d (.ok copy) => { l with table := Function.update l.table copy (l.table d) }
  | .replaced source target (.ok ()) =>
      { l with table := l.table.rebind (source, target) }
  | .forked child (.ok pid) => { l with births := l.births ++ [⟨pid, child, l.table⟩] }
  | _ => l

def after (l : Ledger) (events : List Event) : Ledger := events.foldl record l

@[simp] theorem after_nil (l : Ledger) : l.after [] = l := rfl

@[simp] theorem after_cons (l : Ledger) (e : Event) (events : List Event) :
    l.after (e :: events) = (l.record e).after events := rfl

@[simp] theorem after_append (l : Ledger) (events later : List Event) :
    l.after (events ++ later) = (l.after events).after later :=
  List.foldl_append

/-- What the system promises of an answer. New descriptors were free before, and a stream that is
none of the pipes can be put in the place of another. -/
def Grants (l : Ledger) : Event → Prop
  | .piped (.ok (reader, writer)) => l.table reader = none ∧ l.table writer = none ∧ reader ≠ writer
  | .duplicated _ (.ok copy) => l.table copy = none
  | .replaced source _ answer => ∀ stream, l.table source = some (.own stream) → answer = .ok ()
  | _ => True

/-- Every event of a record is as `p` wants it, by the ledger at that point. -/
def Along (p : Ledger → Event → Prop) : Ledger → List Event → Prop
  | _, [] => True
  | l, e :: later => p l e ∧ Along p (l.record e) later

/-- The system kept its promises all along. -/
def Lawful : Ledger → List Event → Prop := Along Grants

section Along

variable {p : Ledger → Event → Prop}

@[simp] theorem along_nil (l : Ledger) : l.Along p [] := trivial

@[simp] theorem along_cons (l : Ledger) (e : Event) (later : List Event) :
    l.Along p (e :: later) ↔ p l e ∧ (l.record e).Along p later := Iff.rfl

@[simp] theorem along_append (l : Ledger) (events later : List Event) :
    l.Along p (events ++ later) ↔ l.Along p events ∧ (l.after events).Along p later := by
  induction events generalizing l with
  | nil => simp
  | cons e rest ih => simp [ih, and_assoc]

theorem along_of_forall {events : List Event} (h : ∀ e ∈ events, ∀ l, p l e) (l : Ledger) :
    l.Along p events := by
  induction events generalizing l with
  | nil => trivial
  | cons e rest ih =>
      exact ⟨h e List.mem_cons_self l, ih (fun e he => h e (List.mem_cons_of_mem _ he)) _⟩

end Along

theorem lawful_append (l : Ledger) (events later : List Event) :
    l.Lawful (events ++ later) ↔ l.Lawful events ∧ (l.after events).Lawful later :=
  l.along_append events later

theorem record_of_isOutput (l : Ledger) {e : Event} (h : e.IsOutput) : l.record e = l := by
  obtain ⟨bytes, answer, rfl⟩ := h
  rfl

theorem record_of_isWait (l : Ledger) {e : Event} (h : e.IsWait) : l.record e = l := by
  obtain ⟨pid, rfl⟩ := h
  rfl

theorem along_of_isOutput {p : Ledger → Event → Prop} {l : Ledger} {events : List Event}
    (h : ∀ e ∈ events, e.IsOutput)
    (hp : ∀ bytes answer, p l (.wrote Descriptor.output bytes answer)) : l.Along p events := by
  induction events with
  | nil => trivial
  | cons e rest ih =>
      have he := h e List.mem_cons_self
      refine ⟨?_, ?_⟩
      · obtain ⟨bytes, answer, rfl⟩ := he
        exact hp bytes answer
      · rw [l.record_of_isOutput he]
        exact ih fun e he => h e (List.mem_cons_of_mem _ he)

theorem after_of_record_eq {l : Ledger} {events : List Event} (h : ∀ e ∈ events, l.record e = l) :
    l.after events = l := by
  induction events with
  | nil => rfl
  | cons e rest ih =>
      rw [after_cons, h e List.mem_cons_self]
      exact ih fun e he => h e (List.mem_cons_of_mem _ he)

theorem after_of_isOutput (l : Ledger) {events : List Event} (h : ∀ e ∈ events, e.IsOutput) :
    l.after events = l :=
  after_of_record_eq fun e he => l.record_of_isOutput (h e he)

theorem after_of_isWait (l : Ledger) {events : List Event} (h : ∀ e ∈ events, e.IsWait) :
    l.after events = l :=
  after_of_record_eq fun e he => l.record_of_isWait (h e he)

theorem after_closes (l : Ledger) (ds : List Descriptor) :
    l.after (closes ds) = { l with table := l.table.without ds } := by
  induction ds generalizing l with
  | nil => simp [closes]
  | cons d rest ih =>
      rw [closes, List.map_cons, after_cons]
      exact (ih _).trans (by rw [Holdings.without_cons]; rfl)

end Ledger

end LineShell
