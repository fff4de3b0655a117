import LineShell.Proofs.Builtin.Dialog
import LineShell.Proofs.Kernel.Sheltered

/-!
Commands that go nowhere. Whatever they are told, they ask for nothing that would change the directory
or a variable, and they do not hand on to other commands; so the shell is after them where it was
before. Of the standard commands `cd` is the only one that is not like that.
-/

namespace LineShell

/-- Asking it changes neither the directory nor a variable. -/
def Question.IsReserved : Question → Prop
  | changeDirectory _ | setVariable _ _ => False
  | _ => True

namespace Dialog

variable {α β : Type}

/-- However the dialog goes, only reserved questions are asked in it, and nothing is handed on. -/
inductive Reserved : Dialog α → Prop
  | ended (a : α) : Reserved (.ended a)
  | say {bytes : Bytes} {next : Except Fault Unit → Dialog α} :
      (∀ answer, Reserved (next answer)) → Reserved (.say bytes next)
  | ask {q : Question} {next : q.Answer → Dialog α} :
      q.IsReserved → (∀ answer, Reserved (next answer)) → Reserved (.ask q next)

theorem Reserved.bind {dialog : Dialog α} {f : α → Dialog β} (h : Reserved dialog)
    (hf : ∀ a, Reserved (f a)) : Reserved (dialog >>= f) := by
  show Reserved (dialog.bind f)
  induction h with
  | ended a => exact hf a
  | say _ ih => exact .say ih
  | ask hq _ ih => exact .ask hq ih

theorem reserved_sayAll (pieces : List Bytes) : Reserved (sayAll pieces) := by
  induction pieces with
  | nil => exact .ended _
  | cons bytes rest ih =>
      exact .say fun
        | .ok () => ih
        | .error _ => .ended _

end Dialog

/-! ### The surroundings after a reserved dialog -/

section Hold

variable {κ δ ρ α : Type} [Kernel κ] {naming : Naming δ ρ} {view : κ → Surroundings δ ρ}
  (hgoverns : naming.Governs view) (hsheltered : Sheltered view)

include hgoverns hsheltered

theorem Question.IsReserved.leaves_put {q : Question} (h : q.IsReserved) :
    Leaves (ownAround view) (q.put : StateM (Console (Recorded κ)) q.Answer) := by
  have hlooks {β : Type} {m : StateM (Console (Recorded κ)) β} (hm : ∀ c, (m c).2 = c) :
      Leaves (ownAround view) m := fun c => by
    rw [hm c]
    exact .refl _ c
  cases q with
  | changeDirectory path => exact h.elim
  | setVariable name value => exact h.elim
  | currentDirectory =>
      exact hlooks fun c => congrArg Prod.snd (hgoverns.around.currentDirectory c)
  | value? name => exact hlooks fun c => congrArg Prod.snd (hgoverns.around.value? name c)
  | accountHome? => exact hlooks fun c => congrArg Prod.snd (hgoverns.around.accountHome? c)
  | complain text => exact (hsheltered.leaves_complain text).map Surroundings.own
  | readInput => exact fun c => ⟨hsheltered.readInput c.kernel.kernel, List.prefix_rfl⟩

theorem Dialog.Reserved.leaves_hold {dialog : Dialog α} (h : dialog.Reserved)
    {call : Invocation (Console (Recorded κ))}
    (hsink : ∀ bytes, Leaves (ownAround view) (call.sink.write bytes)) :
    Leaves (ownAround view) (dialog.hold call) := by
  induction h with
  | ended a => exact .pure a
  | say _ ih => exact .bind (hsink _) ih
  | ask hq _ ih => exact .bind (hq.leaves_put hgoverns hsheltered) ih

end Hold

/-! ### The commands that there are -/

namespace Builtin

theorem Help.reserved_dialog (topics : List Topic) (argv : List String) :
    (spoken.dialog topics argv).Reserved := by
  refine (Dialog.reserved_sayAll _).bind fun answer => ?_
  cases answer with
  | error fault => exact .ended _
  | ok _ => cases missing? topics (argv.drop 1) <;> exact .ended _

theorem Exit.reserved_dialog (topics : List Topic) (argv : List String) :
    (spoken.dialog topics argv).Reserved := by
  simp only [spoken]
  cases argv[1]? with
  | none => exact .ended _
  | some arg =>
      dsimp only
      cases Numeral.signed64? arg with
      | some n => exact .ended _
      | none => exact .ask trivial fun _ => .ended _

end Builtin

namespace Spoken

/-- Of these commands only `cd` goes anywhere. -/
structure OnlyMoves (commands : List Spoken) : Prop where
  cd : commands.find? (·.name = "cd") = some Builtin.ChangeDirectory.spoken
  others : ∀ command ∈ commands, command.name ≠ "cd" → ∀ topics argv,
    (command.dialog topics argv).Reserved

def standard : List Spoken :=
  [Builtin.Help.spoken, Builtin.Exit.spoken, Builtin.ChangeDirectory.spoken]

theorem onlyMoves_standard : OnlyMoves standard where
  cd := rfl
  others command hcommand hname := by
    simp only [standard, List.mem_cons, List.not_mem_nil, or_false] at hcommand
    rcases hcommand with rfl | rfl | rfl
    · exact Builtin.Help.reserved_dialog
    · exact Builtin.Exit.reserved_dialog
    · exact absurd rfl hname

end Spoken

end LineShell
