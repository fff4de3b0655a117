import LineShell.Proofs.Builtin.Informed
import LineShell.Proofs.Builtin.Moved
import LineShell.Proofs.Builtin.Reserved
import LineShell.Proofs.Console.Emitted

/-!
Going back with `cd -`. The command says the name of the directory that was left last, and then goes
there, unless it could not say so.
-/

namespace LineShell

namespace Dialog

variable {σ α β : Type} [Environment σ] (call : Invocation σ) (handed : σ → Bytes)

theorem said_bind (dialog : Dialog α) (f : α → Dialog β) (s : σ) :
    (dialog >>= f).said call handed s =
      dialog.said call handed s ++
        (f (dialog.hold call s).1).said call handed (dialog.hold call s).2 := by
  show (dialog.bind f).said call handed s = _
  induction dialog generalizing s with
  | ended a => rfl
  | say bytes next ih => exact (congrArg (bytes ++ ·) (ih _ _)).trans (List.append_assoc ..).symm
  | ask q next ih => exact ih _ _
  | handOn next ih =>
      exact (congrArg (handed s ++ ·) (ih _ _)).trans (List.append_assoc ..).symm

@[simp] theorem said_pure (a : α) (s : σ) : (pure a : Dialog α).said call handed s = [] := rfl

@[simp] theorem said_put (q : Question) (s : σ) : (put q).said call handed s = [] := rfl

/-- What could be said was said. -/
theorem said_sayAll {pieces : List Bytes} {s : σ}
    (h : ((sayAll pieces).hold call s).1 = .ok ()) :
    (sayAll pieces).said call handed s = pieces.flatten := by
  induction pieces generalizing s with
  | nil => rfl
  | cons bytes rest ih =>
      rw [sayAll, hold, bind_apply] at h
      rw [sayAll, said, List.flatten_cons]
      rcases hanswer : call.sink.write bytes s with ⟨answer, s'⟩
      rw [hanswer] at h
      cases answer with
      | ok _ => exact congrArg (bytes ++ ·) (ih h)
      | error fault => cases h

end Dialog

/-- Texts could be printed unless a write failed. -/
theorem Console.printed_writeAll {κ : Type} [Kernel κ] (texts : List String)
    (c : Console (Recorded κ)) :
    Printed (texts.flatMap Utf8.encode) c (standardOutput.writeAll texts c) := by
  induction texts generalizing c with
  | nil => exact .nothing c
  | cons text rest ih =>
      exact (printed_print (Utf8.encode text) c).bind (fun _ => ih _) fun _ => rfl

namespace Builtin.ChangeDirectory

section Said

variable {σ δ ρ : Type} [Environment σ] {naming : Naming δ ρ} {view : σ → Surroundings δ ρ}

theorem said_goToDialog (call : Invocation σ) (handed : σ → Bytes) (path : SystemText) (s : σ) :
    (goToDialog path).said call handed s = [] := by
  rw [goToDialog, Dialog.said_bind, Dialog.said_put, List.nil_append]
  rw [Dialog.said_bind, Dialog.said_put, List.nil_append]
  generalize (Dialog.hold call (.put .currentDirectory) s).1 = previous
  generalize Dialog.hold call (.put (.changeDirectory path)) _ = changed
  obtain ⟨answer, s'⟩ := changed
  cases answer with
  | error fault => rfl
  | ok _ => cases previous <;> rfl

section Return

variable (h : naming.Governs view) (call : Invocation σ) {name : SystemText} {s : σ}
  (hold : (view s).settings previousVariable = some name)

include hold

omit [Environment σ] in
theorem asked?_return : asked? naming (view s) "-" = some name := hold

include h

theorem destination_return : destination call.sink "-" s =
    match call.sink.writeAll [name.shown, "\n"] s with
    | (.ok (), s) => (.ok name, s)
    | (.error fault, s) => (.error (.stream fault), s) := by
  rw [destination_apply h, asked?_return hold]
  rcases hsay : call.sink.writeAll [name.shown, "\n"] s with ⟨answer, s'⟩
  have hshown : shown "-" name = [name.shown, "\n"] := rfl
  simp only [hshown, hsay]
  cases answer <;> rfl

theorem body_return {rest : List String} (hargv : call.argv = "cd" :: "-" :: rest) :
    body call s =
      match call.sink.writeAll [name.shown, "\n"] s with
      | (.ok (), s) => goTo name s
      | (.error fault, s) => (.error (.stream fault), s) := by
  have harg : call.argv[1]? = some "-" := by rw [hargv]; rfl
  rw [body, harg]
  dsimp only
  rw [bind_apply, destination_return h call hold]
  rcases call.sink.writeAll [name.shown, "\n"] s with ⟨answer, s'⟩
  cases answer <;> rfl

/-- If it can, the command says where it goes back to. -/
theorem said_return (handed : σ → Bytes) (topics : List Topic) (rest : List String)
    (hsay : (call.sink.writeAll [name.shown, "\n"] s).1 = .ok ()) :
    (spoken.dialog topics ("cd" :: "-" :: rest)).said call handed s =
      Utf8.encode (name.shown ++ "\n") := by
  have hsaid : (destinationDialog "-").said call handed s = Utf8.encode (name.shown ++ "\n") := by
    have hlooked : Dialog.hold call (.put (.value? previousVariable)) s = (some name, s) :=
      (h.value? previousVariable s).trans (by rw [hold])
    have hsayAll : (Dialog.hold call (.sayAll ([name.shown, "\n"].map Utf8.encode)) s).1 = .ok () := by
      rw [Dialog.hold_sayAll_encode, hsay]
    show (Dialog.put (.value? previousVariable) >>= _).said call handed s = _
    rw [Dialog.said_bind, Dialog.said_put, List.nil_append, hlooked]
    show (Dialog.sayAll ([name.shown, "\n"].map Utf8.encode) >>= _).said call handed s = _
    rw [Dialog.said_bind, Dialog.said_sayAll call handed hsayAll, hsayAll, Utf8.encode_append]
    simp
  have hgoes : ((destinationDialog "-").hold call s).1 = .ok name := by
    rw [hold_destinationDialog, destination_return h call hold]
    rcases hanswer : call.sink.writeAll [name.shown, "\n"] s with ⟨answer, s'⟩
    rw [hanswer] at hsay
    obtain rfl : answer = .ok () := hsay
    rfl
  show (destinationDialog "-" >>= _).said call handed s = _
  rw [Dialog.said_bind, hsaid, hgoes]
  exact (congrArg _ (said_goToDialog call handed name _)).trans (List.append_nil _)

end Return

end Said

section Console

variable {κ δ ρ : Type} [Kernel κ] {naming : Naming δ ρ} {view : κ → Surroundings δ ρ}
  (hgoverns : naming.Governs view) {call : Invocation (Console (Recorded κ))}
  (hsink : call.sink = Console.standardOutput) {rest : List String}
  (hargv : call.argv = "cd" :: "-" :: rest) {name : SystemText} {c : Console (Recorded κ)}
  (hold : (around view c).settings previousVariable = some name)
  (hwhole : ∀ e ∈ (body call c).2.kernel.log, e.IsWhole)

include hgoverns hsink hargv hold hwhole

/-- Where no write fails, the command can say where it goes back to. -/
theorem wrote_return : (call.sink.writeAll [name.shown, "\n"] c).1 = .ok () := by
  rw [body_return hgoverns.around call hold hargv, hsink] at hwhole
  rw [hsink]
  obtain ⟨events, hlog, _, hfailed⟩ := Console.printed_writeAll [name.shown, "\n"] c
  generalize Console.standardOutput.writeAll [name.shown, "\n"] c = told at hlog hfailed hwhole
  obtain ⟨answer, c'⟩ := told
  cases answer with
  | ok _ => rfl
  | error fault =>
      obtain ⟨e, he, hcut⟩ := hfailed (by simp)
      exact absurd (hwhole e (hlog ▸ List.mem_append_right _ he)) hcut

/-- And then it goes there. -/
theorem seen_return (hsheltered : Sheltered view) {d : δ}
    (hfind : naming.find (around view c).others (around view c).directory name = .ok d) :
    seen (around view) (body call) c =
      ((.ok .success : Except Error Status), left naming (around view c) d) := by
  have hsay := wrote_return hgoverns hsink hargv hold hwhole
  have hstill : around view (call.sink.writeAll [name.shown, "\n"] c).2 = around view c :=
    Sink.writeAll_keeps (around view)
      (fun bytes c => by rw [hsink]; exact (hsheltered.leaves_print bytes c).part) _ c
  rw [seen, body_return hgoverns.around call hold hargv]
  generalize call.sink.writeAll [name.shown, "\n"] c = told at hsay hstill
  obtain ⟨answer, c'⟩ := told
  obtain rfl : answer = .ok () := hsay
  exact (seen_goTo hgoverns.around name c').trans (by rw [hstill, gone, hfind])

end Console

end Builtin.ChangeDirectory

end LineShell
