import LineShell.Builtin.ChangeDirectory
import LineShell.Proofs.Surroundings
import LineShell.Sink.Bounded

/-!
What the command `cd` does to the surroundings. It goes to a directory and notes the one that it has
left, or it fails and does neither; and it does nothing else.
-/

namespace LineShell

/-- What each write to the sink leaves as it is, writing texts one after another does too. -/
theorem Sink.writeAll_keeps {σ γ : Type} {sink : Sink σ} (part : σ → γ)
    (h : ∀ bytes s, part (sink.write bytes s).2 = part s) (texts : List String) (s : σ) :
    part (sink.writeAll texts s).2 = part s := by
  induction texts generalizing s with
  | nil => rfl
  | cons text rest ih =>
      have hwrite := h (Utf8.encode text) s
      simp only [Sink.writeAll, bind_apply]
      rcases hanswer : sink.write (Utf8.encode text) s with ⟨answer, s'⟩
      rw [hanswer] at hwrite
      cases answer with
      | ok _ => exact (ih s').trans hwrite
      | error fault => exact hwrite

namespace Builtin.ChangeDirectory

variable {δ ρ σ : Type} (naming : Naming δ ρ)

/-- The directory for which an argument asks, if it asks for one. -/
def asked? (v : Surroundings δ ρ) (arg : String) : Option SystemText :=
  if arg = "~" then v.home? naming
  else if arg = "-" then v.settings previousVariable
  else some (.ofText arg)

/-- Why an argument asks for nothing. -/
def unset (arg : String) : Error :=
  if arg = "~" then failure "cd: HOME not set" else failure "cd: OLDPWD not set"

/-- What is shown of the directory before it is gone to. -/
def shown (arg : String) (path : SystemText) : List String :=
  if arg = "-" then [path.shown, "\n"] else []

/-- The surroundings after a directory has been left for another one. -/
def left (v : Surroundings δ ρ) (d : δ) : Surroundings δ ρ :=
  match naming.nameOf v.others v.directory with
  | .ok name => { v with directory := d }.assign previousVariable name
  | .error _ => { v with directory := d }

theorem directory_left (v : Surroundings δ ρ) (d : δ) : (left naming v d).directory = d := by
  rw [left]
  split <;> rfl

theorem others_left (v : Surroundings δ ρ) (d : δ) : (left naming v d).others = v.others := by
  rw [left]
  split <;> rfl

theorem settings_left (v : Surroundings δ ρ) (d : δ) :
    (left naming v d).settings = match naming.nameOf v.others v.directory with
      | .ok name => Function.update v.settings "OLDPWD" (some name)
      | .error _ => v.settings := by
  rw [left]
  split <;> rfl

/-- What comes of going to a directory. -/
def gone (v : Surroundings δ ρ) (path : SystemText) : Except Error Status × Surroundings δ ρ :=
  match naming.find v.others v.directory path with
  | .ok d => (.ok .success, left naming v d)
  | .error fault => (.error (failure ("cd: " ++ path.shown ++ ": " ++ fault.message)), v)

section Governed

variable {naming} [Environment σ] {view : σ → Surroundings δ ρ} (h : naming.Governs view)

include h

theorem seen_goTo (path : SystemText) (s : σ) :
    seen view (goTo path) s = gone naming (view s) path := by
  have hmoved := h.changeDirectory path s
  rw [Surroundings.moved] at hmoved
  simp only [seen, goTo, gone, bind_apply, h.currentDirectory]
  cases hfind : naming.find (view s).others (view s).directory path with
  | error fault =>
      rw [hfind] at hmoved
      obtain ⟨hresult, hview⟩ := Prod.mk.inj hmoved
      rw [hresult, ← hview]
      rfl
  | ok d =>
      rw [hfind] at hmoved
      obtain ⟨hresult, hview⟩ := Prod.mk.inj hmoved
      dsimp only
      rw [hresult, left, ← hview]
      cases naming.nameOf (view s).others (view s).directory with
      | error e => rfl
      | ok name => exact congrArg _ (Prod.mk.inj (h.setVariable previousVariable name _)).2

theorem destination_apply (sink : Sink σ) (arg : String) (s : σ) :
    destination sink arg s =
      match asked? naming (view s) arg with
      | none => (.error (unset arg), s)
      | some path =>
          let told := sink.writeAll (shown arg path) s
          match told.1 with
          | .ok () => (.ok path, told.2)
          | .error fault => (.error (.stream fault), told.2) := by
  rw [destination.eq_def]
  split
  · rw [bind_apply, h.home?, asked?, if_pos rfl]
    cases (view s).home? naming <;> rfl
  · have hasked : asked? naming (view s) "-" = (view s).settings previousVariable := rfl
    rw [bind_apply, h.value?, hasked]
    cases (view s).settings previousVariable with
    | none => rfl
    | some previous =>
        have hshown : shown "-" previous = [previous.shown, "\n"] := rfl
        dsimp only
        rw [bind_apply, hshown]
        cases (sink.writeAll [previous.shown, "\n"] s).1 <;> rfl
  · rename_i htilde hdash
    rw [asked?, if_neg htilde, if_neg hdash]
    dsimp only
    rw [shown, if_neg hdash]
    rfl

/-- What comes of the command, and all that it does to the surroundings. -/
theorem seen_body (call : Invocation σ) (s : σ) :
    seen view (body call) s =
      match call.argv[1]? with
      | none => (.error (failure "expected a path for 'cd'!"), view s)
      | some arg =>
          match asked? naming (view s) arg with
          | none => (.error (unset arg), view s)
          | some path =>
              let told := call.sink.writeAll (shown arg path) s
              match told.1 with
              | .ok () => gone naming (view told.2) path
              | .error fault => (.error (.stream fault), view told.2) := by
  rw [body]
  cases call.argv[1]? with
  | none => rfl
  | some arg =>
      dsimp only
      rw [seen, bind_apply, destination_apply h]
      cases asked? naming (view s) arg with
      | none => rfl
      | some path =>
          dsimp only
          cases (call.sink.writeAll (shown arg path) s).1 with
          | error fault => rfl
          | ok _ => exact seen_goTo h path _

variable (naming view) in
/-- The arguments ask for a directory; it can be shown, if it is to be shown, and then it is there. -/
def Granted (call : Invocation σ) (s : σ) : Prop :=
  ∃ arg path d, call.argv[1]? = some arg ∧ asked? naming (view s) arg = some path ∧
    let told := call.sink.writeAll (shown arg path) s
    told.1 = .ok () ∧ naming.find (view told.2).others (view told.2).directory path = .ok d

/-- The command fails, and has done no more than to write to the sink, or it goes to the directory
that it is asked for. -/
theorem body_cases (call : Invocation σ) (s : σ) :
    (∃ e texts, seen view (body call) s = (.error e, view (call.sink.writeAll texts s).2) ∧
      ¬ Granted naming view call s) ∨
    ∃ arg path d, call.argv[1]? = some arg ∧ asked? naming (view s) arg = some path ∧
      let told := call.sink.writeAll (shown arg path) s
      (told.1 = .ok () ∧ naming.find (view told.2).others (view told.2).directory path = .ok d) ∧
      seen view (body call) s = (.ok .success, left naming (view told.2) d) := by
  rw [seen_body h]
  cases harg : call.argv[1]? with
  | none => exact .inl ⟨_, [], rfl, by simp [Granted, harg]⟩
  | some arg =>
      dsimp only
      cases hasked : asked? naming (view s) arg with
      | none => exact .inl ⟨_, [], rfl, by simp [Granted, harg, hasked]⟩
      | some path =>
          dsimp only
          cases hanswer : (call.sink.writeAll (shown arg path) s).1 with
          | error fault =>
              exact .inl ⟨_, shown arg path, rfl, by simp [Granted, harg, hasked, hanswer]⟩
          | ok _ =>
              dsimp only
              rw [gone]
              cases hfind : naming.find _ _ path with
              | error fault =>
                  exact .inl ⟨_, shown arg path, rfl, by simp [Granted, harg, hasked, hfind]⟩
              | ok d => exact .inr ⟨arg, path, d, rfl, hasked, ⟨hanswer, hfind⟩, rfl⟩

/-- If the command fails, for whatever reason, the current directory and all variables are what they
were. If it succeeds, the current directory is the one asked for, and of the variables `OLDPWD` alone
is changed: to the name of the directory that was left, or not at all if that cannot be named. It
succeeds just if what it is asked for can be done, and of all else it changes no part that writing to
the sink leaves as it is. -/
theorem body_all_or_nothing (call : Invocation σ)
    (hsink : ∀ bytes s, (view (call.sink.write bytes s).2).directory = (view s).directory ∧
      (view (call.sink.write bytes s).2).settings = (view s).settings) (s : σ) :
    let before := view s
    let after := view (body call s).2
    (∀ e, (body call s).1 = .error e →
      after.directory = before.directory ∧ after.settings = before.settings) ∧
    (∀ status, (body call s).1 = .ok status → status = .success ∧
      ∃ arg path, call.argv[1]? = some arg ∧ asked? naming before arg = some path ∧
        naming.find after.others before.directory path = .ok after.directory ∧
        after.settings = match naming.nameOf after.others before.directory with
          | .ok name => Function.update before.settings "OLDPWD" (some name)
          | .error _ => before.settings) ∧
    ((body call s).1.isOk = true ↔ Granted naming view call s) ∧
    ∀ {γ : Type} (part : ρ → γ),
      (∀ bytes s, part (view (call.sink.write bytes s).2).others = part (view s).others) →
        part after.others = part before.others := by
  intro before after
  have hdirectory (texts : List String) :
      (view (call.sink.writeAll texts s).2).directory = before.directory :=
    Sink.writeAll_keeps (fun s => (view s).directory) (fun bytes s => (hsink bytes s).1) texts s
  have hsettings (texts : List String) :
      (view (call.sink.writeAll texts s).2).settings = before.settings :=
    Sink.writeAll_keeps (fun s => (view s).settings) (fun bytes s => (hsink bytes s).2) texts s
  have hothers {γ : Type} (part : ρ → γ)
      (hpart : ∀ bytes s, part (view (call.sink.write bytes s).2).others = part (view s).others)
      (texts : List String) :
      part (view (call.sink.writeAll texts s).2).others = part before.others :=
    Sink.writeAll_keeps (fun s => part (view s).others) hpart texts s
  rcases body_cases h call s with ⟨e, texts, hseen, hnot⟩ | ⟨arg, path, d, harg, hasked, htold, hseen⟩
  · obtain ⟨hresult, hafter⟩ : (body call s).1 = .error e ∧ after = _ := Prod.mk.inj hseen
    rw [hresult, hafter]
    refine ⟨fun _ _ => ⟨hdirectory texts, hsettings texts⟩, by rintro status ⟨⟩, ?_, ?_⟩
    · exact iff_of_false (by simp [Except.isOk, Except.toBool]) hnot
    · exact fun part hpart => hothers part hpart texts
  · obtain ⟨hresult, hafter⟩ : (body call s).1 = .ok .success ∧ after = _ := Prod.mk.inj hseen
    have hfind := htold.2
    rw [hdirectory] at hfind
    rw [hresult, hafter, directory_left, settings_left, others_left, hdirectory, hsettings]
    refine ⟨by rintro e ⟨⟩, ?_, ?_, ?_⟩
    · rintro status ⟨⟩
      exact ⟨rfl, arg, path, harg, hasked, hfind, rfl⟩
    · exact iff_of_true rfl ⟨arg, path, d, harg, hasked, htold⟩
    · exact fun part hpart => hothers part hpart _

end Governed

/-- A directory at the root, and one that has been removed, in which the shell works. -/
def removed : Machine :=
  let tree : Machine.FileTree := ⟨#[
    { content := .directory [("a", 1)] 0, mode := 0o755 },
    { content := .directory [] 0, mode := 0o755 },
    { content := .directory [] 0, mode := 0o755, names := 0 }]⟩
  Machine.start tree 2 [("OLDPWD", "/a")] []

/-- The way back cannot be shown where there is no room for it, and then nothing is done. Otherwise
the shell goes there, but the name of the directory that has been removed cannot be noted. -/
theorem body_all_or_nothing_removed :
    let call : Invocation (Machine × Bounded) :=
      { topics := [], argv := ["cd", "-"], sink := Bounded.sink, onward := pure none }
    let before := removed.surroundings
    let cramped := (body call (removed, { room := some 2 })).2.1.surroundings
    let after := (body call (removed, {})).2.1.surroundings
    (cramped.directory = before.directory ∧ cramped.settings = before.settings) ∧
      before.directory = 2 ∧ after.directory = 1 ∧ after.settings = before.settings := by
  intro call before cramped after
  have hgoverns : Machine.naming.Governs fun p : Machine × Bounded => p.1.surroundings :=
    Machine.governs_surroundings.beside
  obtain ⟨hfailed, -, -, -⟩ :=
    body_all_or_nothing hgoverns call (fun _ _ => ⟨rfl, rfl⟩) (removed, { room := some 2 })
  obtain ⟨-, hdone, -, hothers⟩ :=
    body_all_or_nothing hgoverns call (fun _ _ => ⟨rfl, rfl⟩) (removed, {})
  have hcramped : (body call (removed, { room := some 2 })).1 = .error (.stream Bounded.isFull) := by
    cbv
  have hafter : (body call (removed, {})).1 = .ok .success := by cbv
  obtain ⟨-, arg, path, harg, hasked, hfind, hsettings⟩ := hdone _ hafter
  have hsame : after.others = before.others := hothers id fun _ _ => rfl
  obtain rfl : "-" = arg := Option.some.inj harg
  have hpath : asked? Machine.naming before "-" = some (.ofText "/a") := by cbv
  obtain rfl : .ofText "/a" = path := Option.some.inj (hpath.symm.trans hasked)
  have hfound : Machine.naming.find before.others before.directory (.ofText "/a") = .ok 1 := by cbv
  have hunnamed : Machine.naming.nameOf before.others before.directory = .error .noEntry := by cbv
  rw [hsame] at hfind hsettings
  rw [hunnamed] at hsettings
  exact ⟨hfailed _ hcramped, rfl, Except.ok.inj (hfind.symm.trans hfound), hsettings⟩

end Builtin.ChangeDirectory

end LineShell
