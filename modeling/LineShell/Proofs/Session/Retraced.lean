import LineShell.Proofs.Session.Trail

/-!
To and fro with `cd -`. Once `cd` has taken the shell from one directory to another, each `cd -` takes
it to the other one of the two, whatever is done in between, for as long as `cd` goes nowhere else. It
makes no difference whether the jobs are those of one line or of several, for these run as one
(`executeLines_eq_executeLine`).
-/

namespace LineShell

open Builtin.ChangeDirectory (left previousVariable)

/-- A directory, and its name. -/
structure Place (δ : Type) where
  directory : δ
  name : SystemText

/-- Both places have their names, and can be reached by them from one another. -/
structure Naming.Links {δ ρ : Type} (naming : Naming δ ρ) (others : ρ) (p q : Place δ) : Prop where
  nameOf_fst : naming.nameOf others p.directory = .ok p.name
  nameOf_snd : naming.nameOf others q.directory = .ok q.name
  find_fst : naming.find others q.directory p.name = .ok p.directory
  find_snd : naming.find others p.directory q.name = .ok q.directory

theorem Naming.Links.symm {δ ρ : Type} {naming : Naming δ ρ} {others : ρ} {p q : Place δ}
    (h : naming.Links others p q) : naming.Links others q p :=
  ⟨h.nameOf_snd, h.nameOf_fst, h.find_snd, h.find_fst⟩

/-- The directory and the variables of a shell that is in one place and has come from another. -/
def poised {δ : Type} (settings : String → Option SystemText) (here there : Place δ) :
    δ × (String → Option SystemText) :=
  (here.directory, Function.update settings "OLDPWD" (some there.name))

/-- The one where the number is even, else the other. -/
def alternate {α : Type} (a b : α) (n : Nat) : α := if n % 2 = 0 then a else b

theorem alternate_succ {α : Type} (a b : α) (n : Nat) : alternate a b (n + 1) = alternate b a n := by
  rcases Nat.mod_two_eq_zero_or_one n with h | h
  · simp [alternate, h, Nat.succ_mod_two_eq_one_iff.mpr h]
  · simp [alternate, h, Nat.succ_mod_two_eq_zero_iff.mpr h]

theorem alternate_of_even {α : Type} (a b : α) {n : Nat} (h : Even n) : alternate a b n = a :=
  if_pos (Nat.even_iff.mp h)

theorem Naming.Links.alternate {δ ρ : Type} {naming : Naming δ ρ} {others : ρ} {p q : Place δ}
    (h : naming.Links others p q) (n : Nat) :
    naming.Links others (alternate p q n) (alternate q p n) := by
  rcases Nat.mod_two_eq_zero_or_one n with hn | hn
  · simpa [LineShell.alternate, hn] using h
  · simpa [LineShell.alternate, hn] using h.symm

variable {κ δ ρ : Type} [Kernel κ] {naming : Naming δ ρ} {view : κ → Surroundings δ ρ}
  {commands : List Spoken}

theorem Builtin.ChangeDirectory.own_left {v : Surroundings δ ρ} {name : SystemText}
    (h : naming.nameOf v.others v.directory = .ok name) (d : δ) :
    (left naming v d).own = (d, Function.update v.settings "OLDPWD" (some name)) := by
  rw [Surroundings.own, directory_left, settings_left, h]

namespace Stage

variable (view) (commands) (stage : Stage (Recorded κ))

/-- The stage is one of `cd -`, which is run. -/
def isReturn : Bool :=
  stage.argv.take 2 == ["cd", "-"] && (stage.answer (Spoken.registry commands)).isSome

/-- How many of the stages are such. -/
def returns (stages : List (Stage (Recorded κ))) : Nat := stages.countP (isReturn commands)

/-- The stage finds the shell poised between two places. If it is one of `cd -` it says the name of
the other place and goes there, else it leaves the shell where it is. -/
structure Swings (settings : String → Option SystemText) (here there : Place δ) : Prop where
  found : ownAround view stage.console = poised settings here there
  returned : stage.isReturn commands = true →
    stage.answer (Spoken.registry commands) = some (.ok .success) ∧
      stage.output commands = Utf8.encode (there.name.shown ++ "\n") ∧
      ownAround view (stage.turn (Spoken.registry commands)).2 = poised settings there here
  stayed : stage.isReturn commands = false →
    ownAround view (stage.turn (Spoken.registry commands)).2 = poised settings here there

variable {view} {commands} {stage} (hgoverns : naming.Governs view) (hsheltered : Sheltered view)
  (hmoves : Spoken.OnlyMoves commands)
  (honly : stage.hasMoved commands = true → stage.argv[1]? = some "-")

include hgoverns hsheltered hmoves honly

theorem swings {settings : String → Option SystemText} {here there : Place δ}
    (hlinks : naming.Links (around view stage.console).others here there)
    (hwhole : ∀ e ∈ (stage.turn (Spoken.registry commands)).2.kernel.log, e.IsWhole)
    (hempty : stage.console.buffered = [])
    (hfound : ownAround view stage.console = poised settings here there) :
    stage.Swings view commands settings here there := by
  obtain ⟨hhere, hsettings⟩ := Prod.mk.inj hfound
  refine ⟨hfound, fun hreturn => ?_, fun hnot => ?_⟩
  · obtain ⟨hargv, hrun⟩ := Bool.and_eq_true_iff.mp hreturn
    obtain ⟨rest, hargv⟩ : ∃ rest, stage.argv = "cd" :: "-" :: rest :=
      ⟨stage.argv.drop 2, by rw [← List.take_append_drop 2 stage.argv, eq_of_beq hargv]; rfl⟩
    have hold : (around view stage.console).settings previousVariable = some there.name := by
      rw [hsettings]
      exact Function.update_self ..
    have hfind : naming.find (around view stage.console).others
        (around view stage.console).directory there.name = .ok there.directory := by
      rw [hhere]
      exact hlinks.find_snd
    obtain ⟨hanswer, hsaid, hown⟩ :=
      returned hgoverns hsheltered hmoves hargv hrun hwhole hold hfind
    refine ⟨hanswer, (output_eq_said hwhole hempty).1.trans hsaid, hown.trans ?_⟩
    have hname : naming.nameOf (around view stage.console).others
        (around view stage.console).directory = .ok here.name := by
      rw [hhere]
      exact hlinks.nameOf_fst
    rw [Builtin.ChangeDirectory.own_left hname, hsettings, poised, Function.update_idem]
  · have hstill : ¬ stage.hasMoved commands = true := by
      intro hmoved
      obtain ⟨hhead, status, hanswer⟩ := hasMoved_iff.mp hmoved
      obtain ⟨args, hargv⟩ := List.head?_eq_some_iff.mp hhead
      have harg : args[0]? = some "-" := by
        have := honly hmoved
        rwa [hargv] at this
      obtain ⟨rest, rfl⟩ : ∃ rest, args = "-" :: rest := by
        rw [← List.head?_eq_getElem?] at harg
        exact List.head?_eq_some_iff.mp harg
      simp [isReturn, hargv, hanswer] at hnot
    rw [own_turn_of_not_hasMoved hgoverns hsheltered hmoves hstill, hfound]

end Stage

/-! ### The way through all stages -/

section Trail

variable (hgoverns : naming.Governs view) (hsheltered : Sheltered view)
  (hmoves : Spoken.OnlyMoves commands) {settings : String → Option SystemText}

include hgoverns hsheltered hmoves

/-- A shell that is poised between two places is so after any stages that take it nowhere else. How
often it has gone back tells in which of the two it is. -/
theorem Trail.own_after {here there : Place δ} {stages : List (Stage (Recorded κ))}
    {c after : Console (Recorded κ)}
    (htrail : Trail view (Spoken.registry commands) stages c after)
    (hwhole : ∀ e ∈ after.kernel.log, e.IsWhole) (hempty : c.buffered = [])
    (hfound : ownAround view c = poised settings here there)
    (hlinks : ∀ stage ∈ stages, naming.Links (around view stage.console).others here there)
    (honly : ∀ stage ∈ stages, stage.hasMoved commands = true → stage.argv[1]? = some "-") :
    ownAround view after = poised settings (alternate here there (Stage.returns commands stages))
      (alternate there here (Stage.returns commands stages)) := by
  -- By induction on the way, for both ways round: after each `cd -` the two places have changed parts.
  induction htrail generalizing here there with
  | nil hidle => exact hidle.stays.part.trans hfound
  | @cons c after stage rest hidle hrest ih =>
      obtain ⟨hlinked, hlinks⟩ := List.forall_mem_cons.mp hlinks
      obtain ⟨honly, hlater⟩ := List.forall_mem_cons.mp honly
      have hturn : ∀ e ∈ (stage.turn (Spoken.registry commands)).2.kernel.log, e.IsWhole :=
        fun e he => hwhole e (hrest.log.subset he)
      have hempty' : stage.console.buffered = [] := hidle.buffered.trans hempty
      have hstage := Stage.swings hgoverns hsheltered hmoves honly hlinked hturn hempty'
        (hidle.stays.part.trans hfound)
      have hnext := (Stage.output_eq_said hturn hempty').2
      cases hreturn : stage.isReturn commands with
      | true =>
          rw [Stage.returns, List.countP_cons_of_pos hreturn, alternate_succ, alternate_succ]
          exact ih hwhole hnext (hstage.returned hreturn).2.2 (fun s hs => (hlinks s hs).symm) hlater
      | false =>
          have hnot : ¬ stage.isReturn commands = true := by simp [hreturn]
          rw [Stage.returns, List.countP_cons_of_neg hnot]
          exact ih hwhole hnext (hstage.stayed hreturn) hlinks hlater

/-- So it is poised between them at each of the stages. -/
theorem Trail.swings {here there : Place δ} {before rest : List (Stage (Recorded κ))}
    {stage : Stage (Recorded κ)} {c after : Console (Recorded κ)}
    (htrail : Trail view (Spoken.registry commands) (before ++ stage :: rest) c after)
    (hwhole : ∀ e ∈ after.kernel.log, e.IsWhole) (hempty : c.buffered = [])
    (hfound : ownAround view c = poised settings here there)
    (hlinks : ∀ s ∈ before ++ stage :: rest, naming.Links (around view s.console).others here there)
    (honly : ∀ s ∈ before ++ stage :: rest, s.hasMoved commands = true → s.argv[1]? = some "-") :
    stage.Swings view commands settings (alternate here there (Stage.returns commands before))
      (alternate there here (Stage.returns commands before)) := by
  obtain ⟨c', hbefore, hon⟩ := htrail.exists_of_append
  obtain ⟨hlinks, hlinked⟩ := List.forall_mem_append.mp hlinks
  obtain ⟨honly, honly'⟩ := List.forall_mem_append.mp honly
  cases hon with
  | cons hidle hrest =>
      have hturn : ∀ e ∈ (stage.turn (Spoken.registry commands)).2.kernel.log, e.IsWhole :=
        fun e he => hwhole e (hrest.log.subset he)
      have hlog : c'.kernel.log <+: (stage.turn (Spoken.registry commands)).2.kernel.log :=
        hidle.stays.log.trans (stage.log_turn commands)
      have hwhole' : ∀ e ∈ c'.kernel.log, e.IsWhole := fun e he => hturn e (hlog.subset he)
      have hfound' := hbefore.own_after hgoverns hsheltered hmoves hwhole' hempty hfound hlinks honly
      exact Stage.swings hgoverns hsheltered hmoves (honly' _ List.mem_cons_self)
        ((hlinked _ List.mem_cons_self).alternate _) hturn
        (hidle.buffered.trans (hbefore.buffered hwhole' hempty))
        (hidle.stays.part.trans hfound')

end Trail

namespace Session

/-- Once `cd` has taken the shell from `p` to `q`, it is poised between the two before and after each
later stage of any job, if every write succeeds, both can be reached by their names, and `cd` takes it
nowhere else. Every `cd -` that is run succeeds, says the name of the other place and goes there, and
nothing else moves the shell. So it is where it was, with the same variables, after an even number of
them. -/
theorem retraced (hgoverns : naming.Governs view) (hsheltered : Sheltered view)
    (hmoves : Spoken.OnlyMoves commands) (jobs : List Job) (last : ExitStatus) (status : Status)
    (k : κ) :
    let c : Console (Recorded κ) := { kernel := { kernel := k } }
    let after := (executeJobs (executor commands) last status jobs c).2
    (∀ e ∈ after.kernel.log, e.IsWhole) →
    ∀ (earlier : List (Stage (Recorded κ))) (mover : Stage (Recorded κ))
      (later : List (Stage (Recorded κ))) (p q : Place δ),
      stages commands jobs c = earlier ++ mover :: later → mover.hasMoved commands = true →
      (around view mover.console).directory = p.directory →
      (around view (mover.turn (Spoken.registry commands)).2).directory = q.directory →
      (∀ stage ∈ mover :: later, naming.Links (around view stage.console).others q p) →
      (∀ stage ∈ later, stage.hasMoved commands = true → stage.argv[1]? = some "-") →
      let settings := (around view mover.console).settings
      let moved := ownAround view (mover.turn (Spoken.registry commands)).2
      moved = poised settings q p ∧
        (∀ before stage rest, later = before ++ stage :: rest →
          stage.Swings view commands settings (alternate q p (Stage.returns commands before))
            (alternate p q (Stage.returns commands before))) ∧
        ownAround view after = poised settings (alternate q p (Stage.returns commands later))
          (alternate p q (Stage.returns commands later)) ∧
        (Even (Stage.returns commands later) → ownAround view after = moved) := by
  intro c after hwhole earlier mover later p q hstages hmover hp hq hlinks honly settings moved
  obtain ⟨hlinked, hlinks⟩ := List.forall_mem_cons.mp hlinks
  have htrail := trail_executeJobs hsheltered commands jobs last status c
  rw [hstages] at htrail
  obtain ⟨c₁, hearlier, hon⟩ := htrail.exists_of_append
  cases hon with
  | cons hidle hlater =>
      have hturn : ∀ e ∈ (mover.turn (Spoken.registry commands)).2.kernel.log, e.IsWhole :=
        fun e he => hwhole e (hlater.log.subset he)
      have hbuffered : mover.console.buffered = [] := by
        refine hidle.buffered.trans (hearlier.buffered (fun e he => ?_) rfl)
        exact hturn e ((hidle.stays.log.trans (mover.log_turn commands)).subset he)
      have hempty := (Stage.output_eq_said hturn hbuffered).2
      have hmoved : moved = poised settings q p := by
        obtain ⟨d, hown⟩ := Stage.own_turn_of_hasMoved hgoverns hsheltered hmoves hmover
        rw [Builtin.ChangeDirectory.own_left (hp ▸ hlinked.nameOf_snd)] at hown
        obtain rfl : q.directory = d := hq.symm.trans (congrArg Prod.fst hown)
        exact hown
      have hafter := hlater.own_after hgoverns hsheltered hmoves hwhole hempty hmoved hlinks honly
      refine ⟨hmoved, fun before stage rest heq => ?_, hafter, fun heven => ?_⟩
      · subst heq
        exact hlater.swings hgoverns hsheltered hmoves hwhole hempty hmoved hlinks honly
      · rw [hafter, hmoved, alternate_of_even q p heven, alternate_of_even p q heven]

namespace Wandering

/-- From the root to `/b`, and back and forth, once in a pipeline. In between nothing comes of a
command that does not say where to go. -/
def jobs : List Job := [.ofArgvs [["cd", "/b"]], .ofArgvs [["cd", "-"], ["cat"]],
  .ofArgvs [["cd"]], .ofArgvs [["cd", "-"]]]

def root : Place SystemText := ⟨"/", "/"⟩

def away : Place SystemText := ⟨"/b", "/b"⟩

/-- The system before the first job. -/
def outset : Rehearsal := {}

/-- The state that the first job leaves. -/
def gone : Console (Recorded Rehearsal) where
  kernel := { kernel := { directory := "/b", settings := [(previousVariable, "/")] } }

/-- The state in which the first task of the second job is started. -/
def entered : Console (Recorded Rehearsal) where
  kernel :=
    { kernel := { gone.kernel.kernel with inUse := [4, 3, 0, 1, 2] }, log := [.piped (.ok (3, 4))] }

/-- The state that the second job leaves, and the third one too. -/
def home : Console (Recorded Rehearsal) where
  kernel :=
    { kernel := { lastPid := 2, settings := (previousVariable, "/b") :: gone.kernel.kernel.settings }
      log := [.piped (.ok (3, 4)), .duplicated 1 (.ok 5), .replaced 4 1 (.ok ()),
        .wrote 1 (Utf8.encode "/\n") (.ok ()), .replaced 5 1 (.ok ()), .closed 5, .closed 4,
        .forked ⟨["cat"], [(3, 0)], [3]⟩ (.ok 2), .closed 3, .waited 2] }

def first : Stage (Recorded Rehearsal) := .first none [] ["cd", "/b"] { kernel := { kernel := outset } }

def second : Stage (Recorded Rehearsal) := .first none [⟨3, 4⟩] ["cd", "-"] entered

def program : Stage (Recorded Rehearsal) :=
  .first (some 3) [] ["cat"] (second.done (Spoken.registry mover))

def third : Stage (Recorded Rehearsal) := .first none [] ["cd"] home

def fourth : Stage (Recorded Rehearsal) := .first none [] ["cd", "-"] home

theorem stages_jobs : stages mover jobs { kernel := { kernel := outset } } =
    [] ++ first :: [second, program, third, fourth] := by
  have hone (argv : List String) (c : Console (Recorded Rehearsal)) :
      (Job.ofArgvs [argv]).stagesOf (Spoken.registry mover) c = [.first none [] argv c] :=
    (congrArg _ (ite_self _)).trans rfl
  have hgone : passed (executor mover) (.ofArgvs [["cd", "/b"]]) { kernel := { kernel := outset } } =
      some gone := by cbv
  have hhome : passed (executor mover) (.ofArgvs [["cd", "-"], ["cat"]]) gone = some home := by cbv
  have hstill : passed (executor mover) (.ofArgvs [["cd"]]) home = some home := by cbv
  have hgoesOn : (second.turn (Spoken.registry mover)).1.isLast = false := by cbv
  have hpair : (Job.ofArgvs [["cd", "-"], ["cat"]]).stagesOf (Spoken.registry mover) gone =
      [second, program] := by
    have hstages : (Job.ofArgvs [["cd", "-"], ["cat"]]).stagesOf (Spoken.registry mover) gone =
        Job.stages (Spoken.registry mover) none [⟨3, 4⟩] [["cd", "-"], ["cat"]] entered := rfl
    rw [hstages, Job.stages, Job.stages, Job.stages, ite_self, ← second, hgoesOn]
    rfl
  rw [jobs, stages_cons, hgone, Option.elim_some, stages_cons, hhome, Option.elim_some, stages_cons,
    hstill, Option.elim_some, stages_singleton, hone, hpair, hone, hone]
  rfl

theorem log_jobs : (executeJobs (executor mover) .success .success jobs
    { kernel := { kernel := outset } }).2.kernel.log =
      home.kernel.log ++ [.wrote 1 (Utf8.encode "/b\n") (.ok ())] := by
  cbv

theorem returns_jobs : (second.isReturn mover = true ∧ fourth.isReturn mover = true) ∧
    Stage.returns mover [second, program, third] = 1 ∧
    Stage.returns mover [second, program, third, fourth] = 2 := by
  have hsecond : second.isReturn mover = true := by cbv
  have hprogram : program.isReturn mover = false := rfl
  have hthird : third.isReturn mover = false := rfl
  have hfourth : fourth.isReturn mover = true := by cbv
  simp [Stage.returns, hsecond, hprogram, hthird, hfourth]

end Wandering

open Wandering in
/-- It is said in the pipeline where the shell goes, and after that in the last job that it goes to
`/b` again; and so all is as it was after the first one. -/
theorem retraced_wandering :
    let after := (executeJobs (executor mover) .success .success jobs
      { kernel := { kernel := outset } }).2
    let moved := (first.turn (Spoken.registry mover)).2
    let settings := (around Rehearsal.surroundings first.console).settings
    ownAround Rehearsal.surroundings moved = poised settings away root ∧
      second.output mover = Utf8.encode "/\n" ∧
      ownAround Rehearsal.surroundings (second.turn (Spoken.registry mover)).2 =
        poised settings root away ∧
      fourth.output mover = Utf8.encode "/b\n" ∧
      ownAround Rehearsal.surroundings after = ownAround Rehearsal.surroundings moved := by
  intro after moved settings
  have hmoves : Spoken.OnlyMoves mover :=
    ⟨rfl, fun command hmem hne => absurd (congrArg (·.name) (List.mem_singleton.mp hmem)) hne⟩
  have hfirst : first.hasMoved mover = true := by cbv
  have hthird : third.hasMoved mover = false := by cbv
  have honly : ∀ stage ∈ [second, program, third, fourth], stage.hasMoved mover = true →
      stage.argv[1]? = some "-" := by
    simp only [List.mem_cons, List.not_mem_nil, or_false]
    rintro stage (rfl | rfl | rfl | rfl) hstage
    · rfl
    · cases hstage
    · rw [hthird] at hstage
      cases hstage
    · rfl
  have hdirectory : (around Rehearsal.surroundings moved).directory = "/b" := by cbv
  have hwhole : ∀ e ∈ (executeJobs (executor mover) .success .success jobs
      { kernel := { kernel := outset } }).2.kernel.log, e.IsWhole := by
    rw [log_jobs]
    simp [home, Event.IsWhole]
  obtain ⟨hmoved, hswings, -, heven⟩ := retraced Rehearsal.governs_surroundings
    Rehearsal.sheltered_surroundings hmoves jobs .success .success outset hwhole [] first
    [second, program, third, fourth] root away stages_jobs hfirst rfl hdirectory
    (fun _ _ => ⟨rfl, rfl, rfl, rfl⟩) honly
  obtain ⟨⟨hreturn, hreturn'⟩, hone, htwo⟩ := returns_jobs
  have hsecond := (hswings [] second _ rfl).returned hreturn
  have hfourth := (hswings [second, program, third] fourth [] rfl).returned hreturn'
  rw [hone] at hfourth
  have htold : (alternate root away 0).name.shown ++ "\n" = "/\n" ∧
      (alternate root away 1).name.shown ++ "\n" = "/b\n" := by
    constructor <;> cbv
  refine ⟨hmoved, hsecond.2.1.trans (congrArg Utf8.encode htold.1), hsecond.2.2,
    hfourth.2.1.trans (congrArg Utf8.encode htold.2), heven ?_⟩
  rw [htwo]
  decide

end Session

end LineShell
