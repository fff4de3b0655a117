import LineShell.Proofs.Job.Trace
import LineShell.Proofs.Kernel.Ledger
import Mathlib.Data.List.Forall2

/-!
Where the ends of a job's pipes are. While the tasks are started, the shell holds the ends of the
pipes that are still needed, each once, and besides them what it held before. A builtin command
leaves that as it is, and a child gets rid of all ends but those of its own two streams.
-/

namespace LineShell

/-! ### The ends that the shell holds -/

/-- A task is given some of the ends that the shell holds and leaves the others. -/
theorem Pipe.endsFrom_perm (input : Option Descriptor) (pipes : List Pipe) :
    (Pipe.endsFrom input pipes).Perm ((Streams.first input pipes).ends ++ Pipe.left pipes) := by
  cases pipes with
  | nil => simp [Pipe.endsFrom, Pipe.left, Streams.first, Streams.ends]
  | cons pipe later =>
      simp only [Pipe.endsFrom, Pipe.left, Streams.first, Streams.ends, List.flatMap_cons,
        Pipe.ends, List.head?_cons, Option.map_some, Option.toList_some, List.tail_cons,
        List.append_assoc, List.cons_append, List.nil_append]
      exact .append_left _ (.swap ..)

theorem Pipe.endsFrom_snoc (pipes : List Pipe) (pipe : Pipe) :
    Pipe.endsFrom none (pipes ++ [pipe]) = Pipe.endsFrom none pipes ++ pipe.ends := by
  simp [Pipe.endsFrom]

theorem Pipe.mem_endsFrom {input : Option Descriptor} {pipes : List Pipe} {j : Nat} {pipe : Pipe}
    (hj : pipes[j]? = some pipe) {d : Descriptor} (hd : d ∈ pipe.ends) :
    d ∈ Pipe.endsFrom input pipes :=
  List.mem_append_right _ (List.mem_flatMap.mpr ⟨pipe, List.mem_of_getElem? hj, hd⟩)

/-- The shell holds `own`, the reading end of the pipe before task `k`, if there is one, and both
ends of the pipes from there on. -/
structure Laid (own : Holdings) (k : Nat) (input : Option Descriptor) (pipes : List Pipe)
    (t : Holdings) : Prop where
  distinct : (Pipe.endsFrom input pipes).Nodup
  free : ∀ d ∈ Pipe.endsFrom input pipes, own d = none
  inputPort : ∀ d ∈ input, ∃ i, k = i + 1 ∧ t d = some (.reader i)
  pipePorts : ∀ j pipe, pipes[j]? = some pipe →
    t pipe.reader = some (.reader (k + j)) ∧ t pipe.writer = some (.writer (k + j))
  rest : t.without (Pipe.endsFrom input pipes) = own

namespace Laid

variable {own t : Holdings} {k : Nat} {input : Option Descriptor} {pipes : List Pipe}

theorem nil (own : Holdings) (k : Nat) : Laid own k none [] own := by
  constructor <;> simp [Pipe.endsFrom]

theorem apply_of_notMem (h : Laid own k input pipes t) {d : Descriptor}
    (hd : d ∉ Pipe.endsFrom input pipes) : t d = own d := by
  rw [← h.rest, Holdings.without, if_neg hd]

theorem apply_of_own (h : Laid own k input pipes t) {d : Descriptor} {port : Port}
    (hd : own d = some port) : t d = some port := by
  rw [h.apply_of_notMem, hd]
  intro hmem
  simp [h.free d hmem] at hd

/-- An end that is held is the reading end before task `k` or one of a pipe from there on. -/
theorem apply_of_mem (h : Laid own k input pipes t) {d : Descriptor}
    (hd : d ∈ Pipe.endsFrom input pipes) :
    (input.isSome = true ∧ ∃ i, k = i + 1 ∧ t d = some (.reader i)) ∨
      ∃ j < pipes.length, t d = some (.reader (k + j)) ∨ t d = some (.writer (k + j)) := by
  rcases List.mem_append.mp hd with hd | hd
  · have hinput : d ∈ input := by simpa using hd
    exact .inl ⟨Option.isSome_of_mem hinput, h.inputPort d hinput⟩
  · obtain ⟨pipe, hpipe, hd⟩ := List.mem_flatMap.mp hd
    obtain ⟨j, hj⟩ := List.mem_iff_getElem?.mp hpipe
    obtain ⟨hreader, hwriter⟩ := h.pipePorts j pipe hj
    refine .inr ⟨j, (List.getElem?_eq_some_iff.mp hj).1, ?_⟩
    simp only [Pipe.ends, List.mem_cons, List.not_mem_nil, or_false] at hd
    rcases hd with rfl | rfl
    · exact .inl hreader
    · exact .inr hwriter

theorem ne_none_of_mem (h : Laid own k input pipes t) {d : Descriptor}
    (hd : d ∈ Pipe.endsFrom input pipes) : t d ≠ none := by
  rcases h.apply_of_mem hd with ⟨_, i, _, hport⟩ | ⟨j, _, hport | hport⟩ <;> simp [hport]

theorem head_ports (h : Laid own k input pipes t) {pipe : Pipe} (hpipe : pipes.head? = some pipe) :
    t pipe.reader = some (.reader k) ∧ t pipe.writer = some (.writer k) :=
  h.pipePorts 0 pipe (by rw [← hpipe, List.head?_eq_getElem?])

/-- One more pipe is made. -/
theorem snoc (h : Laid own k none pipes t) {reader writer : Descriptor} (hreader : t reader = none)
    (hwriter : t writer = none) (hne : reader ≠ writer) :
    Laid own k none (pipes ++ [⟨reader, writer⟩])
      (Function.update (Function.update t reader (some (.reader (k + pipes.length)))) writer
        (some (.writer (k + pipes.length)))) := by
  have hreader' : reader ∉ Pipe.endsFrom none pipes := fun hd => h.ne_none_of_mem hd hreader
  have hwriter' : writer ∉ Pipe.endsFrom none pipes := fun hd => h.ne_none_of_mem hd hwriter
  have hfree {d : Descriptor} (hd : d ∈ Pipe.ends ⟨reader, writer⟩) :
      d ∉ Pipe.endsFrom none pipes ∧ t d = none := by
    simp only [Pipe.ends, List.mem_cons, List.not_mem_nil, or_false] at hd
    rcases hd with rfl | rfl
    · exact ⟨hreader', hreader⟩
    · exact ⟨hwriter', hwriter⟩
  -- No end from before is lost, since both new descriptors were free.
  have hold {d : Descriptor} (hd : d ∈ Pipe.endsFrom none pipes) :
      Function.update (Function.update t reader (some (.reader (k + pipes.length)))) writer
        (some (.writer (k + pipes.length))) d = t d := by
    rw [Function.update_of_ne, Function.update_of_ne]
    · rintro rfl
      exact hreader' hd
    · rintro rfl
      exact hwriter' hd
  constructor
  case distinct =>
    rw [Pipe.endsFrom_snoc, List.nodup_append]
    refine ⟨h.distinct, by simp [Pipe.ends, hne], ?_⟩
    rintro d hd d' hd' rfl
    exact (hfree hd').1 hd
  case free =>
    intro d hd
    rw [Pipe.endsFrom_snoc] at hd
    rcases List.mem_append.mp hd with hd | hd
    · exact h.free d hd
    · rw [← h.apply_of_notMem (hfree hd).1, (hfree hd).2]
  case inputPort => simp
  case pipePorts =>
    intro j pipe hj
    rcases Nat.lt_or_ge j pipes.length with hlt | hge
    · rw [List.getElem?_append_left hlt] at hj
      rw [hold (Pipe.mem_endsFrom hj (by simp [Pipe.ends])),
        hold (Pipe.mem_endsFrom hj (by simp [Pipe.ends]))]
      exact h.pipePorts j pipe hj
    · obtain rfl : j = pipes.length := by
        have := (List.getElem?_eq_some_iff.mp hj).1
        simp at this
        omega
      obtain rfl : pipe = ⟨reader, writer⟩ := by simpa using hj.symm
      simp [hne]
  case rest =>
    rw [Pipe.endsFrom_snoc, Holdings.without_append]
    funext d
    by_cases hd : d ∈ Pipe.ends ⟨reader, writer⟩
    · rw [Holdings.without, if_pos hd, ← h.apply_of_notMem (hfree hd).1, (hfree hd).2]
    · have hrest := congrFun h.rest d
      simp only [Pipe.ends, List.mem_cons, List.not_mem_nil, or_false, not_or] at hd
      simpa [Holdings.without, Pipe.ends, hd] using hrest

/-- A task was started, and the shell gave up the ends that it used. -/
theorem advance (h : Laid own k input pipes t) :
    Laid own (k + 1) (pipes.head?.map Pipe.reader) pipes.tail
      (t.without (Streams.first input pipes).ends) := by
  have hperm := Pipe.endsFrom_perm input pipes
  obtain ⟨_, hleft, hapart⟩ := List.nodup_append.mp (hperm.nodup_iff.mp h.distinct)
  have hkept {d : Descriptor} (hd : d ∈ Pipe.left pipes) :
      t.without (Streams.first input pipes).ends d = t d :=
    if_neg fun hmem => hapart d hmem d hd rfl
  refine ⟨hleft, fun d hd => h.free d (hperm.mem_iff.mpr (List.mem_append_right _ hd)), ?_, ?_, ?_⟩
  · intro d hd
    obtain ⟨pipe, hpipe, rfl⟩ := Option.map_eq_some_iff.mp (Option.mem_def.mp hd)
    refine ⟨k, rfl, ?_⟩
    rw [hkept (List.mem_append_left _ (by simp [hpipe]))]
    exact (h.head_ports hpipe).1
  · intro j pipe hj
    rw [hkept (Pipe.mem_endsFrom hj (by simp [Pipe.ends])),
      hkept (Pipe.mem_endsFrom hj (by simp [Pipe.ends])), Nat.add_assoc, Nat.add_comm 1 j]
    exact h.pipePorts (j + 1) pipe (by rwa [← List.getElem?_tail])
  · rw [← Holdings.without_append]
    exact (t.without_congr fun d => hperm.mem_iff.symm).trans h.rest

end Laid

/-- Making the pipes lays their ends out, or leaves none behind. -/
theorem Opened.laid {own : Holdings} {k : Nat} {made : List Pipe} {count : Nat}
    {answer : Except Errno (List Pipe)} {events : List Event} (h : Opened made count answer events)
    {l : Ledger} (hlaid : Laid own k none made l.table) (hmade : l.made = k + made.length)
    (hlawful : l.Lawful events) :
    (l.after events).births = l.births ∧
      (∀ pipes, answer = .ok pipes → Laid own k none pipes (l.after events).table) ∧
      ∀ e, answer = .error e → (l.after events).table = own := by
  induction h generalizing l with
  | all made => exact ⟨rfl, by rintro _ ⟨⟩; exact hlaid, by simp⟩
  | @one made count answer later reader writer _ ih =>
      obtain ⟨⟨hreader, hwriter, hne⟩, hlater⟩ := hlawful
      have hsnoc := hlaid.snoc hreader hwriter hne
      rw [← hmade] at hsnoc
      exact ih hsnoc (by simp [Ledger.record, hmade, Nat.add_assoc]) hlater
  | failed made count e =>
      have hafter : l.after (.piped (.error e) :: closes (made.flatMap Pipe.ends)) =
          { l with table := l.table.without (made.flatMap Pipe.ends) } := l.after_closes _
      exact ⟨by rw [hafter], by simp, fun _ _ => by rw [hafter]; exact hlaid.rest⟩

/-! ### Replacing streams and putting them back -/

/-- Putting back what was replaced turns `t` into `t₀`. -/
def Undoes (t₀ : Holdings) : List Saved → Holdings → Prop
  | [], t => t = t₀
  | s :: earlier, t => (∃ stream, t s.copy = some (.own stream)) ∧
      Undoes t₀ earlier (Function.update (Function.update t s.target (t s.copy)) s.copy none)

theorem Undoes.cons {t₀ t : Holdings} {saved : List Saved} (h : Undoes t₀ saved t)
    {target copy : Descriptor} {stream : Nat} (htarget : t target = some (.own stream))
    (hcopy : t copy = none) (port : Option Port) :
    Undoes t₀ (⟨target, copy⟩ :: saved)
      (Function.update (Function.update t copy (t target)) target port) := by
  have hne : copy ≠ target := by
    rintro rfl
    simp [hcopy] at htarget
  obtain ⟨hkept, hundone⟩ := Holdings.undone hcopy hne port
  refine ⟨⟨stream, hkept.trans htarget⟩, ?_⟩
  rw [hundone]
  exact h

theorem Restored.after {saved : List Saved} {events : List Event} (h : Restored saved events)
    {t₀ : Holdings} {l : Ledger} (hundoes : Undoes t₀ saved l.table) (hlawful : l.Lawful events) :
    l.after events = { l with table := t₀ } := by
  induction h generalizing l with
  | all =>
      obtain rfl := hundoes
      rfl
  | @one s earlier later answer _ ih =>
      obtain ⟨⟨stream, hstream⟩, hundoes⟩ := hundoes
      obtain ⟨hgrants, _, hlater⟩ := hlawful
      obtain rfl := hgrants stream hstream
      exact ih hundoes hlater

/-- Ends of pipes are to be put in the place of the shell's own streams, of each at most once. -/
structure Replaceable (bindings : List (Descriptor × Descriptor)) (t : Holdings) : Prop where
  distinct : (bindings.map Prod.snd).Nodup
  source : ∀ b ∈ bindings, ∃ port, t b.1 = some port ∧ port.IsEnd
  target : ∀ b ∈ bindings, ∃ stream, t b.2 = some (.own stream)

namespace Replaceable

variable {bindings rest : List (Descriptor × Descriptor)} {source target : Descriptor}
  {t t' : Holdings}

/-- The first replacement changes nothing else that is open, so it takes nothing from the others. -/
theorem apply_source (h : Replaceable ((source, target) :: rest) t)
    (hkept : ∀ d, d ≠ target → t d ≠ none → t' d = t d) {b : Descriptor × Descriptor}
    (hb : b ∈ (source, target) :: rest) : t' b.1 = t b.1 := by
  obtain ⟨stream, htarget⟩ := h.target _ List.mem_cons_self
  obtain ⟨port, hport, hend⟩ := h.source b hb
  refine hkept b.1 ?_ (by simp [hport])
  intro heq
  rw [heq] at hport
  exact hend stream (Option.some.inj (hport.symm.trans htarget))

theorem tail (h : Replaceable ((source, target) :: rest) t)
    (hkept : ∀ d, d ≠ target → t d ≠ none → t' d = t d) : Replaceable rest t' := by
  obtain ⟨hnotMem, hdistinct⟩ := List.nodup_cons.mp h.distinct
  refine ⟨hdistinct, fun b hb => ?_, fun b hb => ?_⟩
  · rw [h.apply_source hkept (List.mem_cons_of_mem _ hb)]
    exact h.source b (List.mem_cons_of_mem _ hb)
  · obtain ⟨stream, hstream⟩ := h.target b (List.mem_cons_of_mem _ hb)
    refine ⟨stream, (hkept b.2 ?_ (by simp [hstream])).trans hstream⟩
    rintro rfl
    exact hnotMem (List.mem_map.mpr ⟨b, hb, rfl⟩)

theorem apply_foldl_rebind (h : Replaceable bindings t) {d : Descriptor} {port : Port}
    (hport : bindings.foldl Holdings.rebind t d = some port) :
    t d = some port ∨ ∃ source, (source, d) ∈ bindings ∧ t source = some port := by
  induction bindings generalizing t with
  | nil => exact .inl hport
  | cons binding rest ih =>
      obtain ⟨source, target⟩ := binding
      have hkept : ∀ d, d ≠ target → t d ≠ none → t.rebind (source, target) d = t d :=
        fun d hd _ => Function.update_of_ne hd ..
      rcases ih (h.tail hkept) hport with hport | ⟨source', hmem, hport⟩
      · rw [Holdings.rebind_apply] at hport
        split at hport
        · rename_i heq
          exact .inr ⟨source, by simp [heq], hport⟩
        · exact .inl hport
      · rw [h.apply_source hkept (List.mem_cons_of_mem _ hmem)] at hport
        exact .inr ⟨source', List.mem_cons_of_mem _ hmem, hport⟩

end Replaceable

/-- A replacement whose target was duplicated before changes nothing else that was open. -/
theorem update_of_open {t : Holdings} {copy target : Descriptor} (hcopy : t copy = none)
    (port port' : Option Port) (d : Descriptor) (hd : d ≠ target) (hopen : t d ≠ none) :
    Function.update (Function.update t copy port) target port' d = t d := by
  rw [Function.update_of_ne hd, Function.update_of_ne]
  rintro rfl
  exact hopen hcopy

theorem Bound.undoes {saved : List Saved} {bindings : List (Descriptor × Descriptor)}
    {answer : Except Errno Unit × List Saved} {events : List Event}
    (h : Bound saved bindings answer events) {t₀ : Holdings} {l : Ledger}
    (hundoes : Undoes t₀ saved l.table) (hbindings : Replaceable bindings l.table)
    (hlawful : l.Lawful events) :
    ∃ t, l.after events = { l with table := t } ∧ Undoes t₀ answer.2 t := by
  induction h generalizing l with
  | all saved => exact ⟨l.table, rfl, hundoes⟩
  | @one saved rest answer later source target copy _ ih =>
      obtain ⟨hcopy, _, hlater⟩ := hlawful
      obtain ⟨stream, htarget⟩ := hbindings.target _ List.mem_cons_self
      exact ih (hundoes.cons htarget hcopy _) (hbindings.tail (update_of_open hcopy _ _)) hlater
  | unsaved saved rest source target e => exact ⟨l.table, rfl, hundoes⟩
  | unbound saved rest source target copy e =>
      have hcopy : l.table copy = none := hlawful.1
      refine ⟨l.table, ?_, hundoes⟩
      simp [Ledger.record, ← hcopy]

/-- What the first replacement does to what is open. -/
theorem Replaceable.placed {l : Ledger} {source target copy : Descriptor}
    {rest : List (Descriptor × Descriptor)}
    (h : Replaceable ((source, target) :: rest) l.table) (hcopy : l.table copy = none) :
    let placed := l.after [.duplicated target (.ok copy), .replaced source target (.ok ())]
    (∀ d, d ≠ target → l.table d ≠ none → placed.table d = l.table d) ∧
      placed.table target = l.table source ∧ l.table source ≠ none := by
  intro placed
  obtain ⟨port, hport, _⟩ := h.source _ List.mem_cons_self
  have hne : source ≠ copy := by
    rintro rfl
    simp [hcopy] at hport
  refine ⟨update_of_open hcopy _ _, ?_, by simp [hport]⟩
  simp [placed, Ledger.record, Holdings.rebind, hne]

/-- A descriptor that was open before stands for the same stream as then, or for one that was put in
its place. -/
theorem Bound.kept {saved : List Saved} {bindings : List (Descriptor × Descriptor)}
    {answer : Except Errno Unit × List Saved} {events : List Event}
    (h : Bound saved bindings answer events) {l : Ledger} (hbindings : Replaceable bindings l.table)
    (hlawful : l.Lawful events) {d : Descriptor} (hd : l.table d ≠ none) :
    (l.after events).table d = l.table d ∨
      ∃ source, (source, d) ∈ bindings ∧ (l.after events).table d = l.table source := by
  induction h generalizing l with
  | all saved => exact .inl rfl
  | @one saved rest answer later source target copy _ ih =>
      obtain ⟨hcopy, _, hlater⟩ := hlawful
      obtain ⟨hkept, hbound, hsource⟩ := hbindings.placed hcopy
      have hopen : (l.after [.duplicated target (.ok copy), .replaced source target (.ok ())]).table
          d ≠ none := by
        by_cases heq : d = target
        · rw [heq, hbound]
          exact hsource
        · rwa [hkept d heq hd]
      rcases ih (hbindings.tail hkept) hlater hopen with hafter | ⟨source', hmem, hafter⟩
      · by_cases heq : d = target
        · subst heq
          exact .inr ⟨source, List.mem_cons_self, hafter.trans hbound⟩
        · exact .inl (hafter.trans (hkept d heq hd))
      · refine .inr ⟨source', List.mem_cons_of_mem _ hmem, hafter.trans ?_⟩
        exact hbindings.apply_source hkept (List.mem_cons_of_mem _ hmem)
  | unsaved saved rest source target e => exact .inl rfl
  | unbound saved rest source target copy e =>
      have hcopy : l.table copy = none := hlawful.1
      refine .inl ?_
      simp [Ledger.record, ← hcopy]

/-- Once all replacements are made, each target stands for what its source stood for. -/
theorem Bound.target_port {saved : List Saved} {bindings : List (Descriptor × Descriptor)}
    {answer : Except Errno Unit × List Saved} {events : List Event}
    (h : Bound saved bindings answer events) (hanswer : answer.1 = .ok ()) {l : Ledger}
    (hbindings : Replaceable bindings l.table) (hlawful : l.Lawful events) :
    ∀ b ∈ bindings, (l.after events).table b.2 = l.table b.1 := by
  induction h generalizing l with
  | all saved => simp
  | @one saved rest answer later source target copy hlater ih =>
      obtain ⟨hcopy, _, hlawful⟩ := hlawful
      obtain ⟨hkept, hbound, hsource⟩ := hbindings.placed hcopy
      have htail := hbindings.tail hkept
      refine List.forall_mem_cons.mpr ⟨?_, fun b hb => ?_⟩
      · -- No later replacement has the same target.
        rcases hlater.kept htail hlawful (fun heq => hsource (hbound.symm.trans heq)) with
          hafter | ⟨source', hmem, _⟩
        · exact hafter.trans hbound
        · exact absurd (List.mem_map.mpr ⟨_, hmem, rfl⟩) (List.nodup_cons.mp hbindings.distinct).1
      · exact (ih hanswer htail hlawful b hb).trans
          (hbindings.apply_source hkept (List.mem_cons_of_mem _ hb))
  | unsaved => cases hanswer
  | unbound => cases hanswer

/-- If not all replacements are made, the last one is not. -/
theorem Bound.kept_of_error {saved : List Saved} {bindings : List (Descriptor × Descriptor)}
    {answer : Except Errno Unit × List Saved} {events : List Event}
    (h : Bound saved bindings answer events) (hanswer : answer.1 ≠ .ok ()) {l : Ledger}
    (hlawful : l.Lawful events) {d : Descriptor} (hd : l.table d ≠ none)
    (hlast : ∀ b ∈ bindings.dropLast, b.2 ≠ d) : (l.after events).table d = l.table d := by
  induction h generalizing l with
  | all => exact absurd rfl hanswer
  | @one saved rest answer later source target copy hlater ih =>
      obtain ⟨hcopy, _, hlawful⟩ := hlawful
      cases rest with
      | nil =>
          cases hlater
          exact absurd rfl hanswer
      | cons next rest =>
          rw [List.dropLast_cons_cons] at hlast
          obtain ⟨htarget, hrest⟩ := List.forall_mem_cons.mp hlast
          have hkept := update_of_open hcopy (l.table target)
            (Function.update l.table copy (l.table target) source) d (Ne.symm htarget) hd
          exact (ih hanswer hlawful (fun heq => hd (hkept.symm.trans heq)) hrest).trans hkept
  | unsaved => rfl
  | unbound saved rest source target copy e =>
      have hcopy : l.table copy = none := hlawful.1
      simp [Ledger.record, ← hcopy]

/-- A turn changes nothing for the shell, except that there may be a new child. -/
theorem Taken.after {streams : Streams} {held : List Descriptor} {argv : List String} {turn : Turn}
    {events : List Event} (h : Taken streams held argv turn events) {l : Ledger}
    (hbindings : Replaceable streams.bindings l.table) (hlawful : l.Lawful events) :
    l.after events = { l with
      births := l.births ++
        turn.pid?.toList.map fun pid => ⟨pid, ⟨argv, streams.bindings, held⟩, l.table⟩ } := by
  cases h with
  | idle hpid => simp [hpid]
  | @inside _ saved answer before bound output restored hpid hbefore hbound houtput hrestored =>
      simp only [Ledger.lawful_append, l.after_of_isOutput hbefore] at hlawful
      obtain ⟨_, hlawful, _, hlawful'⟩ := hlawful
      have hnone : Undoes l.table [] l.table := rfl
      obtain ⟨t, hafter, hundoes⟩ := hbound.undoes hnone hbindings hlawful
      rw [hafter, Ledger.after_of_isOutput _ houtput] at hlawful'
      simp only [Ledger.after_append, l.after_of_isOutput hbefore, hafter,
        Ledger.after_of_isOutput _ houtput]
      rw [hrestored.after hundoes hlawful']
      simp [hpid]
  | launched pid hbefore =>
      rw [Ledger.after_append, l.after_of_isOutput hbefore]
      rfl
  | refused e hbefore =>
      rw [Ledger.after_append, l.after_of_isOutput hbefore]
      simp [Ledger.record, Turn.pid?]

/-! ### Starting the tasks -/

/-- Standard input and standard output are open. -/
structure Standing (own : Descriptor → Option Nat) : Prop where
  input : (own Descriptor.input).isSome
  output : (own Descriptor.output).isSome

/-- The three standard streams. -/
def customary : Descriptor → Option Nat := fun d => if d < 3 then some d else none

theorem standing_customary : Standing customary := ⟨rfl, rfl⟩

/-- Of all ends of pipes the process of stage `k` holds at most the writing end of pipe `k`, as its
standard output, and the reading end of the pipe before it, as its standard input. -/
structure Holdings.Confined (k : Nat) (t : Holdings) : Prop where
  writer : ∀ d i, t d = some (.writer i) → i = k ∧ d = Descriptor.output
  reader : ∀ d i, t d = some (.reader i) → k = i + 1 ∧ d = Descriptor.input

namespace Laid

variable {own : Descriptor → Option Nat} {k : Nat} {input : Option Descriptor} {pipes : List Pipe}
  {t : Holdings}

theorem apply_of_isSome (h : Laid (.ofOwn own) k input pipes t) {d : Descriptor}
    (hd : (own d).isSome) : ∃ stream, t d = some (.own stream) := by
  obtain ⟨stream, hstream⟩ := Option.isSome_iff_exists.mp hd
  exact ⟨stream, h.apply_of_own (by simp [Holdings.ofOwn, hstream])⟩

theorem apply_eq_ofOwn (h : Laid (.ofOwn own) k input pipes t) {d : Descriptor}
    (hd : (own d).isSome) : t d = Holdings.ofOwn own d := by
  obtain ⟨stream, hstream⟩ := Option.isSome_iff_exists.mp hd
  have hport : Holdings.ofOwn own d = some (.own stream) := by simp [Holdings.ofOwn, hstream]
  exact (h.apply_of_own hport).trans hport.symm

/-- What is put in the place of a stream of the task. -/
theorem source_port (h : Laid (.ofOwn own) k input pipes t) {source d : Descriptor}
    (hmem : (source, d) ∈ (Streams.first input pipes).bindings) :
    (d = Descriptor.input ∧ ∃ i, k = i + 1 ∧ t source = some (.reader i)) ∨
      (d = Descriptor.output ∧ t source = some (.writer k) ∧
        ∃ pipe, pipes.head? = some pipe ∧ source = pipe.writer) := by
  simp only [Streams.bindings, Streams.first, List.mem_append, List.mem_map, Prod.mk.injEq] at hmem
  rcases hmem with ⟨r, hr, rfl, rfl⟩ | ⟨w, hw, rfl, rfl⟩
  · exact .inl ⟨rfl, h.inputPort r (by simpa using hr)⟩
  · obtain ⟨pipe, hpipe, rfl⟩ := Option.map_eq_some_iff.mp (Option.mem_toList.mp hw)
    exact .inr ⟨rfl, (h.head_ports hpipe).2, pipe, hpipe, rfl⟩

theorem replaceable (hown : Standing own) (h : Laid (.ofOwn own) k input pipes t) :
    Replaceable (Streams.first input pipes).bindings t := by
  refine ⟨?_, fun b hb => ?_, fun b hb => ?_⟩
  · cases input <;> cases pipes <;>
      simp [Streams.first, Streams.bindings, Descriptor.input, Descriptor.output]
  · rcases h.source_port hb with ⟨_, i, _, hi⟩ | ⟨_, hk, _⟩
    · exact ⟨_, hi, Port.isEnd_reader i⟩
    · exact ⟨_, hk, Port.isEnd_writer k⟩
  · rcases h.source_port hb with ⟨hinput, _⟩ | ⟨houtput, _⟩
    · exact hinput ▸ h.apply_of_isSome hown.input
    · exact houtput ▸ h.apply_of_isSome hown.output

/-- Where standard output goes once the streams of the task are bound. If they cannot be bound it
stays the shell's own. -/
theorem output_port (hown : Standing own) (h : Laid (.ofOwn own) k input pipes t) {l : Ledger}
    (ht : l.table = t) {answer : Except Errno Unit} {saved : List Saved} {events : List Event}
    (hbound : Bound [] (Streams.first input pipes).bindings (answer, saved) events)
    (hlawful : l.Lawful events) :
    (answer = .ok () → (l.after events).table Descriptor.output =
        l.table ((Streams.first input pipes).output.getD Descriptor.output)) ∧
      (answer ≠ .ok () → (l.after events).table Descriptor.output = l.table Descriptor.output) := by
  subst ht
  have hreplaceable := h.replaceable hown
  obtain ⟨stream, hstream⟩ := h.apply_of_isSome hown.output
  have hopen : l.table Descriptor.output ≠ none := by simp [hstream]
  refine ⟨fun hanswer => ?_, fun hanswer => ?_⟩
  · cases houtput : (Streams.first input pipes).output with
    | some writer =>
        have hmem : (writer, Descriptor.output) ∈ (Streams.first input pipes).bindings := by
          simp [Streams.bindings, houtput]
        exact hbound.target_port hanswer hreplaceable hlawful _ hmem
    | none =>
        rcases hbound.kept hreplaceable hlawful hopen with hkept | ⟨source, hmem, _⟩
        · exact hkept
        · simp [Streams.bindings, houtput, Descriptor.input, Descriptor.output] at hmem
  · refine hbound.kept_of_error hanswer hlawful hopen ?_
    -- Of the streams of a task, standard output is the last that is replaced.
    cases input <;> cases pipes <;>
      simp [Streams.bindings, Streams.first, Descriptor.input, Descriptor.output]

/-- What a task is bound to, apart from the ends that will be closed. -/
theorem bound_port (hown : Standing own) (h : Laid (.ofOwn own) k input pipes t) {d : Descriptor}
    (hd : d ∉ Pipe.endsFrom input pipes) {port : Port}
    (hport : (Streams.first input pipes).bindings.foldl Holdings.rebind t d = some port) :
    (∃ n, port = .own n) ∨ (d = Descriptor.input ∧ ∃ i, k = i + 1 ∧ port = .reader i) ∨
      (d = Descriptor.output ∧ port = .writer k) := by
  rcases (h.replaceable hown).apply_foldl_rebind hport with hport | ⟨source, hmem, hport⟩
  · rw [h.apply_of_notMem hd] at hport
    obtain ⟨n, _, hn⟩ := Option.map_eq_some_iff.mp hport
    exact .inl ⟨n, hn.symm⟩
  · rcases h.source_port hmem with ⟨hinput, i, hk, hi⟩ | ⟨houtput, hwriter, _⟩
    · exact .inr (.inl ⟨hinput, i, hk, Option.some.inj (hport.symm.trans hi)⟩)
    · exact .inr (.inr ⟨houtput, Option.some.inj (hport.symm.trans hwriter)⟩)

theorem confined (hown : Standing own) (h : Laid (.ofOwn own) k input pipes t) (pid : Pid)
    (argv : List String) :
    Holdings.Confined k (Birth.settled ⟨pid, ⟨argv, (Streams.first input pipes).bindings,
      Pipe.endsFrom input pipes⟩, t⟩) := by
  rw [Birth.settled_eq]
  have hport {d : Descriptor} {port : Port}
      (hd : Holdings.without ((Streams.first input pipes).bindings.foldl Holdings.rebind t)
        (Pipe.endsFrom input pipes) d = some port) :
      (∃ n, port = .own n) ∨ (d = Descriptor.input ∧ ∃ i, k = i + 1 ∧ port = .reader i) ∨
        (d = Descriptor.output ∧ port = .writer k) := by
    rw [Holdings.without, ite_eq_iff] at hd
    rcases hd with ⟨_, hd⟩ | ⟨hd, hport⟩
    · cases hd
    · exact h.bound_port hown hd hport
  refine ⟨fun d i hd => ?_, fun d i hd => ?_⟩
  · rcases hport hd with ⟨n, hn⟩ | ⟨_, i', _, hi'⟩ | ⟨houtput, hi⟩
    · cases hn
    · cases hi'
    · exact ⟨Port.writer.inj hi, houtput⟩
  · rcases hport hd with ⟨n, hn⟩ | ⟨hinput, i', hk, hi'⟩ | ⟨_, hi⟩
    · cases hn
    · exact ⟨Port.reader.inj hi' ▸ hk, hinput⟩
    · cases hi

/-- A task had its turn, and the shell gave up the ends that it used. -/
theorem passed (hown : Standing own) {l : Ledger} (h : Laid (.ofOwn own) k input pipes l.table)
    {held : List Descriptor} {argv : List String} {turn : Turn} {events : List Event}
    (htaken : Taken (.first input pipes) held argv turn events) (hlawful : l.Lawful events) :
    Laid (.ofOwn own) (k + 1) (pipes.head?.map Pipe.reader) pipes.tail
      (l.after (events ++ closes (Streams.first input pipes).ends)).table := by
  rw [Ledger.after_append, htaken.after (h.replaceable hown) hlawful, Ledger.after_closes]
  exact h.advance

end Laid

/-- The stages that have a process, each with its number and that of the process. -/
def stagesFrom (k : Nat) (pids : List (Option Pid)) : List (Nat × Pid) :=
  (pids.zipIdx k).filterMap fun (pid, stage) => pid.map (stage, ·)

theorem stagesFrom_cons (k : Nat) (pid : Option Pid) (pids : List (Option Pid)) :
    stagesFrom k (pid :: pids) = pid.toList.map (k, ·) ++ stagesFrom (k + 1) pids := by
  cases pid <;> simp [stagesFrom]

theorem stagesFrom_append_none (k : Nat) (pids : List (Option Pid)) (n : Nat) :
    stagesFrom k (pids ++ List.replicate n none) = stagesFrom k pids := by
  have hnone : ∀ k, stagesFrom k (List.replicate n none) = [] := by
    induction n with
    | zero => simp [stagesFrom]
    | succ n ih => simp [List.replicate_succ, stagesFrom_cons, ih]
  induction pids generalizing k with
  | nil => exact (hnone k).trans (by simp [stagesFrom])
  | cons pid rest ih => rw [List.cons_append, stagesFrom_cons, stagesFrom_cons, ih]

/-- The child is the process of that stage and keeps no other end than a stage may have. -/
def Birth.At (b : Birth) (stage : Nat × Pid) : Prop :=
  b.pid = stage.2 ∧ b.settled.Confined stage.1

/-- The turn of stage `k` launches that stage or nothing. -/
theorem Taken.launched_at {own : Descriptor → Option Nat} (hown : Standing own) {k : Nat}
    {input : Option Descriptor} {pipes : List Pipe} {argv : List String} {turn : Turn}
    {events : List Event}
    (h : Taken (.first input pipes) (Pipe.endsFrom input pipes) argv turn events) {l : Ledger}
    (hlaid : Laid (.ofOwn own) k input pipes l.table) (hlawful : l.Lawful events) :
    ∃ births, l.after events = { l with births := l.births ++ births } ∧
      List.Forall₂ Birth.At births (turn.pid?.toList.map (k, ·)) := by
  refine ⟨_, h.after (hlaid.replaceable hown) hlawful, ?_⟩
  cases turn.pid? with
  | none => exact .nil
  | some pid => exact .cons ⟨rfl, hlaid.confined hown pid argv⟩ .nil

/-- Once the tasks are started, the shell holds what it held before the job, and the children are
those of the stages that were launched. -/
theorem Started.released {own : Descriptor → Option Nat} (hown : Standing own)
    {input : Option Descriptor} {pipes : List Pipe} {argvs : List (List String)} {turns : List Turn}
    {events : List Event} (h : Started input pipes argvs turns events) {k : Nat} {l : Ledger}
    (hlaid : Laid (.ofOwn own) k input pipes l.table) (hlawful : l.Lawful events) :
    (l.after events).table = .ofOwn own ∧
      ∃ births, (l.after events).births = l.births ++ births ∧
        List.Forall₂ Birth.At births (stagesFrom k (turns.map Turn.pid?)) := by
  induction h generalizing k l with
  | all input pipes =>
      -- There may be ends left although no task is, since nothing says how many pipes there are.
      rw [Ledger.after_closes]
      exact ⟨hlaid.rest, [], (List.append_nil _).symm, .nil⟩
  | @last input pipes argv rest turn events htaken =>
      rw [Ledger.lawful_append] at hlawful
      obtain ⟨births, hafter, hbirths⟩ := htaken.launched_at hown hlaid hlawful.1
      rw [Ledger.after_append, hafter, Ledger.after_append, Ledger.after_closes,
        Ledger.after_closes]
      refine ⟨hlaid.advance.rest, births, rfl, ?_⟩
      rwa [List.map_singleton, stagesFrom_cons, show stagesFrom (k + 1) [] = [] from rfl,
        List.append_nil]
  | @next input pipes argv rest turn turns events later htaken _ ih =>
      simp only [Ledger.lawful_append] at hlawful
      obtain ⟨births, hafter, hbirths⟩ := htaken.launched_at hown hlaid hlawful.1
      rw [hafter, Ledger.after_closes] at hlawful
      obtain ⟨htable, births', hbirths', hstages⟩ := ih hlaid.advance hlawful.2.2
      rw [Ledger.after_append, hafter, Ledger.after_append, Ledger.after_closes]
      -- A stage without a process adds no child and no entry to the list of stages.
      refine ⟨htable, births ++ births', by rw [hbirths', List.append_assoc], ?_⟩
      rw [List.map_cons, stagesFrom_cons]
      exact List.rel_append hbirths hstages

end LineShell
