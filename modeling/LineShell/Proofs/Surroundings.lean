import LineShell.Machine.System
import LineShell.Proofs.State
import LineShell.Proofs.Text.Decoded
import LineShell.Shell.Supply
import Mathlib.Logic.Function.Basic

/-!
What commands find of the surroundings of a process and what they change of them: the directory that
it works in, its variables, and all else, in which there are the files. What a system makes of names
depends on the files, and may be anything.
-/

namespace LineShell

structure Surroundings (δ ρ : Type) where
  directory : δ
  settings : String → Option SystemText
  others : ρ

/-- What a system makes of names. -/
structure Naming (δ ρ : Type) where
  /-- The name of a directory, if it can be named. -/
  nameOf : ρ → δ → Except Errno SystemText
  /-- The directory that a name leads to from another one. -/
  find : ρ → δ → SystemText → Except Fault δ
  /-- The home directory that the user database gives. -/
  account : ρ → Option SystemText

namespace Surroundings

variable {δ ρ : Type}

def assign (v : Surroundings δ ρ) (name : String) (value : SystemText) : Surroundings δ ρ :=
  { v with settings := Function.update v.settings name (some value) }

/-- The home directory: the variable `HOME` if it says something, else the user database. -/
def home? (naming : Naming δ ρ) (v : Surroundings δ ρ) : Option SystemText :=
  match v.settings "HOME" with
  | some home => if home.isEmpty then naming.account v.others else some home
  | none => naming.account v.others

/-- What comes of the call to go to a directory. -/
def moved (naming : Naming δ ρ) (v : Surroundings δ ρ) (path : SystemText) :
    Except Fault Unit × Surroundings δ ρ :=
  match naming.find v.others v.directory path with
  | .ok d => (.ok (), { v with directory := d })
  | .error fault => (.error fault, v)

end Surroundings

variable {σ δ ρ α β : Type}

/-- The result of a program, and the surroundings in which it leaves the process. -/
def seen (view : σ → Surroundings δ ρ) (m : StateM σ α) (s : σ) : α × Surroundings δ ρ :=
  ((m s).1, view (m s).2)

/-- The calls that ask for something leave all as it is, and those that change something change in the
surroundings what their names say. -/
structure Naming.Governs (naming : Naming δ ρ) [Environment σ] (view : σ → Surroundings δ ρ) :
    Prop where
  currentDirectory : ∀ s,
    Environment.currentDirectory s = (naming.nameOf (view s).others (view s).directory, s)
  value? : ∀ name s, Environment.value? name s = ((view s).settings name, s)
  accountHome? : ∀ s, Environment.accountHome? s = (naming.account (view s).others, s)
  changeDirectory : ∀ path s,
    seen view (Environment.changeDirectory path) s = (view s).moved naming path
  setVariable : ∀ name value s,
    seen view (Environment.setVariable name value) s = ((), (view s).assign name value)

theorem Session.beside_apply {τ : Type} (m : StateM σ α) (p : σ × τ) :
    Session.beside m p = ((m p.1).1, ((m p.1).2, p.2)) := rfl

namespace Naming.Governs

variable {naming : Naming δ ρ} {κ τ : Type}

theorem home? [Environment σ] {view : σ → Surroundings δ ρ} (h : naming.Governs view) (s : σ) :
    Environment.home? s = ((view s).home? naming, s) := by
  simp only [Environment.home?, Surroundings.home?, bind_apply, h.value?]
  cases (view s).settings "HOME" with
  | none => exact h.accountHome? s
  | some home =>
      dsimp only
      split
      · exact h.accountHome? s
      · rfl

theorem console [Kernel κ] {view : κ → Surroundings δ ρ} (h : naming.Governs view) :
    naming.Governs fun c : Console κ => view c.kernel where
  currentDirectory c :=
    (Console.call_apply Environment.currentDirectory c).trans (by rw [h.currentDirectory])
  value? name c := (Console.call_apply (Environment.value? name) c).trans (by rw [h.value?])
  accountHome? c := (Console.call_apply Environment.accountHome? c).trans (by rw [h.accountHome?])
  changeDirectory path c := h.changeDirectory path c.kernel
  setVariable name value c := h.setVariable name value c.kernel

theorem beside [Environment σ] {view : σ → Surroundings δ ρ} (h : naming.Governs view) :
    naming.Governs fun p : σ × τ => view p.1 where
  currentDirectory p :=
    (Session.beside_apply Environment.currentDirectory p).trans (by rw [h.currentDirectory])
  value? name p := (Session.beside_apply (Environment.value? name) p).trans (by rw [h.value?])
  accountHome? p :=
    (Session.beside_apply Environment.accountHome? p).trans (by rw [h.accountHome?])
  changeDirectory path p := h.changeDirectory path p.1
  setVariable name value p := h.setVariable name value p.1

end Naming.Governs

/-! ### The machine -/

namespace Machine

theorem toUInt8_ofNat_toNat (b : UInt8) : (Char.ofNat b.toNat).toNat.toUInt8 = b := by
  have hvalid : b.toNat.isValidChar := .inl (Nat.lt_trans b.toNat_lt (by decide))
  rw [Char.toNat_ofNat, if_pos hvalid]
  exact UInt8.ofNat_toNat

theorem Raw.toBytes_ofBytes (bytes : Bytes) : Raw.toBytes (Raw.ofBytes bytes) = bytes := by
  simp [Raw.toBytes, Raw.ofBytes, Function.comp_def, toUInt8_ofNat_toNat]

theorem ofRawName_rawName (name : SystemText) : ofRawName (rawName name) = name := by
  rw [ofRawName, rawName, Raw.toBytes_ofBytes]

theorem Raw.encode_injective : Function.Injective Raw.encode := by
  intro name other heq
  have hbytes : Utf8.encode name = Utf8.encode other := by
    simpa only [Raw.encode, Raw.toBytes_ofBytes] using congrArg Raw.toBytes heq
  rw [← Utf8.decodeLossy_encode name, hbytes, Utf8.decodeLossy_encode]

namespace Settings

variable (s : Settings) (name value : String)

theorem lookup_replaced (other : String) :
    (s.map fun (n, v) => (n, if n = name then value else v)).lookup other =
      if other = name then (s.lookup other).map fun _ => value else s.lookup other := by
  induction s with
  | nil => simp
  | cons first rest ih =>
      obtain ⟨n, v⟩ := first
      rw [List.map_cons, List.lookup_cons, List.lookup_cons, ih]
      by_cases hn : other = n
      · subst hn
        by_cases hname : other = name <;> simp [hname]
      · have hbeq : (other == n) = false := by simpa using hn
        simp [hbeq]

theorem lookup_assign (other : String) :
    (s.assign name value).lookup other = if other = name then some value else s.lookup other := by
  rw [assign]
  split
  · rename_i hany
    obtain ⟨setting, hsetting, hname⟩ := List.any_eq_true.mp hany
    have hsome : (s.lookup name).isSome = true :=
      List.lookup_isSome_iff.mpr ⟨setting, hsetting, by simpa using (of_decide_eq_true hname).symm⟩
    obtain ⟨old, hold⟩ := Option.isSome_iff_exists.mp hsome
    rw [lookup_replaced]
    split
    · rename_i hname
      simp [hname, hold]
    · rfl
  · rename_i hnone
    have hlookup : s.lookup name = none := by
      refine List.lookup_eq_none_iff.mpr fun setting hsetting => ?_
      have hname : setting.1 ≠ name := fun hname =>
        hnone (List.any_eq_true.mpr ⟨setting, hsetting, decide_eq_true hname⟩)
      simpa using hname.symm
    rw [List.lookup_append]
    by_cases hname : other = name
    · simp [hname, hlookup]
    · have hbeq : (other == name) = false := by simpa using hname
      simp [hname, List.lookup_cons, hbeq]

end Settings

/-- What the shell of a machine finds around it. All else of the machine is left in it. -/
def surroundings (m : Machine) : Surroundings NodeId Machine where
  directory := m.shell.cwd
  settings := m.value?
  others := { m with shell := { m.shell with cwd := FileTree.root, settings := [] } }

def naming : Naming NodeId Machine where
  nameOf m d :=
    match m.system.tree.nameOf? d with
    | some name => .ok (ofRawName name)
    | none => .error .noEntry
  find m d path :=
    if path.bytes.contains 0 then .error .nulInPath
    else (m.system.tree.locate d (rawName path)).mapError .system
  account _ := some (.ofText accountHome)

theorem value?_setVariable (m : Machine) (name : String) (value : SystemText) :
    (m.setVariable name value).value? = Function.update m.value? name (some value) := by
  funext other
  simp only [value?, setVariable, Settings.lookup_assign, Raw.encode_injective.eq_iff]
  by_cases hname : other = name
  · simp [hname, ofRawName_rawName]
  · simp [hname, value?]

theorem governs_surroundings : naming.Governs surroundings where
  currentDirectory m := rfl
  changeDirectory path m := by
    simp only [seen, Environment.changeDirectory, withPath, Surroundings.moved, naming,
      surroundings]
    split
    · rfl
    · simp only [bind_apply, asShell, World.changeDirectory]
      cases m.system.tree.locate m.shell.cwd (rawName path) <;> rfl
  value? name m := rfl
  setVariable name value m := by
    simp only [seen, Environment.setVariable, modify_apply, surroundings, Surroundings.assign,
      value?_setVariable]
    rfl
  accountHome? m := rfl

end Machine

end LineShell
