import LineShell.Text.Numeral
import Mathlib

/-!
Which texts are numerals, and what they denote: an optional single sign and then digits, at least one,
in base ten. Reading a numeral finds just what it denotes, and numbers are written as numerals.
-/

namespace LineShell

namespace Numeral

/-- There are only digits, and at least one. -/
def AreDigits (cs : List Char) : Prop := cs ≠ [] ∧ ∀ c ∈ cs, c.isDigit = true

/-- The numeral denotes the number. -/
inductive Denotes : List Char → Int → Prop
  | plain {cs : List Char} : AreDigits cs → Denotes cs (Nat.ofDigitChars 10 cs 0)
  | plus {cs : List Char} : AreDigits cs → Denotes ('+' :: cs) (Nat.ofDigitChars 10 cs 0)
  | minus {cs : List Char} : AreDigits cs → Denotes ('-' :: cs) (-Nat.ofDigitChars 10 cs 0)

/-- The text denotes a number that fits into 64 bits with a sign. -/
def Denotes64 (text : String) (n : Int) : Prop :=
  Denotes text.toList n ∧ -2 ^ 63 ≤ n ∧ n < 2 ^ 63

/-! ### Reading -/

theorem natural?_of_isDigit {cs : List Char} (h : ∀ c ∈ cs, c.isDigit = true) (value : Nat) :
    natural? value cs = some (Nat.ofDigitChars 10 cs value) := by
  induction cs generalizing value with
  | nil => simp [natural?]
  | cons c rest ih =>
      have hdigit : digit? c = some (c.toNat - '0'.toNat) := if_pos (h c List.mem_cons_self)
      rw [natural?, hdigit, Option.bind_some, ih fun d hd => h d (List.mem_cons_of_mem c hd),
        Nat.ofDigitChars_cons, Nat.mul_comm]

theorem isDigit_of_natural? {cs : List Char} {value n : Nat} (h : natural? value cs = some n) :
    ∀ c ∈ cs, c.isDigit = true := by
  induction cs generalizing value with
  | nil => simp
  | cons c rest ih =>
      rw [natural?, Option.bind_eq_some_iff] at h
      obtain ⟨d, hdigit, hrest⟩ := h
      have hc : c.isDigit = true := by
        by_contra hnot
        simp [digit?, hnot] at hdigit
      exact List.forall_mem_cons.mpr ⟨hc, ih hrest⟩

theorem digits?_eq_some_iff {cs : List Char} {n : Nat} :
    digits? cs = some n ↔ AreDigits cs ∧ Nat.ofDigitChars 10 cs 0 = n := by
  cases cs with
  | nil => simp [digits?, AreDigits]
  | cons c rest =>
      show natural? 0 (c :: rest) = some n ↔ _
      constructor
      · intro h
        have hdigits := isDigit_of_natural? h
        rw [natural?_of_isDigit hdigits] at h
        exact ⟨⟨List.cons_ne_nil c rest, hdigits⟩, Option.some.inj h⟩
      · rintro ⟨⟨_, hdigits⟩, rfl⟩
        exact natural?_of_isDigit hdigits 0

theorem map_digits?_eq_some_iff {f : Nat → Int} {cs : List Char} {n : Int} :
    (digits? cs).map f = some n ↔ AreDigits cs ∧ f (Nat.ofDigitChars 10 cs 0) = n := by
  simp only [Option.map_eq_some_iff, digits?_eq_some_iff]
  constructor
  · rintro ⟨m, ⟨hdigits, rfl⟩, rfl⟩
    exact ⟨hdigits, rfl⟩
  · rintro ⟨hdigits, rfl⟩
    exact ⟨_, ⟨hdigits, rfl⟩, rfl⟩

theorem integer?_minus (rest : List Char) :
    integer? ('-' :: rest) = (digits? rest).map (fun n : Nat => -(n : Int)) := by
  cases h : digits? rest <;> simp [integer?, h]

theorem integer?_plus (rest : List Char) :
    integer? ('+' :: rest) = (digits? rest).map (fun n : Nat => (n : Int)) := by
  cases h : digits? rest <;> simp [integer?, h]

theorem integer?_plain {cs : List Char} (hminus : cs.head? ≠ some '-') (hplus : cs.head? ≠ some '+') :
    integer? cs = (digits? cs).map (fun n : Nat => (n : Int)) := by
  unfold integer?
  split
  · exact absurd rfl hminus
  · exact absurd rfl hplus
  · cases digits? cs <;> rfl

/-- A sign is not a digit. -/
theorem AreDigits.head?_ne {cs : List Char} (h : AreDigits cs) {sign : Char}
    (hsign : sign.isDigit = false) : cs.head? ≠ some sign := by
  intro hhead
  rw [h.2 sign (List.mem_of_mem_head? hhead)] at hsign
  cases hsign

theorem integer?_eq_some_iff {cs : List Char} {n : Int} : integer? cs = some n ↔ Denotes cs n := by
  constructor
  · intro h
    by_cases hminus : cs.head? = some '-'
    · obtain ⟨rest, rfl⟩ := List.head?_eq_some_iff.mp hminus
      rw [integer?_minus, map_digits?_eq_some_iff] at h
      exact h.2 ▸ .minus h.1
    by_cases hplus : cs.head? = some '+'
    · obtain ⟨rest, rfl⟩ := List.head?_eq_some_iff.mp hplus
      rw [integer?_plus, map_digits?_eq_some_iff] at h
      exact h.2 ▸ .plus h.1
    · rw [integer?_plain hminus hplus, map_digits?_eq_some_iff] at h
      exact h.2 ▸ .plain h.1
  · intro h
    cases h with
    | plain hdigits =>
        rw [integer?_plain (hdigits.head?_ne (by decide)) (hdigits.head?_ne (by decide)),
          map_digits?_eq_some_iff]
        exact ⟨hdigits, rfl⟩
    | plus hdigits =>
        rw [integer?_plus, map_digits?_eq_some_iff]
        exact ⟨hdigits, rfl⟩
    | minus hdigits =>
        rw [integer?_minus, map_digits?_eq_some_iff]
        exact ⟨hdigits, rfl⟩

theorem signed64?_eq_some_iff {text : String} {n : Int} :
    signed64? text = some n ↔ Denotes64 text n := by
  rw [signed64?, Option.filter_eq_some_iff, integer?_eq_some_iff, fits, decide_eq_true_iff, limit]
  norm_num [Denotes64]

theorem Denotes.unique {cs : List Char} {n m : Int} (hn : Denotes cs n) (hm : Denotes cs m) : n = m :=
  Option.some.inj ((integer?_eq_some_iff.mpr hn).symm.trans (integer?_eq_some_iff.mpr hm))

/-! ### Which texts denote nothing -/

/-- There is a digit, and nothing but digits and signs. -/
theorem Denotes.mem {cs : List Char} {n : Int} (h : Denotes cs n) :
    (∃ c ∈ cs, c.isDigit = true) ∧ ∀ c ∈ cs, c.isDigit = true ∨ c = '+' ∨ c = '-' := by
  cases h with
  | plain hdigits =>
      obtain ⟨c, hc⟩ := List.exists_mem_of_ne_nil _ hdigits.1
      exact ⟨⟨c, hc, hdigits.2 c hc⟩, fun d hd => .inl (hdigits.2 d hd)⟩
  | plus hdigits | minus hdigits =>
      obtain ⟨c, hc⟩ := List.exists_mem_of_ne_nil _ hdigits.1
      refine ⟨⟨c, List.mem_cons_of_mem _ hc, hdigits.2 c hc⟩, fun d hd => ?_⟩
      rcases List.mem_cons.mp hd with rfl | hd
      · simp
      · exact .inl (hdigits.2 d hd)

/-! ### Written numbers -/

theorem areDigits_toDigits (n : Nat) : AreDigits (Nat.toDigits 10 n) :=
  ⟨Nat.toDigits_ne_nil, fun _ hc => Nat.isDigit_of_mem_toDigits (by decide) (by decide) hc⟩

/-- A number is written as a numeral that denotes it. -/
theorem denotes_toString (n : Int) : Denotes (toString n).toList n := by
  rw [Int.toString_eq_repr, Int.repr_eq_if]
  split_ifs with hsign
  · have h := Denotes.plain (areDigits_toDigits n.toNat)
    rwa [Nat.ofDigitChars_ten_toDigits, Int.toNat_of_nonneg hsign, ← Nat.toList_repr] at h
  · have h := Denotes.minus (areDigits_toDigits (-n).toNat)
    rw [Nat.ofDigitChars_ten_toDigits, Int.toNat_of_nonneg (by omega), ← Nat.toList_repr,
      neg_neg] at h
    rwa [String.toList_append]

end Numeral

end LineShell
