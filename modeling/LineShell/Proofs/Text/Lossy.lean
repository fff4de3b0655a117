import LineShell.Proofs.Text.Decoded
import Mathlib

/-!
The text of any bytes. Each character stands for its encoding; where the bytes go on with none, one
replacement character stands for as many of them as an encoding can begin with, or for one byte if no
encoding begins with it. A newline is no part of any longer encoding, so a text can be decoded line by
line.
-/

namespace LineShell

namespace Utf8

/-! ### Which text is meant -/

/-- An encoding begins with these bytes and goes on. -/
def Truncated (part : Bytes) : Prop := ∃ c more, more ≠ [] ∧ String.utf8EncodeChar c = part ++ more

/-- Bytes that one replacement character stands for. -/
structure Subpart (part rest : Bytes) : Prop where
  ne_nil : part ≠ []
  not_char : ∀ c, ¬ String.utf8EncodeChar c <+: part ++ rest
  begins : Truncated part ∨ part.length = 1
  longest : ∀ other, Truncated other → other <+: part ++ rest → other.length ≤ part.length

/-- The text of some bytes. -/
inductive Decodes : Bytes → List Char → Prop
  | nil : Decodes [] []
  | char (c : Char) {rest : Bytes} {text : List Char} (h : Decodes rest text) :
      Decodes (String.utf8EncodeChar c ++ rest) (c :: text)
  | subpart {part rest : Bytes} {text : List Char} (hpart : Subpart part rest)
      (h : Decodes rest text) : Decodes (part ++ rest) (replacement :: text)

/-! ### The bytes after the first one -/

/-- Bytes that may follow a first one: they bring six bits each, and the one that follows directly may
have narrower bounds. -/
def Follow (low high : UInt8) : Bytes → Prop
  | [] => True
  | b :: more => (low ≤ b ∧ b ≤ high) ∧ Follow 0x80 0xBF more

/-- What they make of the bits that the first byte brings. -/
def value (bits : Nat) (following : Bytes) : Nat :=
  following.foldl (fun v b => v * 64 + b.toNat % 64) bits

theorem Follow.of_append {low high : UInt8} {part more : Bytes} (h : Follow low high (part ++ more)) :
    Follow low high part := by
  induction part generalizing low high with
  | nil => trivial
  | cons b part ih => exact ⟨h.1, ih h.2⟩

/-- Bytes that are too few can be made up for. -/
theorem Follow.exists_append {low high : UInt8} (hbounds : low ≤ high) {part : Bytes}
    (h : Follow low high part) {n : Nat} (hlength : part.length < n) :
    ∃ more, more ≠ [] ∧ (part ++ more).length = n ∧ Follow low high (part ++ more) := by
  have hrest (m : Nat) : Follow 0x80 0xBF (List.replicate m 0x80) := by
    induction m with
    | zero => trivial
    | succ m ih => exact ⟨by decide, ih⟩
  induction part generalizing low high n with
  | nil =>
      obtain ⟨m, rfl⟩ := Nat.exists_eq_succ_of_ne_zero (Nat.ne_zero_of_lt hlength)
      exact ⟨low :: List.replicate m 0x80, by simp, by simp, ⟨⟨UInt8.le_refl low, hbounds⟩, hrest m⟩⟩
  | cons b part ih =>
      obtain ⟨m, rfl⟩ := Nat.exists_eq_succ_of_ne_zero (Nat.ne_zero_of_lt hlength)
      obtain ⟨more, hne, hmore, hfollow⟩ :=
        ih (by decide) h.2 (n := m) (by simpa using hlength)
      exact ⟨more, hne, by simpa using hmore, h.1, hfollow⟩

/-- Either all bytes are there that are to follow, or the first that is missing, or out of bounds,
is left. -/
theorem exists_finish (n bits : Nat) (low high : UInt8) (rest : Bytes) :
    ∃ part left, rest = part ++ left ∧ Follow low high part ∧
      (part.length = n ∧ finish n bits low high rest = (some (Char.ofNat (value bits part)), left) ∨
        part.length < n ∧ finish n bits low high rest = (none, left) ∧
          ∀ b later, left = b :: later → ¬ Follow low high (part ++ [b])) := by
  induction n generalizing bits low high rest with
  | zero => exact ⟨[], rest, rfl, trivial, .inl ⟨rfl, rfl⟩⟩
  | succ n ih =>
      cases rest with
      | nil => exact ⟨[], [], rfl, trivial, .inr ⟨Nat.succ_pos n, rfl, by simp⟩⟩
      | cons b rest =>
          rw [finish]
          split
          next hb =>
            obtain ⟨part, left, rfl, hpart, hend⟩ := ih (bits * 64 + b.toNat % 64) 0x80 0xBF rest
            refine ⟨b :: part, left, rfl, ⟨hb, hpart⟩, ?_⟩
            rcases hend with ⟨hlength, hsome⟩ | ⟨hlength, hnone, hleft⟩
            · exact .inl ⟨congrArg Nat.succ hlength, hsome⟩
            · exact .inr ⟨Nat.succ_lt_succ hlength, hnone, fun b' later heq hfollow =>
                hleft b' later heq hfollow.2⟩
          next hb =>
            refine ⟨[], b :: rest, rfl, trivial, .inr ⟨Nat.succ_pos n, rfl, ?_⟩⟩
            rintro b' later ⟨rfl, rfl⟩ hfollow
            exact hb hfollow.1

/-! ### The first byte -/

/-- What the first byte of a longer encoding announces: encodings that are longer than they have to
be, halves of characters and numbers that are too large are kept out by the bounds. -/
theorem bounds_of_lead? {b : UInt8} {l : Lead} (h : lead? b = some l) :
    0x80 ≤ l.low.toNat ∧ l.high.toNat ≤ 0xBF ∧ l.low.toNat ≤ l.high.toNat ∧
      (l.following = 1 ∧ b.toNat = l.bits + 192 ∧ 2 ≤ l.bits ∧ l.bits < 32 ∨
        l.following = 2 ∧ b.toNat = l.bits + 224 ∧ l.bits < 16 ∧
          (0 < l.bits ∨ 0xA0 ≤ l.low.toNat) ∧ (l.bits ≠ 13 ∨ l.high.toNat ≤ 0x9F) ∨
        l.following = 3 ∧ b.toNat = l.bits + 240 ∧ l.bits ≤ 4 ∧
          (0 < l.bits ∨ 0x90 ≤ l.low.toNat) ∧ (l.bits < 4 ∨ l.high.toNat ≤ 0x8F)) := by
  have hbyte : b.toNat < 256 := b.toNat_lt
  simp only [lead?, UInt8.le_iff_toNat_le, ← UInt8.toNat_inj, UInt8.reduceToNat] at h
  split_ifs at h <;> cases h <;> simp <;> omega

/-- The first byte, and as many as are to follow it, are the encoding of the character that their bits
come to. -/
theorem utf8EncodeChar_of_follow {b : UInt8} {l : Lead} (hlead : lead? b = some l)
    {following : Bytes} (h : Follow l.low l.high following) (hlength : following.length = l.following) :
    String.utf8EncodeChar (Char.ofNat (value l.bits following)) = b :: following := by
  have hchar {v : Nat} (hv : v < 0xD800 ∨ 0xDFFF < v ∧ v < 0x110000) :
      (Char.ofNat v).val.toNat = v := by
    rw [Char.toNat_val, Char.toNat_ofNat, if_pos hv]
  have hbyte (b' : UInt8) {n : Nat} (heq : n = b'.toNat) : UInt8.ofNat n = b' := by
    rw [heq, UInt8.ofNat_toNat]
  -- By the bounds the number is one whose encoding has as many bytes as these.
  obtain ⟨hlow, hhigh, -, hone | htwo | hthree⟩ := bounds_of_lead? hlead
  · obtain ⟨hfollowing, hb, hbits⟩ := hone
    obtain ⟨b₁, rfl⟩ := List.length_eq_one_iff.mp (hlength.trans hfollowing)
    obtain ⟨⟨hlow₁, hhigh₁⟩, -⟩ := h
    rw [UInt8.le_iff_toNat_le] at hlow₁ hhigh₁
    rw [value, List.foldl_cons, List.foldl_nil, String.utf8EncodeChar, hchar (by omega),
      if_neg (by omega), if_pos (by omega)]
    rw [hbyte b (by omega), hbyte b₁ (by omega)]
  · obtain ⟨hfollowing, hb, hbits, hshort, hhalf⟩ := htwo
    obtain ⟨b₁, b₂, rfl⟩ := List.length_eq_two.mp (hlength.trans hfollowing)
    obtain ⟨⟨hlow₁, hhigh₁⟩, ⟨hlow₂, hhigh₂⟩, -⟩ := h
    rw [UInt8.le_iff_toNat_le] at hlow₁ hhigh₁ hlow₂ hhigh₂
    simp only [UInt8.reduceToNat] at hlow₂ hhigh₂
    rw [value, List.foldl_cons, List.foldl_cons, List.foldl_nil, String.utf8EncodeChar,
      hchar (by omega), if_neg (by omega), if_neg (by omega), if_pos (by omega)]
    rw [hbyte b (by omega), hbyte b₁ (by omega), hbyte b₂ (by omega)]
  · obtain ⟨hfollowing, hb, hbits, hshort, hlarge⟩ := hthree
    obtain ⟨b₁, b₂, b₃, rfl⟩ := List.length_eq_three.mp (hlength.trans hfollowing)
    obtain ⟨⟨hlow₁, hhigh₁⟩, ⟨hlow₂, hhigh₂⟩, ⟨hlow₃, hhigh₃⟩, -⟩ := h
    rw [UInt8.le_iff_toNat_le] at hlow₁ hhigh₁ hlow₂ hhigh₂ hlow₃ hhigh₃
    simp only [UInt8.reduceToNat] at hlow₂ hhigh₂ hlow₃ hhigh₃
    rw [value, List.foldl_cons, List.foldl_cons, List.foldl_cons, List.foldl_nil,
      String.utf8EncodeChar, hchar (by omega), if_neg (by omega), if_neg (by omega),
      if_neg (by omega)]
    rw [hbyte b (by omega), hbyte b₁ (by omega), hbyte b₂ (by omega),
      hbyte b₃ (by omega)]

/-! ### One character or none -/

theorem next_of_encoding {c : Char} {b : UInt8} {more : Bytes}
    (h : String.utf8EncodeChar c = b :: more) (rest : Bytes) :
    next b (more ++ rest) = (some c, rest) := by
  obtain ⟨b', more', hencode, hnext⟩ := next_utf8EncodeChar c
  obtain ⟨rfl, rfl⟩ := List.cons.inj (h.symm.trans hencode)
  exact hnext rest

theorem encoding_inj {c c' : Char} {rest rest' : Bytes}
    (h : String.utf8EncodeChar c ++ rest = String.utf8EncodeChar c' ++ rest') :
    c = c' ∧ rest = rest' := by
  obtain ⟨b, more, hencode, hnext⟩ := next_utf8EncodeChar c
  obtain ⟨b', more', hencode', hnext'⟩ := next_utf8EncodeChar c'
  rw [hencode, hencode', List.cons_append, List.cons_append] at h
  obtain ⟨rfl, hmore⟩ := List.cons.inj h
  have hboth := (hnext rest).symm.trans ((congrArg (next b) hmore).trans (hnext' rest'))
  simpa using hboth

/-- The first byte of an encoding and those after it, where `rest` are all bytes to come. -/
theorem exists_more_of_prefix {c : Char} {b : UInt8} {rest : Bytes}
    (h : String.utf8EncodeChar c <+: b :: rest) :
    ∃ more later, String.utf8EncodeChar c = b :: more ∧ rest = more ++ later := by
  obtain ⟨later, hlater⟩ := h
  cases hencode : String.utf8EncodeChar c with
  | nil => exact absurd hencode String.utf8EncodeChar_ne_nil
  | cons b' more =>
      rw [hencode, List.cons_append] at hlater
      obtain ⟨rfl, rfl⟩ := List.cons.inj hlater
      exact ⟨more, later, rfl, rfl⟩

theorem next_of_lead? {b : UInt8} {l : Lead} (hb : ¬ b < 0x80) (hlead : lead? b = some l)
    (rest : Bytes) : next b rest = finish l.following l.bits l.low l.high rest := by
  rw [next, if_neg hb, hlead]

/-- The bytes of an encoding after the first one are within the bounds that it announces. -/
theorem follow_of_encoding {c : Char} {b : UInt8} {more : Bytes} {l : Lead} (hb : ¬ b < 0x80)
    (hlead : lead? b = some l) (h : String.utf8EncodeChar c = b :: more) :
    Follow l.low l.high more := by
  have hnext := next_of_encoding h []
  rw [next_of_lead? hb hlead, List.append_nil] at hnext
  obtain ⟨part, left, rfl, hpart, ⟨-, hsome⟩ | ⟨-, hnone, -⟩⟩ :=
    exists_finish l.following l.bits l.low l.high more
  · rw [hnext] at hsome
    cases hsome
    simpa using hpart
  · rw [hnext] at hnone
    cases hnone

theorem not_char_of_next {b : UInt8} {rest left : Bytes} (h : next b rest = (none, left)) (c : Char) :
    ¬ String.utf8EncodeChar c <+: b :: rest := by
  intro hprefix
  obtain ⟨more, later, hencode, rfl⟩ := exists_more_of_prefix hprefix
  rw [next_of_encoding hencode] at h
  cases h

/-- No encoding begins with a byte that announces none. -/
theorem subpart_singleton {b : UInt8} (hb : ¬ b < 0x80) (hlead : lead? b = none) (rest : Bytes) :
    Subpart [b] rest where
  ne_nil := List.cons_ne_nil b []
  not_char := not_char_of_next (show next b rest = (none, rest) by rw [next, if_neg hb, hlead])
  begins := .inr rfl
  longest := by
    rintro other ⟨c, more, -, hencode⟩ hprefix
    cases other with
    | nil => exact Nat.zero_le _
    | cons b' other =>
        obtain ⟨rfl, -⟩ := List.cons_prefix_cons.mp hprefix
        rw [List.cons_append] at hencode
        have hnext := next_of_encoding hencode []
        rw [next, if_neg hb, hlead] at hnext
        cases hnext

/-- An encoding begins with the first byte and all that may follow it, up to one that is missing. -/
theorem subpart_of_follow {b : UInt8} {l : Lead} (hb : ¬ b < 0x80) (hlead : lead? b = some l)
    {part left : Bytes} (hpart : Follow l.low l.high part) (hlength : part.length < l.following)
    (hnext : next b (part ++ left) = (none, left))
    (hleft : ∀ b' later, left = b' :: later → ¬ Follow l.low l.high (part ++ [b'])) :
    Subpart (b :: part) left where
  ne_nil := List.cons_ne_nil b part
  not_char := not_char_of_next hnext
  begins := by
    have hbounds := (bounds_of_lead? hlead).2.2.1
    obtain ⟨more, hne, hmore, hfollow⟩ :=
      hpart.exists_append (UInt8.le_iff_toNat_le.mpr hbounds) hlength
    exact .inl ⟨_, more, hne, utf8EncodeChar_of_follow hlead hfollow hmore⟩
  longest := by
    rintro other ⟨c, more, -, hencode⟩ hprefix
    -- A longer one would go on with the byte that cannot follow.
    by_contra hlonger
    have hmine : b :: part <+: other :=
      List.prefix_of_prefix_length_le (List.prefix_append _ left) hprefix (by omega)
    obtain ⟨others, rfl⟩ := hmine
    obtain ⟨later, hlater⟩ : others <+: left := (List.prefix_append_right_inj _).mp hprefix
    cases others with
    | nil => simp at hlonger
    | cons b' others =>
        rw [List.cons_append, List.cons_append] at hencode
        have hfollow := follow_of_encoding hb hlead hencode
        rw [List.append_cons part b' others, List.append_assoc] at hfollow
        exact hleft b' (others ++ later) hlater.symm hfollow.of_append

/-- What is taken for a character is one, and bytes that are not are as many as one replacement
character stands for. -/
theorem exists_next (b : UInt8) (rest : Bytes) :
    (∃ c left, next b rest = (some c, left) ∧ b :: rest = String.utf8EncodeChar c ++ left) ∨
      ∃ part left, next b rest = (none, left) ∧ b :: rest = part ++ left ∧ Subpart part left := by
  by_cases hb : b < 0x80
  · refine .inl ⟨Char.ofNat b.toNat, rest, by rw [next, if_pos hb], ?_⟩
    have hsmall : b.toNat < 0x80 := UInt8.lt_iff_toNat_lt.mp hb
    have hchar : (Char.ofNat b.toNat).val.toNat = b.toNat := by
      rw [Char.toNat_val, Char.toNat_ofNat, if_pos (.inl (by omega))]
    rw [String.utf8EncodeChar, hchar, if_pos (by omega), UInt8.ofNat_toNat]
    rfl
  cases hlead : lead? b with
  | none =>
      exact .inr ⟨[b], rest, by rw [next, if_neg hb, hlead], rfl, subpart_singleton hb hlead rest⟩
  | some l =>
      obtain ⟨part, left, rfl, hpart, ⟨hlength, hsome⟩ | ⟨hlength, hnone, hleft⟩⟩ :=
        exists_finish l.following l.bits l.low l.high rest
      · refine .inl ⟨_, left, (next_of_lead? hb hlead _).trans hsome, ?_⟩
        rw [utf8EncodeChar_of_follow hlead hpart hlength, List.cons_append]
      · have hnext := (next_of_lead? hb hlead (part ++ left)).trans hnone
        exact .inr ⟨b :: part, left, hnext, rfl,
          subpart_of_follow hb hlead hpart hlength hnext hleft⟩

/-! ### Whole texts -/

theorem scan_append (acc : List (Option Char)) (bytes : Bytes) :
    scan acc bytes = acc.reverse ++ scan [] bytes := by
  induction hlength : bytes.length using Nat.strong_induction_on generalizing acc bytes with
  | _ n ih =>
      cases bytes with
      | nil => simp [scan]
      | cons b rest =>
          have hshorter : (next b rest).2.length < n :=
            hlength ▸ Nat.lt_succ_of_le (length_next_le b rest)
          rw [scan, scan, ih _ hshorter (_ :: acc) _ rfl, ih _ hshorter [_] _ rfl]
          simp

theorem scan_cons (b : UInt8) (rest : Bytes) :
    scan [] (b :: rest) = (next b rest).1 :: scan [] (next b rest).2 := by
  rw [scan, scan_append]
  rfl

theorem decodes_scan (bytes : Bytes) : Decodes bytes ((scan [] bytes).map (·.getD replacement)) := by
  induction hlength : bytes.length using Nat.strong_induction_on generalizing bytes with
  | _ n ih =>
      cases bytes with
      | nil => simpa [scan] using Decodes.nil
      | cons b rest =>
          have hshorter : (next b rest).2.length < n :=
            hlength ▸ Nat.lt_succ_of_le (length_next_le b rest)
          have hlater := ih _ hshorter (next b rest).2 rfl
          rw [scan_cons]
          rcases exists_next b rest with ⟨c, left, hnext, hbytes⟩ | ⟨part, left, hnext, hbytes, hpart⟩
          · rw [hnext] at hlater ⊢
            rw [hbytes]
            exact .char c hlater
          · rw [hnext] at hlater ⊢
            rw [hbytes]
            exact .subpart hpart hlater

theorem Subpart.length_eq {part rest part' rest' : Bytes} (h : Subpart part rest)
    (h' : Subpart part' rest') (heq : part ++ rest = part' ++ rest') : part.length = part'.length := by
  have hle {p r p' r' : Bytes} (h : Subpart p r) (h' : Subpart p' r') (heq : p ++ r = p' ++ r') :
      p.length ≤ p'.length := by
    rcases h.begins with htruncated | hone
    · exact h'.longest p htruncated (heq ▸ List.prefix_append p r)
    · have hpos := List.length_pos_iff.mpr h'.ne_nil
      omega
  exact Nat.le_antisymm (hle h h' heq) (hle h' h heq.symm)

/-- There is only one text of some bytes. -/
theorem Decodes.unique {bytes : Bytes} {text text' : List Char} (h : Decodes bytes text)
    (h' : Decodes bytes text') : text = text' := by
  induction h generalizing text' with
  | nil =>
      generalize hbytes : ([] : Bytes) = bytes at h'
      cases h' with
      | nil => rfl
      | char c' _ =>
          exact absurd (List.append_eq_nil_iff.mp hbytes.symm).1 String.utf8EncodeChar_ne_nil
      | subpart hpart' _ => exact absurd (List.append_eq_nil_iff.mp hbytes.symm).1 hpart'.ne_nil
  | @char c rest text h ih =>
      generalize hbytes : String.utf8EncodeChar c ++ rest = bytes at h'
      cases h' with
      | nil => exact absurd (List.append_eq_nil_iff.mp hbytes).1 String.utf8EncodeChar_ne_nil
      | char c' hlater' =>
          obtain ⟨rfl, rfl⟩ := encoding_inj hbytes
          rw [ih hlater']
      | subpart hpart' _ => exact absurd ⟨rest, hbytes⟩ (hpart'.not_char c)
  | @subpart part rest text hpart h ih =>
      generalize hbytes : part ++ rest = bytes at h'
      cases h' with
      | nil => exact absurd (List.append_eq_nil_iff.mp hbytes).1 hpart.ne_nil
      | char c' _ => exact absurd ⟨_, hbytes.symm⟩ (hpart.not_char c')
      | subpart hpart' hlater' =>
          obtain ⟨rfl, rfl⟩ := List.append_inj hbytes (hpart.length_eq hpart' hbytes)
          rw [ih hlater']

/-- The text of some bytes has one replacement character for each longest run of bytes that is the
beginning of an encoding and no more, and for each byte that begins none. -/
theorem decodes_iff (bytes : Bytes) (text : List Char) :
    Decodes bytes text ↔ text = (decodeLossy bytes).toList := by
  have h : Decodes bytes (decodeLossy bytes).toList := by
    rw [decodeLossy, String.toList_ofList]
    exact decodes_scan bytes
  exact ⟨fun h' => h'.unique h, fun heq => heq ▸ h⟩

/-! ### Newlines -/

theorem newline_lt_low {b : UInt8} {l : Lead} (h : lead? b = some l) : newline < l.low := by
  have hlow := (bounds_of_lead? h).1
  exact UInt8.lt_iff_toNat_lt.mpr (Nat.lt_of_lt_of_le (by decide) hlow)

theorem finish_append_newline {low : UInt8} (hlow : newline < low) (n bits : Nat) (high : UInt8)
    (bytes later : Bytes) :
    finish n bits low high (bytes ++ newline :: later) =
      ((finish n bits low high bytes).1, (finish n bits low high bytes).2 ++ newline :: later) := by
  induction n generalizing bits low high bytes with
  | zero => rfl
  | succ n ih =>
      cases bytes with
      | nil =>
          have hout : ¬ (low ≤ newline ∧ newline ≤ high) := fun h => UInt8.not_le.mpr hlow h.1
          have hnone : finish (n + 1) bits low high (newline :: later) = (none, newline :: later) := by
            rw [finish, if_neg hout]
          exact hnone
      | cons b bytes =>
          rw [List.cons_append, finish, finish]
          split
          · exact ih (by decide) ..
          · rfl

theorem next_append_newline (b : UInt8) (bytes later : Bytes) :
    next b (bytes ++ newline :: later) =
      ((next b bytes).1, (next b bytes).2 ++ newline :: later) := by
  simp only [next]
  split
  · rfl
  · cases hlead : lead? b with
    | none => rfl
    | some l => exact finish_append_newline (newline_lt_low hlead) ..

theorem scan_append_newline (bytes later : Bytes) :
    scan [] (bytes ++ newline :: later) = scan [] bytes ++ some '\n' :: scan [] later := by
  induction hlength : bytes.length using Nat.strong_induction_on generalizing bytes with
  | _ n ih =>
      cases bytes with
      | nil =>
          rw [List.nil_append, scan_cons, show scan [] ([] : Bytes) = [] by simp [scan]]
          rfl
      | cons b bytes =>
          have hshorter : (next b bytes).2.length < n :=
            hlength ▸ Nat.lt_succ_of_le (length_next_le b bytes)
          rw [List.cons_append, scan_cons, scan_cons, next_append_newline, ih _ hshorter _ rfl]
          rfl

/-- The lines of a text can be decoded one by one. -/
theorem decodeLossy_newline (bytes later : Bytes) :
    decodeLossy (bytes ++ newline :: later) = decodeLossy bytes ++ "\n" ++ decodeLossy later := by
  rw [← String.toList_inj]
  simp [decodeLossy, scan_append_newline]

end Utf8

end LineShell
