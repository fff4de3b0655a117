import LineShell.Text.Utf8
import Mathlib

/-!
Text as bytes and back: what was encoded is decoded without loss.
-/

namespace LineShell

namespace Utf8

/-! ### The bytes of a text -/

theorem toList_loop (bytes : ByteArray) (i : Nat) (done : List UInt8) :
    ByteArray.toList.loop bytes i done = done.reverse ++ bytes.data.toList.drop i := by
  induction i, done using ByteArray.toList.loop.induct bytes with
  | case1 i done hlt ih =>
      have hlength : i < bytes.data.toList.length := by simpa using hlt
      have hget : bytes.get! i = bytes.data[i]! := by cases bytes; rfl
      rw [ByteArray.toList.loop, if_pos hlt, ih, List.drop_eq_getElem_cons hlength, hget,
        getElem!_pos bytes.data i hlt]
      simp
  | case2 i done hge =>
      rw [ByteArray.toList.loop, if_neg hge, List.drop_eq_nil_of_le (by simpa using hge)]
      simp

theorem encode_ofList (text : List Char) :
    encode (String.ofList text) = text.flatMap String.utf8EncodeChar := by
  rw [encode, String.toUTF8_eq_toByteArray, String.toByteArray_ofList, ByteArray.toList, toList_loop]
  simp [List.utf8Encode]

theorem encode_eq_flatMap (text : String) :
    encode text = text.toList.flatMap String.utf8EncodeChar := by
  rw [← encode_ofList, String.ofList_toList]

@[simp] theorem encode_empty : encode "" = [] := by
  rw [← String.ofList_nil, encode_ofList]
  rfl

theorem encode_ofList_append (text later : List Char) :
    encode (String.ofList (text ++ later)) =
      encode (String.ofList text) ++ encode (String.ofList later) := by
  simp only [encode_ofList, List.flatMap_append]

theorem isEmpty_encode_ofList (text : List Char) :
    (encode (String.ofList text)).isEmpty = text.isEmpty := by
  rw [encode_ofList]
  cases text with
  | nil => rfl
  | cons c rest =>
      have hne : String.utf8EncodeChar c ≠ [] := String.utf8EncodeChar_ne_nil
      simp [hne]

/-! ### One character -/

theorem toNat_ofNat_of_lt {n : Nat} (h : n < 256) : (UInt8.ofNat n).toNat = n := by
  rw [UInt8.toNat_ofNat']
  exact Nat.mod_eq_of_lt h

/-- One of the bytes that follow the first one brings six bits. -/
theorem finish_succ_ofNat {n value bits : Nat} {low high : UInt8} {rest : Bytes} (hbits : bits < 64)
    (hlow : low.toNat ≤ bits + 128) (hhigh : bits + 128 ≤ high.toNat) :
    finish (n + 1) value low high (UInt8.ofNat (bits + 128) :: rest) =
      finish n (value * 64 + bits) 0x80 0xBF rest := by
  have hbyte := toNat_ofNat_of_lt (n := bits + 128) (by omega)
  rw [finish, if_pos (by rw [UInt8.le_iff_toNat_le, UInt8.le_iff_toNat_le, hbyte]; exact ⟨hlow, hhigh⟩),
    hbyte]
  congr 1
  omega

/-- The first of two bytes. -/
theorem lead?_two {v : Nat} (hlow : 0x80 ≤ v) (hhigh : v ≤ 0x7FF) :
    lead? (UInt8.ofNat (v / 64 % 32 + 192)) = some ⟨v / 64, 1, 0x80, 0xBF⟩ := by
  have hbyte := toNat_ofNat_of_lt (n := v / 64 % 32 + 192) (by omega)
  simp only [lead?, UInt8.le_iff_toNat_le, hbyte]
  rw [if_pos (by constructor <;> simp <;> omega)]
  congr 2
  omega

/-- The first of three bytes. With it goes a range for the second one that leaves room neither for
characters that two bytes would do for nor for halves of characters. -/
theorem lead?_three {v : Nat} (hlow : 0x7FF < v) (hhigh : v ≤ 0xFFFF)
    (hvalid : v < 0xD800 ∨ 0xDFFF < v) :
    ∃ low high, lead? (UInt8.ofNat (v / 4096 % 16 + 224)) = some ⟨v / 4096, 2, low, high⟩ ∧
      low.toNat ≤ v / 64 % 64 + 128 ∧ v / 64 % 64 + 128 ≤ high.toNat := by
  have hbyte := toNat_ofNat_of_lt (n := v / 4096 % 16 + 224) (by omega)
  simp only [lead?, UInt8.le_iff_toNat_le, ← UInt8.toNat_inj, hbyte, UInt8.reduceToNat]
  rw [if_neg (by omega)]
  split_ifs with hfirst hhalves
  · exact ⟨0xA0, 0xBF, by congr 2; omega, by simp; omega, by simp; omega⟩
  · exact ⟨0x80, 0x9F, by congr 2; omega, by simp, by simp; omega⟩
  · exact ⟨0x80, 0xBF, by congr 2; omega, by simp, by simp; omega⟩
  all_goals omega

/-- The first of four bytes. -/
theorem lead?_four {v : Nat} (hlow : 0xFFFF < v) (hhigh : v < 0x110000) :
    ∃ low high, lead? (UInt8.ofNat (v / 262144 % 8 + 240)) = some ⟨v / 262144, 3, low, high⟩ ∧
      low.toNat ≤ v / 4096 % 64 + 128 ∧ v / 4096 % 64 + 128 ≤ high.toNat := by
  have hbyte := toNat_ofNat_of_lt (n := v / 262144 % 8 + 240) (by omega)
  simp only [lead?, UInt8.le_iff_toNat_le, ← UInt8.toNat_inj, hbyte, UInt8.reduceToNat]
  rw [if_neg (by omega), if_neg (by omega), if_neg (by omega), if_neg (by omega)]
  split_ifs with hfirst hmiddle hlast
  · exact ⟨0x90, 0xBF, by congr 2; omega, by simp; omega, by simp; omega⟩
  · exact ⟨0x80, 0xBF, by congr 2; omega, by simp, by simp; omega⟩
  · exact ⟨0x80, 0x8F, by congr 2; omega, by simp, by simp; omega⟩
  · omega

/-- A character of more than one byte is read by what its first byte announces. -/
theorem next_ofNat {n : Nat} {rest : Bytes} {l : Lead} (hlow : 0x80 ≤ n) (hhigh : n < 256)
    (hlead : lead? (UInt8.ofNat n) = some l) :
    next (UInt8.ofNat n) rest = finish l.following l.bits l.low l.high rest := by
  have hbyte := toNat_ofNat_of_lt hhigh
  rw [next, if_neg (by rw [UInt8.lt_iff_toNat_lt, hbyte]; simpa using hlow), hlead]

/-- The bytes of a character are read as that character. -/
theorem next_utf8EncodeChar (c : Char) : ∃ b more, String.utf8EncodeChar c = b :: more ∧
    ∀ rest, next b (more ++ rest) = (some c, rest) := by
  have hchar : Char.ofNat c.val.toNat = c := Char.ofNat_toNat c
  have hvalid : c.val.toNat < 0xD800 ∨ 0xDFFF < c.val.toNat ∧ c.val.toNat < 0x110000 := c.valid
  -- A byte that brings six bits is in bounds if no others are set for it.
  have hbits (n : Nat) : n % 64 < 64 ∧ (0x80 : UInt8).toNat ≤ n % 64 + 128 ∧
      n % 64 + 128 ≤ (0xBF : UInt8).toNat := by
    simp
    omega
  rw [String.utf8EncodeChar]
  generalize c.val.toNat = v at hchar hvalid
  split_ifs with hone htwo hthree
  · refine ⟨_, _, rfl, fun rest => ?_⟩
    have hbyte := toNat_ofNat_of_lt (n := v) (by omega)
    rw [next, if_pos (by rw [UInt8.lt_iff_toNat_lt, hbyte]; simp; omega), hbyte, hchar]
    rfl
  · refine ⟨_, _, rfl, fun rest => ?_⟩
    have hlead := lead?_two (v := v) (by omega) htwo
    obtain ⟨hlast, hlastLow, hlastHigh⟩ := hbits v
    rw [next_ofNat (by omega) (by omega) hlead, List.cons_append,
      finish_succ_ofNat hlast hlastLow hlastHigh, finish]
    rw [show v / 64 * 64 + v % 64 = v by omega, hchar]
    rfl
  · refine ⟨_, _, rfl, fun rest => ?_⟩
    obtain ⟨low, high, hlead, hlow, hhigh⟩ := lead?_three (v := v) (by omega) hthree (by omega)
    obtain ⟨hlast, hlastLow, hlastHigh⟩ := hbits v
    rw [next_ofNat (by omega) (by omega) hlead, List.cons_append,
      finish_succ_ofNat (hbits (v / 64)).1 hlow hhigh, List.cons_append,
      finish_succ_ofNat hlast hlastLow hlastHigh, finish]
    rw [show (v / 4096 * 64 + v / 64 % 64) * 64 + v % 64 = v by omega, hchar]
    rfl
  · refine ⟨_, _, rfl, fun rest => ?_⟩
    obtain ⟨low, high, hlead, hlow, hhigh⟩ := lead?_four (v := v) (by omega) (by omega)
    obtain ⟨hlast, hlastLow, hlastHigh⟩ := hbits v
    obtain ⟨hthird, hthirdLow, hthirdHigh⟩ := hbits (v / 64)
    rw [next_ofNat (by omega) (by omega) hlead, List.cons_append,
      finish_succ_ofNat (hbits (v / 4096)).1 hlow hhigh, List.cons_append,
      finish_succ_ofNat hthird hthirdLow hthirdHigh, List.cons_append,
      finish_succ_ofNat hlast hlastLow hlastHigh, finish]
    rw [show ((v / 262144 * 64 + v / 4096 % 64) * 64 + v / 64 % 64) * 64 + v % 64 = v by omega,
      hchar]
    rfl

/-- A byte below 128 stands for a character of its own. -/
theorem eq_ofNat_of_mem_utf8EncodeChar {b : UInt8} (hb : b < 0x80) {c : Char}
    (h : b ∈ String.utf8EncodeChar c) : c = Char.ofNat b.toNat := by
  have hchar : Char.ofNat c.val.toNat = c := Char.ofNat_toNat c
  have hbytes {n : Nat} (hlow : 0x80 ≤ n) (hhigh : n < 256) : b ≠ UInt8.ofNat n := by
    rintro rfl
    rw [UInt8.lt_iff_toNat_lt, toNat_ofNat_of_lt hhigh] at hb
    exact absurd hb (Nat.not_lt.mpr hlow)
  rw [String.utf8EncodeChar] at h
  generalize c.val.toNat = v at hchar h
  split_ifs at h with hone htwo hthree
  · obtain rfl := List.mem_singleton.mp h
    rw [toNat_ofNat_of_lt (by omega), hchar]
  · simp only [List.mem_cons, List.not_mem_nil, or_false] at h
    rcases h with h | h <;> exact absurd h (hbytes (by omega) (by omega))
  · simp only [List.mem_cons, List.not_mem_nil, or_false] at h
    rcases h with h | h | h <;> exact absurd h (hbytes (by omega) (by omega))
  · simp only [List.mem_cons, List.not_mem_nil, or_false] at h
    rcases h with h | h | h | h <;> exact absurd h (hbytes (by omega) (by omega))

theorem eq_newline_of_mem_utf8EncodeChar {c : Char} (h : newline ∈ String.utf8EncodeChar c) :
    c = '\n' :=
  eq_ofNat_of_mem_utf8EncodeChar (by decide) h

/-! ### Whole texts -/

theorem encode_newline (text later : List Char) :
    encode (String.ofList (text ++ '\n' :: later)) =
      encode (String.ofList text) ++ newline :: encode (String.ofList later) := by
  rw [encode_ofList_append, encode_ofList ('\n' :: later), encode_ofList later]
  rfl

theorem newline_notMem_encode {text : List Char} (h : '\n' ∉ text) :
    newline ∉ encode (String.ofList text) := by
  rw [encode_ofList, List.mem_flatMap]
  rintro ⟨c, hc, hnewline⟩
  exact h (eq_newline_of_mem_utf8EncodeChar hnewline ▸ hc)

theorem scan_encode (acc : List (Option Char)) (text : List Char) :
    scan acc (text.flatMap String.utf8EncodeChar) = acc.reverse ++ text.map some := by
  induction text generalizing acc with
  | nil => simp [scan]
  | cons c rest ih =>
      obtain ⟨b, more, hencode, hnext⟩ := next_utf8EncodeChar c
      rw [List.flatMap_cons, hencode, List.cons_append, scan, hnext, ih]
      simp

theorem decodeLossy_encode (text : String) : decodeLossy (encode text) = text := by
  rw [decodeLossy, encode_eq_flatMap, scan_encode]
  simp [Function.comp_def]

theorem decode?_encode (text : String) : decode? (encode text) = some text := by
  have hall : (text.toList.map some).mapM id = some text.toList := by
    rw [List.mapM_map]
    exact (List.mapM_pure (f := id)).trans (congrArg some (List.map_id _))
  rw [decode?, encode_eq_flatMap, scan_encode, List.reverse_nil, List.nil_append, hall]
  simp

end Utf8

end LineShell
