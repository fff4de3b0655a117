/-!
Text as bytes. Encoding is exact; decoding stands up to any bytes by putting one replacement
character for each longest run of bytes that begins a character but does not end one, and for each
byte that begins none.
-/

namespace LineShell

abbrev Bytes := List UInt8

namespace Utf8

def newline : UInt8 := 10

/-- The bytes of a text. -/
def encode (s : String) : Bytes := s.toUTF8.toList

/-- What a first byte announces: the bits it gives, the number of bytes to follow, and the bounds
of the one that follows it directly. -/
structure Lead where
  bits : Nat
  following : Nat
  low : UInt8
  high : UInt8

/-- The lead of a character longer than one byte, or none if no such character begins so. -/
def lead? (b : UInt8) : Option Lead :=
  if 0xC2 ≤ b ∧ b ≤ 0xDF then some ⟨b.toNat % 0x20, 1, 0x80, 0xBF⟩
  else if b = 0xE0 then some ⟨0, 2, 0xA0, 0xBF⟩
  else if b = 0xED then some ⟨0xD, 2, 0x80, 0x9F⟩
  else if 0xE1 ≤ b ∧ b ≤ 0xEF then some ⟨b.toNat % 0x10, 2, 0x80, 0xBF⟩
  else if b = 0xF0 then some ⟨0, 3, 0x90, 0xBF⟩
  else if 0xF1 ≤ b ∧ b ≤ 0xF3 then some ⟨b.toNat % 8, 3, 0x80, 0xBF⟩
  else if b = 0xF4 then some ⟨4, 3, 0x80, 0x8F⟩
  else none

/-- Reads `n` further bytes of a character into `value`. The character is missing when a byte is,
or is out of bounds; the bytes before that one are used up all the same. -/
def finish : Nat → Nat → UInt8 → UInt8 → Bytes → Option Char × Bytes
  | 0, value, _, _, rest => (some (Char.ofNat value), rest)
  | _ + 1, _, _, _, [] => (none, [])
  | n + 1, value, low, high, b :: rest =>
      if low ≤ b ∧ b ≤ high then finish n (value * 64 + b.toNat % 64) 0x80 0xBF rest
      else (none, b :: rest)

/-- The character at the front of `b :: rest`, if there is one, and the bytes after it. -/
def next (b : UInt8) (rest : Bytes) : Option Char × Bytes :=
  if b < 0x80 then (some (Char.ofNat b.toNat), rest)
  else match lead? b with
    | none => (none, rest)
    | some l => finish l.following l.bits l.low l.high rest

theorem length_finish_le (n value : Nat) (low high : UInt8) (rest : Bytes) :
    (finish n value low high rest).2.length ≤ rest.length := by
  induction n generalizing value low high rest with
  | zero => simp [finish]
  | succ n ih =>
      cases rest with
      | nil => simp [finish]
      | cons b rest =>
          rw [finish]
          split
          · exact Nat.le_succ_of_le (ih _ _ _ _)
          · exact Nat.le_refl _

theorem length_next_le (b : UInt8) (rest : Bytes) : (next b rest).2.length ≤ rest.length := by
  rw [next]
  split
  · exact Nat.le_refl _
  · split
    · exact Nat.le_refl _
    · exact length_finish_le _ _ _ _ _

/-- The characters of some bytes; `none` stands where the bytes are no character. -/
def scan (acc : List (Option Char)) : Bytes → List (Option Char)
  | [] => acc.reverse
  | b :: rest => scan ((next b rest).1 :: acc) (next b rest).2
termination_by bytes => bytes.length
decreasing_by exact Nat.lt_succ_of_le (length_next_le b rest)

def replacement : Char := '\ufffd'

/-- The text of any bytes. -/
def decodeLossy (bytes : Bytes) : String :=
  String.ofList ((scan [] bytes).map (·.getD replacement))

/-- The text of bytes that are the encoding of one. -/
def decode? (bytes : Bytes) : Option String :=
  ((scan [] bytes).mapM id).map String.ofList

end Utf8

end LineShell
