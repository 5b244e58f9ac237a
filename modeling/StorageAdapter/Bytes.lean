/-! # Bytes

What travels on the bus and lies in files is a list of bytes. This module holds the ways they are
laid out: the part of a field before its terminator, fields of a fixed width, little-endian words
and hexadecimal text. -/

namespace StorageAdapter

/-- A run of bytes, as on the bus or in a file. -/
abbrev Bytes := List UInt8

namespace Bytes

/-! ## Terminated and padded fields -/

/-- The bytes before the first NUL, all of them if there is none. -/
def beforeNul (bs : Bytes) : Bytes := bs.takeWhile (· != 0)

/-- The bytes after the first NUL, or `none` if there is no NUL. -/
def afterNul : Bytes → Option Bytes
  | [] => none
  | b :: bs => if b = 0 then some bs else afterNul bs

/-- The bytes cut or filled up with NUL to exactly `width`. -/
def padded (width : Nat) (bs : Bytes) : Bytes :=
  bs.take width ++ List.replicate (width - bs.length) 0

/-- A field of `width` bytes that always ends in NUL: at most `width - 1` bytes are kept. -/
def terminated (width : Nat) (bs : Bytes) : Bytes := padded (width - 1) bs ++ [0]

/-- The bytes in consecutive pieces of `width`; a shorter rest is dropped. -/
def pieces (width : Nat) : Nat → Bytes → List Bytes
  | 0, _ => []
  | n + 1, bs => bs.take width :: pieces width n (bs.drop width)

@[simp] theorem length_padded (width : Nat) (bs : Bytes) : (padded width bs).length = width := by
  simp only [padded, List.length_append, List.length_take, List.length_replicate]; omega

/-! ## Words -/

/-- The two bytes of a word, low byte first. -/
def ofWord (w : UInt16) : Bytes := [UInt8.ofNat (w.toNat % 256), UInt8.ofNat (w.toNat / 256)]

/-- The word with the given low and high byte. -/
def word (low high : UInt8) : UInt16 := UInt16.ofNat (low.toNat + 256 * high.toNat)

theorem word_ofWord (w : UInt16) :
    word (UInt8.ofNat (w.toNat % 256)) (UInt8.ofNat (w.toNat / 256)) = w := by
  have hlt := w.toNat_lt
  have hvalue : (UInt8.ofNat (w.toNat % 256)).toNat + 256 * (UInt8.ofNat (w.toNat / 256)).toNat =
      w.toNat := by
    rw [UInt8.toNat_ofNat', UInt8.toNat_ofNat']
    omega
  unfold word
  rw [hvalue]
  exact UInt16.ofNat_toNat

/-! ## Hexadecimal text -/

/-- The lowercase hexadecimal digit of a value below sixteen. -/
def hexDigit (n : Nat) : Char := if n < 10 then Char.ofNat (48 + n) else Char.ofNat (87 + n)

/-- The two lowercase hexadecimal digits of a byte. -/
def hexPair (b : UInt8) : List Char := [hexDigit (b.toNat / 16), hexDigit (b.toNat % 16)]

/-- The bytes as lowercase hexadecimal text, two digits a byte. -/
def hex (bs : Bytes) : String := String.ofList (bs.flatMap hexPair)

/-- The number of bytes that a preview shows. -/
def previewLength : Nat := 64

/-- Hexadecimal text of the first bytes, with a note of the full length when some are left out. -/
def preview (bs : Bytes) : String :=
  if bs.length ≤ previewLength then hex bs
  else hex (bs.take previewLength) ++ " [truncated from " ++ toString bs.length ++ "]"

end Bytes

end StorageAdapter
