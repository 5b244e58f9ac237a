import StorageAdapter.Text.Utf8

/-! # Percent escapes

A byte may be written as `%` and two hexadecimal digits. Everything else stands for itself, a `%`
without two digits behind it and `+` included. -/

namespace StorageAdapter.Text

/-- The value of an ASCII hexadecimal digit in either case. -/
def hexValue (b : UInt8) : Option UInt8 :=
  if 48 ≤ b ∧ b ≤ 57 then some (b - 48)
  else if 97 ≤ b ∧ b ≤ 102 then some (b - 87)
  else if 65 ≤ b ∧ b ≤ 70 then some (b - 55)
  else none

/-- The byte that two hexadecimal digits stand for. -/
def escaped (high low : UInt8) : Option UInt8 := do
  return (← hexValue high) * 16 + (← hexValue low)

/-- Replaces each escape by its byte, once, from left to right. -/
def unescapeBytes : Bytes → Bytes
  | 37 :: high :: low :: bs =>
    match escaped high low with
    | some b => b :: unescapeBytes bs
    | none => 37 :: unescapeBytes (high :: low :: bs)
  | b :: bs => b :: unescapeBytes bs
  | [] => []

/-- The text that a text with percent escapes stands for. -/
def percentDecode (s : String) : String := decodeLossy (unescapeBytes (encode s))

end StorageAdapter.Text
