import StorageAdapter.Bytes

/-! # Text as UTF-8

Texts are measured, cut and sent as their UTF-8 bytes. Reading bytes back goes one byte at a time:
`units` yields a character for each well-formed sequence and one mark for each maximal ill-formed
part, from which both the forgiving reading (`decodeLossy`) and the strict one (`decode?`)
follow. -/

namespace StorageAdapter.Text

/-! ## Writing -/

/-- The UTF-8 bytes of a text. -/
def encode (s : String) : Bytes := s.toList.flatMap String.utf8EncodeChar

/-- The number of bytes of a text. -/
def size (s : String) : Nat := (encode s).length

/-! ## Reading -/

/-- The character that stands for ill-formed bytes. -/
def replacement : Char := Char.ofNat 0xFFFD

/-- A character of which some bytes have been read: its value so far, the number of bytes that are
missing, and the range in which the next one must lie. -/
structure Open where
  value : Nat
  missing : Nat
  low : UInt8
  high : UInt8
deriving DecidableEq, Repr

/-- What a lead byte of a longer sequence opens. The narrower ranges of the second byte rule out
overlong forms, surrogates and values above the last code point. -/
def lead (b : UInt8) : Option Open :=
  if 0xC2 ≤ b ∧ b ≤ 0xDF then some ⟨b.toNat - 0xC0, 1, 0x80, 0xBF⟩
  else if b = 0xE0 then some ⟨0, 2, 0xA0, 0xBF⟩
  else if b = 0xED then some ⟨0xD, 2, 0x80, 0x9F⟩
  else if 0xE1 ≤ b ∧ b ≤ 0xEF then some ⟨b.toNat - 0xE0, 2, 0x80, 0xBF⟩
  else if b = 0xF0 then some ⟨0, 3, 0x90, 0xBF⟩
  else if 0xF1 ≤ b ∧ b ≤ 0xF3 then some ⟨b.toNat - 0xF0, 3, 0x80, 0xBF⟩
  else if b = 0xF4 then some ⟨4, 3, 0x80, 0x8F⟩
  else none

/-- Reads a byte where a character may begin: what it completes, and what it opens. -/
def start (b : UInt8) : List (Option Char) × Option Open :=
  if b < 0x80 then ([some (Char.ofNat b.toNat)], none)
  else match lead b with
    | some p => ([], some p)
    | none => ([none], none)

/-- Reads a byte inside a character. A byte out of range ends the ill-formed part before it and is
read again as a beginning. -/
def resume (p : Open) (b : UInt8) : List (Option Char) × Option Open :=
  if p.low ≤ b ∧ b ≤ p.high then
    let value := p.value * 64 + (b.toNat - 0x80)
    if p.missing ≤ 1 then ([some (Char.ofNat value)], none)
    else ([], some ⟨value, p.missing - 1, 0x80, 0xBF⟩)
  else
    let (done, next) := start b
    (none :: done, next)

/-- The characters of the bytes after what has been read, with `none` for each maximal ill-formed
part. -/
def unitsFrom : Option Open → Bytes → List (Option Char)
  | none, [] => []
  | some _, [] => [none]
  | none, b :: bs => (start b).1 ++ unitsFrom (start b).2 bs
  | some p, b :: bs => (resume p b).1 ++ unitsFrom (resume p b).2 bs

/-- The characters of the bytes, with `none` for each maximal ill-formed part. -/
def units (bs : Bytes) : List (Option Char) := unitsFrom none bs

/-- The text of the bytes, with one replacement character for each maximal ill-formed part. -/
def decodeLossy (bs : Bytes) : String :=
  String.ofList ((units bs).map (·.getD replacement))

/-- The text of well-formed bytes. -/
def decode? (bs : Bytes) : Option String := ((units bs).mapM id).map String.ofList

/-- The text of a field filled up with NUL. -/
def ofField (field : Bytes) : String := decodeLossy field.beforeNul

end StorageAdapter.Text
