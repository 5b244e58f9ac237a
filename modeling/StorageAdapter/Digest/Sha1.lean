import StorageAdapter.Digest.Padding

/-! # SHA-1 -/

namespace StorageAdapter.Digest.Sha1

/-- The word turned left by `n` bits. -/
def rotate (x n : UInt32) : UInt32 := (x <<< n) ||| (x >>> (32 - n))

/-- The five words between blocks. -/
structure State where
  a : UInt32
  b : UInt32
  c : UInt32
  d : UInt32
  e : UInt32

/-- The words before the first block. -/
def initial : State := ⟨0x67452301, 0xefcdab89, 0x98badcfe, 0x10325476, 0xc3d2e1f0⟩

/-- The words of a block extended by one. -/
def extend (words : Array UInt32) (t : Nat) : Array UInt32 :=
  words.push (rotate (words.getD (t - 3) 0 ^^^ words.getD (t - 8) 0 ^^^
    words.getD (t - 14) 0 ^^^ words.getD (t - 16) 0) 1)

/-- The eighty words that the steps of a block take. -/
def schedule (block : Bytes) : Array UInt32 :=
  (List.range' 16 64).foldl extend
    ((split 4 block).map fun w => UInt32.ofNat (ofBigEndian w)).toArray

/-- The mixing function and the constant of step `t`. -/
def mix (s : State) (t : Nat) : UInt32 × UInt32 :=
  if t < 20 then ((s.b &&& s.c) ||| (~~~s.b &&& s.d), 0x5a827999)
  else if t < 40 then (s.b ^^^ s.c ^^^ s.d, 0x6ed9eba1)
  else if t < 60 then ((s.b &&& s.c) ||| (s.b &&& s.d) ||| (s.c &&& s.d), 0x8f1bbcdc)
  else (s.b ^^^ s.c ^^^ s.d, 0xca62c1d6)

/-- Step `t` of a block. -/
def step (words : Array UInt32) (s : State) (t : Nat) : State :=
  let (f, k) := mix s t
  ⟨rotate s.a 5 + f + s.e + k + words.getD t 0, s.a, rotate s.b 30, s.c, s.d⟩

/-- Takes in a block of 64 bytes. -/
def absorb (s : State) (block : Bytes) : State :=
  let t := (List.range 80).foldl (step (schedule block)) s
  ⟨s.a + t.a, s.b + t.b, s.c + t.c, s.d + t.d, s.e + t.e⟩

def digest (message : Bytes) : Bytes :=
  let s := (split 64 (pad 64 8 (bigEndian 8) message)).foldl absorb initial
  [s.a, s.b, s.c, s.d, s.e].flatMap fun w => bigEndian 4 w.toNat

end StorageAdapter.Digest.Sha1
