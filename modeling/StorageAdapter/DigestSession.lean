import StorageAdapter.Digest.Algorithm
import StorageAdapter.Text.Utf8

/-! # Hash session

Input collects over any number of frames until it is cleared, and a digest is kept until it is
asked for. Computing keeps the input unless it is told to clear it, so that the same input can be
digested with several algorithms. -/

namespace StorageAdapter

/-- The collected input and the last digest. -/
structure DigestSession where
  input : Bytes := []
  output : Bytes := []
  /-- The algorithm of the last digest. -/
  algorithm : Option DigestAlgorithm := none
deriving DecidableEq, Repr

namespace DigestSession

/-- Collects more input. -/
def feed (s : DigestSession) (data : Bytes) : DigestSession := { s with input := s.input ++ data }

/-- Digests the input, and clears it if asked to. -/
def compute (s : DigestSession) (digester : Digester) (algorithm : DigestAlgorithm) (clear : Bool) :
    DigestSession :=
  { input := if clear then [] else s.input
    output := digester algorithm s.input
    algorithm := some algorithm }

/-- The length of the digest in bytes, or in hexadecimal digits. -/
def length (s : DigestSession) (asHex : Bool) : UInt8 :=
  let bytes := (s.algorithm.map DigestAlgorithm.length).getD 0
  UInt8.ofNat (if asHex then bytes * 2 else bytes)

/-- The digest as bytes, or as hexadecimal text. -/
def result (s : DigestSession) (asHex : Bool) : Bytes :=
  if asHex then Text.encode (Bytes.hex s.output) else s.output

end DigestSession

end StorageAdapter
