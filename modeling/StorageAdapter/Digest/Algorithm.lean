import StorageAdapter.Digest.Md5
import StorageAdapter.Digest.Sha1
import StorageAdapter.Digest.Sha256
import StorageAdapter.Digest.Sha512
import StorageAdapter.Error

/-! # Digest algorithms

The algorithms that a client may choose, and the digest of a message under each of them. -/

namespace StorageAdapter

inductive DigestAlgorithm where
  | md5
  | sha1
  | sha256
  | sha512
deriving DecidableEq, Repr

namespace DigestAlgorithm

def ofByte (b : UInt8) : Except Error DigestAlgorithm :=
  if b = 0 then .ok .md5
  else if b = 1 then .ok .sha1
  else if b = 2 then .ok .sha256
  else if b = 3 then .ok .sha512
  else .error (.parameter "unknown hash algorithm")

/-- The number of bytes of a digest. -/
def length : DigestAlgorithm → Nat
  | md5 => 16
  | sha1 => 20
  | sha256 => 32
  | sha512 => 64

/-- The digest of a message. -/
def digest : DigestAlgorithm → Bytes → Bytes
  | md5 => Digest.Md5.digest
  | sha1 => Digest.Sha1.digest
  | sha256 => Digest.Sha256.digest
  | sha512 => Digest.Sha512.digest

end DigestAlgorithm

/-- A way to digest messages with each algorithm. -/
abbrev Digester := DigestAlgorithm → Bytes → Bytes

end StorageAdapter
