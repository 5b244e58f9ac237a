import StorageAdapter.Bytes

/-! # Padded messages

The digests read a message in blocks. Behind the message stand a byte 0x80, as many zeros as fill
the last block, and the length of the message in bits. -/

namespace StorageAdapter.Digest

/-- The lowest `n` bytes of a number, low byte first. -/
def littleEndian : Nat → Nat → Bytes
  | 0, _ => []
  | n + 1, x => UInt8.ofNat (x % 256) :: littleEndian n (x / 256)

/-- The number whose bytes these are, low byte first. -/
def ofLittleEndian : Bytes → Nat
  | [] => 0
  | b :: bs => b.toNat + 256 * ofLittleEndian bs

/-- The lowest `n` bytes of a number, high byte first. -/
def bigEndian (n x : Nat) : Bytes := (littleEndian n x).reverse

/-- The number whose bytes these are, high byte first. -/
def ofBigEndian (bs : Bytes) : Nat := ofLittleEndian bs.reverse

/-- The message with its end, for blocks of `block` bytes and a length of `lengthSize` bytes. -/
def pad (block lengthSize : Nat) (writeLength : Nat → Bytes) (message : Bytes) : Bytes :=
  let used := message.length + 1 + lengthSize
  message ++ 0x80 :: List.replicate ((block - used % block) % block) 0 ++
    writeLength (8 * message.length)

/-- The bytes in consecutive pieces of `size`; a shorter rest is dropped. -/
def split (size : Nat) (bs : Bytes) : List Bytes := Bytes.pieces size (bs.length / size) bs

end StorageAdapter.Digest
