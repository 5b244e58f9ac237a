import StorageAdapter.Bytes

/-! # CRC-8

The checksum of eight bits by which a client may name a network. -/

namespace StorageAdapter.Digest.Crc8

/-- The polynomial, without its leading term. -/
def polynomial : UInt8 := 0x07

/-- One bit of the division. -/
def shift (crc : UInt8) : UInt8 :=
  if crc &&& 0x80 != 0 then (crc <<< 1) ^^^ polynomial else crc <<< 1

/-- The checksum after one more byte. -/
def update (crc b : UInt8) : UInt8 := Nat.repeat shift 8 (crc ^^^ b)

def checksum (message : Bytes) : UInt8 := message.foldl update 0

end StorageAdapter.Digest.Crc8
