import StorageAdapter.Error
import StorageAdapter.Text.Utf8

/-! # Blocks of slots

All host slots travel as one block of eight names of 32 bytes, all disk slots as one block of eight
records of 38 bytes. A block of any other size is refused. -/

namespace StorageAdapter

namespace HostBlock

/-- The width of a hostname, its NUL included. -/
def nameWidth : Nat := 32

/-- The size of the block. -/
def size : Nat := 8 * nameWidth

/-- The block of the first eight names. -/
def encode (names : List String) : Bytes :=
  Bytes.padded size ((names.take 8).flatMap fun name => Bytes.padded nameWidth (Text.encode name))

/-- The names of a block. The last byte of a name counts as its NUL, whatever it is. -/
def decode (payload : Bytes) : Except Error (List String) :=
  if payload.length = size then
    .ok ((Bytes.pieces nameWidth 8 payload).map fun field =>
      Text.ofField (field.take (nameWidth - 1)))
  else .error .payloadSize

end HostBlock

/-- A disk slot in the block of disk slots. -/
structure DeviceRecord where
  /-- The host slot, or `noHost`. -/
  hostSlot : UInt8
  /-- The mode byte. -/
  mode : UInt8
  filename : String
deriving DecidableEq, Repr

namespace DeviceRecord

/-- The host slot byte of a disk slot without a host. -/
def noHost : UInt8 := 0xFF

end DeviceRecord

namespace DeviceBlock

def filenameWidth : Nat := 36

def recordSize : Nat := 2 + filenameWidth

/-- The size of the block. -/
def size : Nat := 8 * recordSize

def encodeRecord (r : DeviceRecord) : Bytes :=
  r.hostSlot :: r.mode :: Bytes.padded filenameWidth (Text.encode r.filename)

/-- The block of the first eight records. -/
def encode (records : List DeviceRecord) : Bytes := (records.take 8).flatMap encodeRecord

/-- The record of `recordSize` bytes. -/
def decodeRecord (bs : Bytes) : DeviceRecord :=
  ⟨bs.getD 0 0, bs.getD 1 0, Text.ofField (bs.drop 2)⟩

/-- The records of a block. -/
def decode (payload : Bytes) : Except Error (List DeviceRecord) :=
  if payload.length = size then .ok ((Bytes.pieces recordSize 8 payload).map decodeRecord)
  else .error .payloadSize

end DeviceBlock

end StorageAdapter
