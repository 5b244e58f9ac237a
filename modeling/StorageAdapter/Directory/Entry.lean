import StorageAdapter.Calendar
import StorageAdapter.Media
import StorageAdapter.Text.Clip

/-! # Directory entries

One entry of a host's listing, and the form in which a client reads it: an optional record of ten
bytes, the name fitted into what is left of the client's buffer, and a slash behind directories. -/

namespace StorageAdapter

/-- An entry of a listing. -/
structure DirectoryEntry where
  name : String
  isDir : Bool
  /-- The size in bytes. -/
  size : Nat
  /-- The seconds since the beginning of 1970. -/
  modified : Int
deriving DecidableEq, Repr

namespace DirectoryEntry

/-- What a client reads once a listing is exhausted. -/
def endMark : Bytes := [0x7F, 0x7F]

/-- The option that asks for the record. -/
def extendedOption : UInt8 := 0x80

/-- The flag of a directory. -/
def dirFlag : UInt8 := 0x01

/-- The flag of a name that was shortened. -/
def shortenedFlag : UInt8 := 0x02

def recordLength : Nat := 10

/-- The year byte: years since 1900, as far as a byte reaches. -/
def yearByte (year : Int) : UInt8 := UInt8.ofNat (min (year - 1900).toNat 255)

/-- The flags of an entry. -/
def flags (isDir shortened : Bool) : UInt8 :=
  (if isDir then dirFlag else 0) ||| (if shortened then shortenedFlag else 0)

/-- The record of an entry: date and time, size up to 65535, flags and media type. -/
def record (e : DirectoryEntry) (shortened : Bool) : Bytes :=
  let t := DateTime.ofSeconds e.modified
  [yearByte t.year, UInt8.ofNat t.month, UInt8.ofNat t.day,
    UInt8.ofNat t.hour, UInt8.ofNat t.minute, UInt8.ofNat t.second] ++
  Bytes.ofWord (UInt16.ofNat (min e.size 65535)) ++
  [flags e.isDir shortened, (MediaType.ofFilename e.name).code]

/-- Whether the options ask for the record. -/
def isExtended (options : UInt8) : Bool := options &&& extendedOption != 0

/-- The bytes left for the name beside the record and the slash. -/
def nameRoom (e : DirectoryEntry) (limit options : UInt8) : Nat :=
  limit.toNat - (if isExtended options then recordLength else 0) - (if e.isDir then 1 else 0)

/-- The entry as a client with a buffer of `limit` bytes reads it. -/
def format (e : DirectoryEntry) (limit options : UInt8) : Bytes :=
  let room := e.nameRoom limit options
  (if isExtended options then e.record (room < Text.size e.name) else []) ++
    Text.encode (Text.shorten room e.name) ++
    (if e.isDir then [47] else [])

/-- The order of listings: directories before files, then by the bytes of the name. -/
def precedes (a b : DirectoryEntry) : Bool :=
  if a.isDir = b.isDir then decide (Text.encode a.name ≤ Text.encode b.name) else a.isDir

def inOrder (entries : List DirectoryEntry) : List DirectoryEntry := entries.mergeSort precedes

end DirectoryEntry

end StorageAdapter
