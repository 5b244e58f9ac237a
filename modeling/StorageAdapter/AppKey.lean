import StorageAdapter.Error
import StorageAdapter.Bytes

/-! # App keys

An app key is a small file on the card, named by the creator, the application and the key. A client
opens a key for reading or for writing; one write ends the session. -/

namespace StorageAdapter

/-- The access that a client opened a key for. -/
inductive KeyAccess where
  /-- None: no session, or an unknown mode byte. -/
  | invalid
  | read
  | write
deriving DecidableEq, Repr, Inhabited

namespace KeyAccess

/-- The access of a mode byte. -/
def ofByte (b : UInt8) : KeyAccess :=
  if b = 0 then .read else if b = 1 then .write else .invalid

end KeyAccess

/-- The key that a session is about. -/
structure AppKey where
  /-- The creator; 0 means that no session is open. -/
  creator : UInt16 := 0
  app : UInt8 := 0
  key : UInt8 := 0
  access : KeyAccess := .invalid
  /-- Kept, but without meaning. -/
  reserved : UInt8 := 0
deriving DecidableEq, Repr, Inhabited

namespace AppKey

/-- The directory of key files. -/
def directory : String := "/FujiNet"

/-- The length of the longest key. -/
def limit : Nat := 64

/-- The path of a key file: creator, application and key in lowercase hexadecimal. -/
def filename (k : AppKey) : String :=
  directory ++ "/" ++ Bytes.hex [UInt8.ofNat (k.creator.toNat / 256), UInt8.ofNat k.creator.toNat,
    k.app, k.key] ++ ".key"

/-- The session after its end. -/
def closed (k : AppKey) : AppKey := { k with creator := 0, access := .invalid }

end AppKey

/-! ## Requests -/

/-- The request of a client to open a key. -/
structure KeyRequest where
  creator : UInt16
  app : UInt8
  key : UInt8
  /-- The mode byte. -/
  mode : UInt8
  reserved : UInt8
deriving DecidableEq, Repr

namespace KeyRequest

/-- Reads a request: creator low byte first, application, key, mode and reserved. -/
def decode : Bytes → Except Error KeyRequest
  | low :: high :: app :: key :: mode :: reserved :: _ =>
    .ok ⟨Bytes.word low high, app, key, mode, reserved⟩
  | _ => .error (.parameter "invalid app key parameters")

/-- The key that a request opens. -/
def toKey (r : KeyRequest) : AppKey :=
  ⟨r.creator, r.app, r.key, KeyAccess.ofByte r.mode, r.reserved⟩

end KeyRequest

end StorageAdapter
