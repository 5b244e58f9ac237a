import StorageAdapter.AppKey
import StorageAdapter.Machine.Storage

/-! # App key session

The open key beside the card that it lies on. A write ends the session first, whatever becomes of
it; a read leaves the session open. -/

namespace StorageAdapter

/-- An app key and the card. -/
structure KeySession (W : Type) where
  key : AppKey
  card : W

namespace KeySession

variable {W : Type} [KeyStorage W]

/-- A write that ended early. -/
def shortWrite (written expected : Nat) : Error :=
  .io ("only wrote " ++ toString written ++ " bytes of expected " ++ toString expected)

/-- Writes data, cut to the longest key, into the file of a key. -/
def writeFile (k : AppKey) (data : Bytes) : Action W Nat := do
  if k.creator = 0 ∨ k.access ≠ .write then throw (.parameter "creator information missing")
  if !KeyStorage.available (← get) then throw .noCard
  let data := data.take AppKey.limit
  KeyStorage.createDir AppKey.directory
  let written ← KeyStorage.write k.filename data
  if written ≠ data.length then throw (shortWrite written data.length)
  return written

/-- Writes the open key and ends the session. -/
def write (data : Bytes) : Action (KeySession W) Nat := do
  let key := (← get).key
  modify fun s => { s with key := s.key.closed }
  Action.on KeySession.card (fun card s => { s with card }) (writeFile key data)

/-- The data of the open key. -/
def read (s : KeySession W) : Except Error Bytes :=
  if !KeyStorage.available s.card then .error .noCard
  else if s.key.creator = 0 ∨ s.key.access ≠ .read then
    .error (.parameter "invalid appkey metadata")
  else KeyStorage.read s.key.filename AppKey.limit s.card

end KeySession

end StorageAdapter
