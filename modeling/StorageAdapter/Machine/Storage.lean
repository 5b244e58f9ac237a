import StorageAdapter.Action
import StorageAdapter.Directory.Listing
import StorageAdapter.Settings
import StorageAdapter.Text.Utf8

/-! # Storage

What the adapter needs of the storage around it: hosts that can be mounted, a store for the
settings and a card for app keys. A mounted host keeps at most one listing open. -/

namespace StorageAdapter

/-! ## The storage around the adapter -/

/-- Storage `W` that holds hosts; a mounted host is known by a root `R`. -/
class HostStorage (W : Type) (R : outParam Type) where
  /-- Reaches a host by its name. -/
  connect (name : String) (kind : HostKind) : Action W R
  /-- Opens an image on a host and yields its size. -/
  openImage (root : R) (path : String) (mode : AccessMode) : Action W Nat
  /-- The entries of a directory whose names match a pattern, in the order of listings. -/
  list (root : R) (path : String) (pattern : Option String) (storage : W) :
    Except Error (List DirectoryEntry)
  /-- Whether the open listing survives the attempt to list what cannot be listed. -/
  failureKeepsListing : Bool
  /-- The position that is told for a number of entries read. -/
  position (storage : W) (entriesRead : Nat) : UInt16
  /-- Whether listings can be moved. -/
  canSeek (storage : W) : Bool
  /-- Lets go of a host. -/
  release (root : R) : Action W Unit

/-- Storage that keeps the settings. -/
class SettingsStore (W : Type) where
  load (storage : W) : Except Error Settings
  save (settings : Settings) : Action W Unit

/-- Storage that keeps app keys. -/
class KeyStorage (W : Type) where
  /-- Whether there is a card. -/
  available (storage : W) : Bool
  /-- Makes a directory and those above it. -/
  createDir (path : String) : Action W Unit
  /-- Replaces a file and yields the number of bytes written. -/
  write (path : String) (data : Bytes) : Action W Nat
  /-- The first bytes of a file, at most `limit` of them. -/
  read (path : String) (limit : Nat) (storage : W) : Except Error Bytes

/-! ## Mounted hosts -/

/-- A mounted host and its open listing. -/
structure Mounted (R : Type) where
  root : R
  listing : Option Listing := none
deriving DecidableEq, Repr

namespace Mounted

variable {W R : Type} [HostStorage W R]

/-- The host without a listing. -/
def closed (m : Mounted R) : Mounted R := { m with listing := none }

/-- Opens the listing of a directory in place of the one that is open. -/
def openListing (storage : W) (path : String) (pattern : Option String) :
    Action (Mounted R) Unit := do
  let m ← get
  match HostStorage.list m.root path pattern storage with
  | .ok entries => set { m with listing := some { entries } }
  | .error e =>
    if !HostStorage.failureKeepsListing W then set m.closed
    throw e

/-- The next entry of the listing, if any is left, and the host behind it. -/
def next (m : Mounted R) : Option DirectoryEntry × Mounted R :=
  match m.listing with
  | some l =>
    let (entry, l) := l.next
    (entry, { m with listing := some l })
  | none => (none, m)

/-- The entries that are left in the listing. -/
def rest (m : Mounted R) : List DirectoryEntry := (m.listing.map Listing.rest).getD []

/-- The position in the listing; without a listing there is none. -/
def tell (storage : W) (m : Mounted R) : UInt16 :=
  match m.listing with
  | some l => HostStorage.position storage l.position
  | none => Listing.noPosition

/-- The host with its listing moved to a position. -/
def seek? (storage : W) (position : UInt16) (m : Mounted R) : Option (Mounted R) :=
  if HostStorage.canSeek storage then
    (m.listing.bind (·.seek? position.toNat)).map fun l => { m with listing := some l }
  else none

end Mounted

end StorageAdapter
