import StorageAdapter.Memory.Card
import StorageAdapter.Memory.Hosts

/-! # Storage in memory

Hosts, settings and card in memory, with faults that can be switched on to see how the adapter
copes. -/

namespace StorageAdapter.Memory

/-- The settings as they are kept. -/
structure Config where
  /-- The settings stored last. -/
  stored : Option Settings := none
  /-- The number of times that settings were stored. -/
  saves : Nat := 0
  /-- Whether loading fails. -/
  unreadable : Bool := false
deriving DecidableEq, Repr

/-- The faults that are switched on. -/
structure Faults where
  /-- Settings cannot be saved. -/
  save : Bool := false
  /-- Hosts tell no position. -/
  tell : Bool := false
  /-- Listings cannot be moved. -/
  seek : Bool := false
  /-- Hosts report an error when they are let go, which they are nevertheless. -/
  unmount : Bool := false
deriving DecidableEq, Repr

/-- Storage in memory. -/
structure Storage where
  hosts : Hosts := {}
  config : Config := {}
  card : Card := {}
  faults : Faults := {}
deriving DecidableEq, Repr

namespace Storage

def changeHosts (f : Hosts → Hosts) (s : Storage) : Storage := { s with hosts := f s.hosts }

def changeCard (f : Card → Card) (s : Storage) : Storage := { s with card := f s.card }

def onCard {α : Type} : Action Card α → Action Storage α :=
  Action.on Storage.card fun card s => { s with card }

/-- Reaches a host that was added. -/
def connect (name : String) : Action Storage String := do
  if !(← get).hosts.trees.contains name then throw (.io "could not mount host")
  modify (changeHosts fun h => h.setMountCount name (h.mountCount name + 1))
  return name

/-- Opens an image and logs that. -/
def openImage (name path : String) (mode : AccessMode) : Action Storage Nat := do
  let path := treePath path
  let some size := (← get).hosts.fileSize? name path | throw .notOpened
  modify (changeHosts fun h => { h with opened := h.opened ++ [(path, mode)] })
  return size

/-- Lets go of a host. -/
def release (name : String) : Action Storage Unit := do
  modify (changeHosts fun h => h.setMountCount name (h.mountCount name - 1))
  if (← get).faults.unmount then throw (.io "unmount failed")

instance : HostStorage Storage String where
  connect name _ := connect name
  openImage := openImage
  list name path pattern s := listTree (s.hosts.tree name) path pattern
  failureKeepsListing := true
  position s n := if s.faults.tell then Listing.noPosition else UInt16.ofNat n
  canSeek s := !s.faults.seek
  release := release

/-- The settings stored last, or the default ones. -/
def load (s : Storage) : Except Error Settings :=
  if s.config.unreadable then .error (.io "config unreadable") else .ok (s.config.stored.getD {})

def save (settings : Settings) : Action Storage Unit := do
  if (← get).faults.save then throw (.io "config write failed")
  modify fun s => { s with
    config := { s.config with stored := some settings, saves := s.config.saves + 1 } }

instance : SettingsStore Storage where
  load := load
  save := save

instance : KeyStorage Storage where
  available s := KeyStorage.available s.card
  createDir path := onCard (KeyStorage.createDir path)
  write path data := onCard (KeyStorage.write path data)
  read path limit s := KeyStorage.read path limit s.card

end Storage

end StorageAdapter.Memory
