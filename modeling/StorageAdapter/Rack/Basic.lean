import StorageAdapter.Block.Slots
import StorageAdapter.Machine.Drives
import StorageAdapter.Machine.Storage
import StorageAdapter.Text.Clip

/-! # The rack

The rack holds the host slots and the disk slots, with the storage that the hosts are mounted from,
the drives that the images go into and the directory cursor. A slot that is emptied stays in its
place. Slot numbers come as bytes and are checked before anything else. -/

namespace StorageAdapter

/-! ## Slots -/

structure HostSlot (R : Type) where
  /-- The name of the host; empty if the slot is unused. -/
  hostname : String := ""
  /-- The kind of host that the name stands for, noted when the slot is named. -/
  kind : HostKind := .unused
  mount : Option (Mounted R) := none
deriving DecidableEq, Repr

namespace HostSlot

/-- The longest hostname in bytes. -/
def nameLimit : Nat := 31

/-- An unmounted slot for a host; a name that is too long is cut. -/
def named {R : Type} (name : String) : HostSlot R :=
  let hostname := Text.clip nameLimit name
  { hostname, kind := HostKind.ofHostname hostname }

/-- Whether the host is mounted. -/
def isMounted {R : Type} (h : HostSlot R) : Bool := h.mount.isSome

end HostSlot

/-- The image in the drive of a disk slot. -/
structure MountedImage where
  size : Nat
  media : MediaType
deriving DecidableEq, Repr

structure DiskSlot where
  /-- The path of the image on its host. -/
  filename : String := ""
  hostSlot : Option (Fin 8) := none
  mode : AccessMode := .read
  image : Option MountedImage := none
deriving DecidableEq, Repr

namespace DiskSlot

/-- The longest filename in bytes. -/
def filenameLimit : Nat := 255

/-- Whether an image is open in the slot. -/
def isMounted (d : DiskSlot) : Bool := d.image.isSome

/-- Whether the slot names an image that could be mounted. -/
def namesImage (d : DiskSlot) : Bool := d.hostSlot.isSome && d.filename != ""

def size (d : DiskSlot) : Nat := (d.image.map (·.size)).getD 0

def media (d : DiskSlot) : MediaType := (d.image.map (·.media)).getD .unknown

/-- An unmounted slot for a filename; a slot without a filename has no host. -/
def assigned (filename : String) (hostSlot : Option (Fin 8)) (mode : AccessMode) : DiskSlot :=
  { filename := Text.clip filenameLimit filename
    hostSlot := if filename = "" then none else hostSlot
    mode := mode }

def hostByte (d : DiskSlot) : UInt8 :=
  match d.hostSlot with
  | some i => UInt8.ofNat i
  | none => DeviceRecord.noHost

/-- The slot in the block of disk slots. -/
def record (d : DiskSlot) : DeviceRecord := ⟨d.hostByte, d.mode.toByte, d.filename⟩

end DiskSlot

/-- The directory cursor. -/
structure Cursor where
  /-- The host slot that a listing is open on. -/
  openOn : Option (Fin 8) := none
  /-- Whether the end of the listing has been met. -/
  exhausted : Bool := false
deriving DecidableEq, Repr

/-- The slots, and what they work on. -/
structure Rack (W R D : Type) where
  storage : W
  drives : D
  hosts : Slots (HostSlot R) := Vector.replicate 8 {}
  disks : Slots DiskSlot := Vector.replicate 8 {}
  cursor : Cursor := {}

namespace Rack

variable {W R D : Type}

/-! ## Slot numbers -/

/-- The slot of a table that a byte stands for. -/
def slotIndex (kind : SlotTable) (slot : UInt8) : Except Error (Fin 8) :=
  if h : slot.toNat < 8 then .ok ⟨slot.toNat, h⟩ else .error (.slotRange kind slot)

/-- The host slot that a byte stands for. -/
def hostIndex : UInt8 → Except Error (Fin 8) := slotIndex .host

/-- The disk slot that a byte stands for. -/
def diskIndex : UInt8 → Except Error (Fin 8) := slotIndex .device

/-- The number of a slot as a byte. -/
def unit (i : Fin 8) : UInt8 := UInt8.ofNat i

def host (r : Rack W R D) (slot : UInt8) : Except Error (HostSlot R) := do
  return r.hosts.get (← hostIndex slot)

def disk (r : Rack W R D) (slot : UInt8) : Except Error DiskSlot := do
  return r.disks.get (← diskIndex slot)

/-! ## Parts -/

/-- The rack with a host slot replaced. -/
def setHost (r : Rack W R D) (i : Fin 8) (h : HostSlot R) : Rack W R D :=
  { r with hosts := r.hosts.set i h }

/-- The rack with a disk slot replaced. -/
def setDisk (r : Rack W R D) (i : Fin 8) (d : DiskSlot) : Rack W R D :=
  { r with disks := r.disks.set i d }

def onStorage {α : Type} : Action W α → Action (Rack W R D) α :=
  Action.on Rack.storage fun storage r => { r with storage }

/-! ## Hosts -/

/-- Mounts a host slot unless it is mounted. -/
def connect [HostStorage W R] (i : Fin 8) : Action (Rack W R D) Unit := do
  let host := (← get).hosts.get i
  if host.isMounted then return
  if host.kind = .unused then throw .noHostConfigured
  let root ← onStorage (HostStorage.connect host.hostname host.kind)
  modify (·.setHost i { host with mount := some { root } })

/-- Unmounts a host slot. The slot is unmounted even if its host fails to let go. -/
def disconnect [HostStorage W R] (i : Fin 8) : Action (Rack W R D) Unit := do
  let host := (← get).hosts.get i
  let some mounted := host.mount | return
  modify (·.setHost i { host with mount := none })
  onStorage (HostStorage.release mounted.root)

/-- Gives a host slot another name, cut to fit, and unmounts it. -/
def rename [HostStorage W R] (i : Fin 8) (name : String) (r : Rack W R D) : Rack W R D :=
  ((disconnect i).after r).setHost i (.named name)

def mountHost [HostStorage W R] (slot : UInt8) : Action (Rack W R D) Unit := do
  connect (← hostIndex slot)

def unmountHost [HostStorage W R] (slot : UInt8) : Action (Rack W R D) Unit := do
  disconnect (← hostIndex slot)

/-! ## Disks -/

/-- Takes the image of a disk slot out of its drive. -/
def eject [DriveBay D] (i : Fin 8) (r : Rack W R D) : Rack W R D :=
  { r with drives := DriveBay.eject (unit i) r.drives }

/-- Puts an image into the drive of a disk slot and yields the media type in use. -/
def insert [DriveBay D] (i : Fin 8) (image : InsertedImage) : Action (Rack W R D) MediaType := do
  let r ← get
  let (media, drives) := DriveBay.insert (unit i) image r.drives
  set { r with drives }
  return media

/-- Opens the image of disk slot `slot`, mounting its host first, and puts it into the drive. -/
def mountImage [HostStorage W R] [DriveBay D] (slot : UInt8) (mode : AccessMode) :
    Action (Rack W R D) MediaType := do
  let i ← diskIndex slot
  let disk := (← get).disks.get i
  let some h := disk.hostSlot | throw .noHostForSlot
  if disk.filename = "" then throw .noFilenameForSlot
  connect h
  let some mounted := ((← get).hosts.get h).mount | throw .hostNotMounted
  let size ← onStorage (HostStorage.openImage mounted.root disk.filename mode)
  let media ← insert i ⟨disk.filename, size, MediaType.ofFilename disk.filename⟩
  modify (·.setDisk i { disk with mode, image := some ⟨size, media⟩ })
  return media

/-- Empties disk slot `slot` and its drive. -/
def unmountImage [DriveBay D] (slot : UInt8) : Action (Rack W R D) Unit := do
  let i ← diskIndex slot
  modify fun r => (r.eject i).setDisk i {}

/-- Points a disk slot at a file; the drive is emptied if there is an image in it. -/
def assign [DriveBay D] (i : Fin 8) (d : DiskSlot) (r : Rack W R D) : Rack W R D :=
  (if (r.disks.get i).isMounted then r.eject i else r).setDisk i d

/-- Points disk slot `slot` at a file on a host slot, or at none. -/
def pointDisk [DriveBay D] (slot : UInt8) (host : Option UInt8) (mode : AccessMode)
    (filename : String) : Action (Rack W R D) Unit := do
  let i ← diskIndex slot
  let host ← (host.mapM hostIndex : Except Error (Option (Fin 8)))
  if DiskSlot.filenameLimit < Text.size filename then throw .filenameTooLong
  modify (assign i (.assigned filename host mode))

def records (r : Rack W R D) : List DeviceRecord := r.disks.toList.map DiskSlot.record

end Rack

end StorageAdapter
