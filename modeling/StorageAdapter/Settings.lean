/-! # Settings

What the adapter keeps across restarts: the host and disk slots, the WiFi credentials, the boot
choice and which bus devices are switched on. -/

namespace StorageAdapter

/-! ## Tables of slots -/

/-- A table with one entry for each of eight slots. -/
abbrev Slots (α : Type) := Vector α 8

namespace Slots

variable {α : Type}

/-- The entry of a slot. -/
def get (xs : Slots α) (i : Fin 8) : α := xs[i]

/-- The table with another entry for a slot. -/
def set (xs : Slots α) (i : Fin 8) (a : α) : Slots α := Vector.set xs i a

@[simp] theorem get_set_self (xs : Slots α) (i : Fin 8) (a : α) : (xs.set i a).get i = a := by
  simp [get, set]

@[simp] theorem get_set_of_ne (xs : Slots α) {i j : Fin 8} (h : j ≠ i) (a : α) :
    (xs.set i a).get j = xs.get j := by
  have h : (i : Nat) ≠ j := fun e => h (Fin.ext e.symm)
  simp [get, set, h]

end Slots

/-! ## Hosts and access -/

/-- The kind of storage behind a host slot. -/
inductive HostKind where
  /-- A TNFS server. -/
  | tnfs
  /-- The local SD card. -/
  | sd
  /-- No storage: the slot is unused. -/
  | unused
deriving DecidableEq, Repr, Inhabited

namespace HostKind

/-- The kind of host that a name stands for: `SD` in any case is the card, any other name a
server, and no name no host. -/
def ofHostname (name : String) : HostKind :=
  if name = "" then .unused
  else if String.ofList (name.toList.map Char.toLower) = "sd" then .sd
  else .tnfs

/-- The word for a kind in settings. -/
def word : HostKind → String
  | tnfs => "tnfs"
  | sd => "sd"
  | unused => "invalid"

def all : List HostKind := [tnfs, sd, unused]

/-- The kind that a word in settings stands for. -/
def ofWord? (s : String) : Option HostKind := all.find? (·.word == s)

end HostKind

/-- How an image is opened. -/
inductive AccessMode where
  | read
  | readWrite
deriving DecidableEq, Repr, Inhabited

namespace AccessMode

/-- The mode of a mode byte: only 2 asks for writing. -/
def ofByte (b : UInt8) : AccessMode := if b = 2 then .readWrite else .read

def toByte : AccessMode → UInt8
  | read => 1
  | readWrite => 2

/-- The word for a mode in settings. -/
def word : AccessMode → String
  | read => "read"
  | readWrite => "readwrite"

/-- Both modes. -/
def all : List AccessMode := [read, readWrite]

/-- The mode that a word in settings stands for. -/
def ofWord? (s : String) : Option AccessMode := all.find? (·.word == s)

end AccessMode

/-! ## The settings -/

/-- A configured host; an empty name leaves the slot unused. -/
structure HostSettings where
  name : String := ""
  kind : HostKind := .unused
deriving DecidableEq, Repr, Inhabited

/-- A configured disk: the host slot, the path on that host and the access. -/
structure DiskSettings where
  hostSlot : Option UInt8 := none
  path : String := ""
  mode : AccessMode := .read
deriving DecidableEq, Repr, Inhabited

/-- The WiFi switch and credentials. -/
structure WifiSettings where
  enabled : Bool := true
  ssid : String := ""
  passphrase : String := ""
deriving DecidableEq, Repr, Inhabited

/-- Everything that is kept across restarts. -/
structure Settings where
  hosts : Slots HostSettings := Vector.replicate 8 {}
  mounts : Slots DiskSettings := Vector.replicate 8 {}
  wifi : WifiSettings := {}
  /-- Whether the configuration disk boots. -/
  bootConfig : Bool := true
  /-- The device chosen to boot. -/
  bootDevice : UInt8 := 0
  /-- The switches of the bus devices from 8 on. -/
  switches : Slots Bool := Vector.replicate 8 true
deriving DecidableEq, Repr, Inhabited

namespace Settings

/-- The number of the first bus device that is a drive. -/
def firstDrive : UInt8 := 8

/-- The switch of a bus device, for the devices that have one. -/
def switch? (device : UInt8) : Option (Fin 8) :=
  if h : 8 ≤ device.toNat ∧ device.toNat < 16 then some ⟨device.toNat - 8, by omega⟩ else none

/-- Stores the switch of a bus device; devices without a switch are left alone. -/
def setSwitch (s : Settings) (device : UInt8) (enabled : Bool) : Settings :=
  match switch? device with
  | some i => { s with switches := s.switches.set i enabled }
  | none => s

/-- Whether a bus device is switched on; devices without a switch are on. -/
def isSwitchedOn (s : Settings) (device : UInt8) : Bool :=
  match switch? device with
  | some i => s.switches.get i
  | none => true

end Settings

end StorageAdapter
