import StorageAdapter.Rack.Basic

/-! # Slots and settings

Slots are filled from the settings and written back into them. Filling leaves a slot alone that
already is as the settings say, so that its host or image stays mounted. -/

namespace StorageAdapter

/-- The name of a configured host; without a kind it has none. -/
def HostSettings.hostname (s : HostSettings) : String := if s.kind = .unused then "" else s.name

/-- The host slot of a configured disk, if there is such a slot. -/
def DiskSettings.host? (s : DiskSettings) : Option (Fin 8) :=
  s.hostSlot.bind fun slot => (Rack.hostIndex slot).toOption

/-- The path of a configured disk; without a host slot it has none. -/
def DiskSettings.filename (s : DiskSettings) : String := if s.host?.isSome then s.path else ""

/-- The settings that a host slot is kept as. -/
def HostSlot.toSettings {R : Type} (h : HostSlot R) : HostSettings :=
  if h.hostname = "" then {} else { name := h.hostname, kind := h.kind }

/-- The settings that a disk slot is kept as. -/
def DiskSlot.toSettings (d : DiskSlot) : DiskSettings :=
  if d.namesImage then { hostSlot := d.hostSlot.map Rack.unit, path := d.filename, mode := d.mode }
  else {}

/-- Whether a disk slot is as the settings say. -/
def DiskSlot.agrees (d : DiskSlot) (s : DiskSettings) : Bool :=
  d.filename == s.filename && d.hostSlot == s.host? && d.mode == s.mode

namespace Rack

variable {W R D : Type}

/-- Fills a host slot. -/
def fillHost [HostStorage W R] (settings : Settings) (r : Rack W R D) (i : Fin 8) : Rack W R D :=
  let name := (settings.hosts.get i).hostname
  if (r.hosts.get i).hostname = name then r else r.rename i name

/-- Fills a disk slot. -/
def fillDisk [DriveBay D] (settings : Settings) (r : Rack W R D) (i : Fin 8) : Rack W R D :=
  let s := settings.mounts.get i
  if (r.disks.get i).agrees s then r else r.assign i (.assigned s.filename s.host? s.mode)

/-- Fills the host slots and then the disk slots. -/
@[irreducible]
def fill [HostStorage W R] [DriveBay D] (settings : Settings) (r : Rack W R D) : Rack W R D :=
  (List.finRange 8).foldl (fillDisk settings) ((List.finRange 8).foldl (fillHost settings) r)

/-- The settings with the slots written into them. -/
def writeInto (r : Rack W R D) (settings : Settings) : Settings :=
  { settings with
    hosts := r.hosts.map HostSlot.toSettings
    mounts := r.disks.map DiskSlot.toSettings }

end Rack

end StorageAdapter
