import StorageAdapter.Block.Network
import StorageAdapter.Device.Basic

/-! # Operations of the device

What the commands do, whichever way they arrive. An operation checks its arguments, works on the
slots or the sessions, and saves the settings where the change is meant to last. Data and status
for the caller are left to those who call it. -/

namespace StorageAdapter.Device

variable {W R D : Type} [HostStorage W R] [SettingsStore W] [KeyStorage W] [DriveBay D]

/-! ## Settings -/

/-- The settings with the slots and the boot choice written into them. -/
def currentSettings (d : Device W R D) : Settings :=
  { d.rack.writeInto d.settings with bootConfig := d.bootConfig, bootDevice := d.bootDevice }

/-- Brings the settings up to date and saves them. -/
def save : Action (Device W R D) Unit := do
  modify fun d => { d with settings := d.currentSettings }
  onStorage (SettingsStore.save (← get).settings)

def refillSlots : Action (Device W R D) Unit :=
  modify fun d => { d with rack := d.rack.fill d.settings }

/-! ## Network -/

/-- The pause after a scan, in milliseconds. -/
def scanPause : Nat := 5000

/-- The pause after a restart of WiFi, in milliseconds. -/
def restartPause : Nat := 4000

/-- The longest network name in bytes. -/
def ssidLimit : Nat := 32

/-- The longest passphrase in bytes. -/
def passphraseLimit : Nat := 64

/-- Looks for networks and pauses, and yields their number. -/
def scan : Action (Device W R D) UInt8 := do
  let d ← get
  let (count, radio) := d.radio.scan
  set { d with radio }
  note (.waited scanPause)
  return count

/-- A result of the last scan; an empty one if there is none. -/
def scanResult (d : Device W R D) (index : UInt8) : ScanResult := (d.radio.result? index).getD {}

/-- The stored credentials. -/
def credentials (d : Device W R D) : Credentials :=
  ⟨d.settings.wifi.ssid, d.settings.wifi.passphrase⟩

/-- Tries to join a network and yields whether it was joined. -/
def testCredentials (c : Credentials) : Action (Device W R D) Bool := do
  let d ← get
  let (joined, radio) := d.radio.join c
  set { d with radio }
  note (.tested c)
  return joined

/-- Tries credentials and stores them if they work and are to be stored; then WiFi is restarted. -/
def setCredentials (c : Credentials) (store : Bool) : Action (Device W R D) Unit := do
  if Text.size c.ssid = 0 ∨ ssidLimit < Text.size c.ssid then throw (.parameter "invalid ssid")
  if passphraseLimit < Text.size c.password then throw (.parameter "invalid passphrase")
  let joined ← testCredentials c
  if joined && store then
    modify fun d => { d with
      settings := { d.settings with
        wifi := { d.settings.wifi with ssid := c.ssid, passphrase := c.password } } }
    save
  note (.restarted (← get).settings.wifi)
  note (.waited restartPause)
  if !joined then throw .notConnected

/-- Switches WiFi on or off and saves that. -/
def switchWifi (enabled : Bool) : Action (Device W R D) Unit := do
  modify fun d => { d with
    settings := { d.settings with wifi := { d.settings.wifi with enabled } } }
  save

/-- What stands in place of names while no network is joined. -/
def notConnectedName : String := "NOT CONNECTED"

/-- The adapter as it is shown to clients. Without a network only the hardware address is. -/
def adapterConfig (d : Device W R D) : AdapterConfig :=
  { net :=
      if d.radio.connected then d.radio.info
      else { hostname := notConnectedName, ssid := notConnectedName, mac := d.radio.info.mac }
    version := d.board.version }

/-! ## Boot and bus devices -/

/-- Asks the machine to start anew. -/
def reboot : Action (Device W R D) Unit := note .rebooted

/-- Chooses whether the configuration disk boots and saves that. -/
def setConfigBoot (enabled : Bool) : Action (Device W R D) Unit := do
  modify fun d => { d with bootConfig := enabled }
  save

/-- Chooses the device to boot and saves that; the configuration disk boots, too. -/
def setBootDevice (device : UInt8) : Action (Device W R D) Unit := do
  modify fun d => { d with bootDevice := device, bootConfig := true }
  save

/-- Switches a bus device and its setting, if there is such a device. -/
def switchDevice (active : Bool) (d : Device W R D) (device : UInt8) : Device W R D :=
  let (known, drives) := DriveBay.switch device active d.rack.drives
  { d with
    rack := { d.rack with drives }
    settings := if known then d.settings.setSwitch device active else d.settings }

/-- Switches bus devices and saves that. -/
def switchDevices (devices : List UInt8) (active : Bool) : Action (Device W R D) Unit := do
  modify fun d => devices.foldl (switchDevice active) d
  save

/-! ## Hosts -/

/-- Mounts host slot `slot`, filling the slots from the settings first. -/
def mountHost (slot : UInt8) : Action (Device W R D) Unit := do
  let _ ← Rack.hostIndex slot
  refillSlots
  onRack (Rack.mountHost slot)

/-- Unmounts host slot `slot` and closes the listing if it is on that host. -/
def unmountHost (slot : UInt8) : Action (Device W R D) Unit := do
  let i ← Rack.hostIndex slot
  modify fun d =>
    if d.rack.cursor.openOn = some i then { d with rack := d.rack.closeDirectory } else d
  onRack (Rack.unmountHost slot)

/-- The name in host slot `slot`. -/
def hostname (d : Device W R D) (slot : UInt8) : Except Error String := do
  return (← d.rack.host slot).hostname

/-- Gives a host slot another name; a listing on it is lost. -/
def renameHost (i : Fin 8) (name : String) (r : Rack W R D) : Rack W R D :=
  (r.rename i name).dropCursor i

/-- Gives host slot `slot` another name and saves that. -/
def nameHost (slot : UInt8) (name : String) : Action (Device W R D) Unit := do
  let i ← Rack.hostIndex slot
  modify fun d => { d with rack := renameHost i name d.rack }
  save

/-- The block of host slots. -/
def hostnameBlock (d : Device W R D) : Bytes :=
  HostBlock.encode (d.rack.hosts.toList.map (·.hostname))

/-- Gives a host slot another name unless it has that name. -/
def renameIfChanged (r : Rack W R D) (entry : Fin 8 × String) : Rack W R D :=
  if (r.hosts.get entry.1).hostname = entry.2 then r else renameHost entry.1 entry.2 r

/-- Replaces the names that a block of host slots changes, and saves that. -/
def replaceHostnames (payload : Bytes) : Action (Device W R D) Unit := do
  let names ← HostBlock.decode payload
  modify fun d => { d with
    rack := ((List.finRange 8).zip names).foldl renameIfChanged d.rack }
  save

/-! ## Disks -/

/-- Mounts the image of disk slot `slot`, filling the slots from the settings first, and saves
that. -/
def mountImage (slot : UInt8) (mode : AccessMode) : Action (Device W R D) MediaType := do
  let _ ← Rack.diskIndex slot
  refillSlots
  let media ← onRack (Rack.mountImage slot mode)
  modify fun d => { d with bootConfig := false }
  save
  return media

/-- Empties disk slot `slot` and saves that. -/
def unmountImage (slot : UInt8) : Action (Device W R D) Unit := do
  onRack (Rack.unmountImage slot)
  save

/-- Mounts those of some disk slots that name an image, in turn, until one fails. -/
def mountInTurn : List (Fin 8) → Action (Device W R D) Unit
  | [] => pure ()
  | i :: rest => do
    let disk := (← get).rack.disks.get i
    if disk.namesImage then
      let _ ← onRack (Rack.mountImage (Rack.unit i) disk.mode)
      modify fun d => { d with bootConfig := false }
    mountInTurn rest

/-- Mounts every disk slot that names an image. The first failure ends it; what was mounted before
stays mounted, and the settings are saved in either case. -/
def mountAll : Action (Device W R D) Unit := do
  match ← Action.attempt (mountInTurn (List.finRange 8)) with
  | .ok () =>
    modify fun d => { d with bootConfig := false }
    save
  | .error e =>
    let _ ← Action.attempt save
    throw e

/-- The host that a host slot byte stands for. -/
def hostOfByte (b : UInt8) : Option UInt8 := if b = DeviceRecord.noHost then none else some b

/-- Points disk slot `slot` at a file and saves that. -/
def setFilename (slot host : UInt8) (mode : AccessMode) (filename : String) :
    Action (Device W R D) Unit := do
  onRack (Rack.pointDisk slot (hostOfByte host) mode filename)
  save

/-- The path in disk slot `slot`. -/
def filename (d : Device W R D) (slot : UInt8) : Except Error String := do
  return (← d.rack.disk slot).filename

/-- The block of disk slots. -/
def diskBlock (d : Device W R D) : Bytes := DeviceBlock.encode d.rack.records

/-- Points a disk slot at the file of a record. -/
def assignRecord (entry : Fin 8 × DeviceRecord) : Action (Rack W R D) Unit :=
  Rack.pointDisk (Rack.unit entry.1) (hostOfByte entry.2.hostSlot)
    (AccessMode.ofByte entry.2.mode) entry.2.filename

/-- Points every disk slot at the file of its record, and saves that. The host slots of all records
are checked before the first slot is touched. -/
def replaceDisks (payload : Bytes) : Action (Device W R D) Unit := do
  let records ← DeviceBlock.decode payload
  let _ ← (records.mapM fun r => (hostOfByte r.hostSlot).mapM Rack.hostIndex :
    Except Error (List (Option (Fin 8))))
  onRack (((List.finRange 8).zip records).forM assignRecord)
  save

end StorageAdapter.Device
