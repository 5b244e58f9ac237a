import StorageAdapter.Frame
import StorageAdapter.DigestSession
import StorageAdapter.KeySession
import StorageAdapter.Machine.Board
import StorageAdapter.Machine.Radio
import StorageAdapter.Rack.Configured
import StorageAdapter.Rack.Directory
import StorageAdapter.Status

/-! # The device

The control device of the adapter: the rack with its slots, the machine around it, the settings,
and what is carried from one frame to the next. -/

namespace StorageAdapter

/-- The control device over storage `W` with hosts `R` and drives `D`. -/
structure Device (W R D : Type) where
  rack : Rack W R D
  radio : Radio
  board : Board
  digester : Digester
  settings : Settings
  /-- Whether the configuration disk boots. -/
  bootConfig : Bool
  /-- The device chosen to boot. -/
  bootDevice : UInt8
  appKey : AppKey := {}
  digest : DigestSession := {}
  pending : Pending := .idle
  response : Response := {}
  status : Status := {}

namespace Device

variable {W R D : Type}

/-! ## Beginning and bus reset -/

/-- Switches the bus devices as the settings say. -/
@[irreducible]
def applySwitches [DriveBay D] (settings : Settings) (drives : D) : D :=
  (List.finRange 8).foldl
    (fun drives i =>
      (DriveBay.switch (Settings.firstDrive + Rack.unit i) (settings.switches.get i) drives).2)
    drives

/-- The device when it starts: the slots are filled from the stored settings. Settings that cannot
be loaded are replaced by the default ones. -/
def start [HostStorage W R] [SettingsStore W] [DriveBay D] (storage : W) (drives : D)
    (radio : Radio) (board : Board) (digester : Digester) : Device W R D :=
  let settings := match SettingsStore.load storage with
    | .ok settings => settings
    | .error _ => {}
  let rack : Rack W R D := Rack.fill settings { storage, drives }
  { rack := { rack with drives := applySwitches settings rack.drives }
    radio, board, digester, settings
    bootConfig := settings.bootConfig
    bootDevice := settings.bootDevice }

/-- Starts the device anew on the same storage, drives and machine. -/
def restart [HostStorage W R] [SettingsStore W] [DriveBay D] (d : Device W R D) : Device W R D :=
  start d.rack.storage d.rack.drives d.radio d.board d.digester

/-- Forgets the pending command, the data waiting and the directory and key sessions. -/
def resetBus (d : Device W R D) : Device W R D :=
  { d with
    pending := .idle
    response := {}
    rack := d.rack.closeDirectory
    appKey := d.appKey.closed }

/-! ## Actions on parts -/

def onRack {α : Type} : Action (Rack W R D) α → Action (Device W R D) α :=
  Action.on Device.rack fun rack d => { d with rack }

def onStorage {α : Type} (act : Action W α) : Action (Device W R D) α := onRack (Rack.onStorage act)

/-- The app key beside the storage that it lies on. -/
def keySession (d : Device W R D) : KeySession W := ⟨d.appKey, d.rack.storage⟩

/-- An action on the app key session. -/
def onKeySession {α : Type} : Action (KeySession W) α → Action (Device W R D) α :=
  Action.on keySession fun s d =>
    { d with appKey := s.key, rack := { d.rack with storage := s.card } }

/-- Writes a request to the machine into the journal. -/
def note (e : Event) : Action (Device W R D) Unit :=
  modify fun d => { d with board := d.board.note e }

/-! ## What commands leave for their callers -/

/-- Puts data for callers of opcodes. -/
def setBinary (data : Bytes) : Action (Device W R D) Unit :=
  modify fun d => { d with response := d.response.put .raw data }

/-- Puts data for callers of lines. -/
def setTextBytes (data : Bytes) : Action (Device W R D) Unit :=
  modify fun d => { d with response := d.response.put .basic data }

/-- Puts a text for callers of lines. -/
def setText (s : String) : Action (Device W R D) Unit := setTextBytes (Text.encode s)

/-- Notes a success with a message. -/
def succeed (message : String) : Action (Device W R D) Unit :=
  modify fun d => { d with status := d.status.succeed message }

/-- Puts a text for callers of lines that is noted as the message, too. -/
def reply (s : String) : Action (Device W R D) Unit := do
  setText s
  succeed s

end Device

end StorageAdapter
