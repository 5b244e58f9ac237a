import StorageAdapter.Device.Operations
import StorageAdapter.Text.Numeral
import StorageAdapter.Text.Percent
import StorageAdapter.Text.Split

/-! # Line callers

What each command line does. A line puts the text for its caller into the buffer for line callers
itself, and many note it as the message, too; the others leave the message that was noted before
they ran. Numbers are decimal, except for those that name an app key, which are hexadecimal as in
the names of key files. -/

namespace StorageAdapter.Device

variable {W R D : Type} [HostStorage W R] [SettingsStore W] [KeyStorage W] [DriveBay D]

/-! ## Parameters -/

def parameter (l : Line) (i : Nat) : Except Error String :=
  match l.param i with
  | some s => .ok s
  | none => .error .parameterCount

def slotParameter (l : Line) (i : Nat) : Except Error UInt8 := do
  Text.byteArgument "invalid slot number" (← parameter l i)

/-- The mode in which an image is to be opened. -/
def modeParameter (l : Line) (i : Nat) : Except Error AccessMode := do
  return AccessMode.ofByte (← Text.byteArgument "invalid mode" (← parameter l i))

/-- Refuses a line with fewer than `n` parameters. -/
def atLeast (n : Nat) (l : Line) : Except Error Unit :=
  if l.paramCount < n then .error .parameterCount else .ok ()

/-! ## Commands -/

/-- What a client may read about the interface. -/
def configHint : String := "use localip netmask gateway dnsip bssid hostname version"

/-- The credentials of a line. A name of digits alone is the checksum of a network of the last
scan. -/
def credentialsOf (l : Line) (d : Device W R D) : Except Error Credentials := do
  if l.paramCount ≠ 2 then throw .parameterCount
  let ssid := Text.percentDecode (← parameter l 0)
  let password := Text.percentDecode (← parameter l 1)
  if Text.isNumeral ssid then
    let checksum ← Text.byteArgument "invalid network number" ssid
    match d.radio.nameByChecksum? checksum with
    | some ssid => return ⟨ssid, password⟩
    | none => throw (.parameter "unknown network")
  else return ⟨ssid, password⟩

/-- A scan result as text: the signal strength and the name in quotes. -/
def scanText (r : ScanResult) : String := toString r.rssi.toInt ++ ",\"" ++ r.ssid ++ "\""

/-- Sets the credentials of a line. -/
def setSsidLine (l : Line) : Action (Device W R D) Unit := do
  let c ← credentialsOf l (← get)
  setCredentials c true
  succeed "ssid set"

/-- Mounts a host and tells its name. -/
def mountHostLine (l : Line) : Action (Device W R D) Unit := do
  let slot ← slotParameter l 0
  mountHost slot
  reply ((← (← get).hostname slot) ++ " MOUNTED.")

/-- Mounts an image in the mode of a line. -/
def mountDriveLine (l : Line) : Action (Device W R D) Unit := do
  atLeast 2 l
  let slot ← slotParameter l 0
  let mode ← modeParameter l 1
  let _ ← mountImage slot mode
  reply "mounted"

/-- Opens a listing: the host slot, the path and, behind a tilde, the pattern. -/
def openDirectoryLine (l : Line) : Action (Device W R D) Unit := do
  atLeast 2 l
  let slot ← slotParameter l 0
  let (path, pattern) := Text.splitPath '~' (← parameter l 1)
  onRack (Rack.openDirectory slot path (some pattern))

/-- Reads an entry: the size of the buffer and, if given, the options. -/
def readEntryLine (l : Line) : Action (Device W R D) Unit := do
  let limit ← Text.byteArgument "invalid length" (← parameter l 0)
  let options ← match l.param 1 with
    | some token => Text.byteArgument "invalid options" token
    | none => .ok 0
  let entry ← onRack (Rack.readDirectory limit options)
  setTextBytes entry
  succeed ""

/-- Tells the position in the listing. -/
def directoryPositionLine : Action (Device W R D) Unit := do
  let position ← onRack Rack.directoryPosition
  if position = Listing.noPosition then throw (.io "invalid directory position")
  setText (toString position.toNat)

/-- Tells a hostname. -/
def hostnameLine (l : Line) : Action (Device W R D) Unit := do
  let slot ← slotParameter l 0
  let name ← (← get).hostname slot
  setText (if name = "" then "<empty>" else name)

/-- Points a disk slot at a file, with the mode and the filename in the given places. -/
def setFilenameLine (modePlace namePlace : Nat) (l : Line) : Action (Device W R D) Unit := do
  atLeast 4 l
  let slot ← slotParameter l 0
  let host ← slotParameter l 1
  let mode ← modeParameter l modePlace
  let name ← parameter l namePlace
  setFilename slot host mode name
  reply "ok"

/-- Writes the open key: the length, and the data as it was sent. The data may hold commas. -/
def writeKeyLine (l : Line) : Action (Device W R D) Unit := do
  atLeast 2 l
  let length ← Text.byteArgument "invalid key length" (← parameter l 0)
  let some data := l.bytesFrom 1 | throw .parameterCount
  let _ ← onKeySession (KeySession.write (data.take (min length.toNat AppKey.limit)))
  reply "ok"

/-- The app key that a line opens. -/
def keyOf (l : Line) : Except Error AppKey := do
  atLeast 4 l
  let creator ← Text.hexWordArgument "invalid creator" (← parameter l 0)
  let app ← Text.hexByteArgument "invalid app" (← parameter l 1)
  let key ← Text.hexByteArgument "invalid key" (← parameter l 2)
  let mode ← Text.hexByteArgument "invalid mode" (← parameter l 3)
  return { creator, app, key, access := KeyAccess.ofByte mode }

/-- The bus devices of a line; blank parameters are passed over. -/
def devicesOf (l : Line) : Except Error (List UInt8) :=
  (l.params.filter fun p => !(Text.trim p.toList).isEmpty).mapM
    (Text.byteArgument "invalid device id")

/-- Tells the status of the command before and leaves that text as the message. -/
def statusLine : Action (Device W R D) Unit := do reply (← get).status.toLine

/-- What a command line does. -/
def runLine (command : Command) (l : Line) : Action (Device W R D) Unit :=
  match command with
  | .adapterConfig => setText configHint
  | .setSsid => setSsidLine l
  | .getSsid => do setText (← get).settings.wifi.ssid
  | .scanResult => do
    let index ← Text.byteArgument "invalid scan index" (← parameter l 0)
    setText (scanText ((← get).scanResult index))
  | .scan => do setText (toString (← scan).toNat)
  | .wifiEnable => do
    switchWifi true
    reply "ok"
  | .wifiDisable => do
    switchWifi false
    reply "ok"
  | .wifiStatus => do reply (if (← get).radio.connected then "connected" else "disconnected")
  | .unmountHost => do
    unmountHost (← slotParameter l 0)
    reply "ok"
  | .mountHost => mountHostLine l
  | .unmountDrive => do
    unmountImage (← slotParameter l 0)
    reply "ok"
  | .mountDrive => mountDriveLine l
  | .mountAll => do
    mountAll
    reply "ok"
  | .openDir => openDirectoryLine l
  | .readDir => readEntryLine l
  | .closeDir => do
    onRack (modify Rack.closeDirectory)
    reply "ok"
  | .getDirPos => directoryPositionLine
  | .setDirPos => do
    let position ← Text.wordArgument "invalid directory position" (← parameter l 0)
    onRack (Rack.seekDirectory position)
    reply "ok"
  | .getHost => hostnameLine l
  | .putHost => do
    let slot ← slotParameter l 0
    nameHost slot ((l.param 1).getD "")
    reply "ok"
  | .setDriveFilename => setFilenameLine 2 3 l
  | .getDriveFilename => do
    let slot ← slotParameter l 0
    setText (← (← get).filename slot)
  | .getDrive => do
    let slot ← slotParameter l 0
    setText (Text.lastComponent (← (← get).filename slot))
  | .putDrive => setFilenameLine 3 2 l
  | .writeAppKey => writeKeyLine l
  | .readAppKey => do setTextBytes (← KeySession.read (← get).keySession)
  | .openAppKey => do
    let key ← keyOf l
    modify fun d => { d with appKey := key }
    reply "ok"
  | .closeAppKey => do
    modify fun d => { d with appKey := d.appKey.closed }
    reply "ok"
  | .bootConfig => do
    let value ← Text.byteArgument "invalid boot config" (← parameter l 0)
    setConfigBoot (value != 0)
    reply "ok"
  | .bootMode => do
    setBootDevice (← Text.byteArgument "invalid boot mode" (← parameter l 0))
    reply "ok"
  | .status => statusLine
  | .localIp => do succeed (← get).radio.info.ip.toText
  | .reset => reboot
  | .enableDevice => do
    switchDevices (← devicesOf l) true
    reply "ok"
  | .disableDevice => do
    switchDevices (← devicesOf l) false
    reply "ok"

end StorageAdapter.Device
