import StorageAdapter.Device.Operations

/-! # Opcode callers

What each opcode does. An opcode either runs on its own frame or on the frame of data behind it, and
it puts the bytes for its caller into the buffer for opcode callers itself. -/

namespace StorageAdapter.Device

variable {W R D : Type} [HostStorage W R] [SettingsStore W] [KeyStorage W] [DriveBay D]

/-! ## Arguments -/

def byteAt (data : Bytes) (i : Nat) : Except Error UInt8 :=
  match data[i]? with
  | some b => .ok b
  | none => .error .parameterCount

/-- The only byte of the data; 1 asks for hexadecimal text. -/
def asksForHex : Bytes → Except Error Bool
  | [flag] => .ok (flag == 1)
  | _ => .error (.parameter "input should be 1 byte")

/-- The byte that reports whether a network is joined. -/
def wifiStatusByte (d : Device W R D) : UInt8 := if d.radio.connected then 3 else 6

/-! ## Opcodes without data -/

/-- What an opcode does on its own frame, for those that need no data. -/
def runOpcode (op : Opcode) (frame : Bytes) : Option (Action (Device W R D) Unit) :=
  match op with
  | .reset => some reboot
  | .getSsid => some do setBinary (← get).credentials.toBlock
  | .scan => some do setBinary [← scan]
  | .getWifiStatus => some do setBinary [(← get).wifiStatusByte]
  | .getWifiEnabled => some do setBinary [Status.flag (← get).settings.wifi.enabled]
  | .closeDirectory => some (onRack (modify Rack.closeDirectory))
  | .readHostSlots => some do setBinary (← get).hostnameBlock
  | .writeHostSlots => some (replaceHostnames frame)
  | .readDeviceSlots => some do setBinary (← get).diskBlock
  | .getAdapterConfig => some do setBinary (← get).adapterConfig.toBlock
  | .getAdapterConfigExtended => some do setBinary (← get).adapterConfig.toExtendedBlock
  | .getDirectoryPosition => some do setBinary (Bytes.ofWord (← onRack Rack.directoryPosition))
  | .readAppKey => some do setBinary (← KeySession.read (← get).keySession)
  | .closeAppKey => some (modify fun d => { d with appKey := d.appKey.closed })
  | .status => some do setBinary (← get).status.toBytes
  | .mountAll => some mountAll
  | .hashClear => some (modify fun d => { d with digest := {} })
  | _ => none

/-! ## Opcodes with data -/

/-- Opens a listing: the host slot, the path and, behind a NUL, the pattern. -/
def openDirectoryOf : Bytes → Action (Device W R D) Unit
  | [] => throw .parameterCount
  | host :: rest =>
    onRack (Rack.openDirectory host (Text.ofField rest) ((Bytes.afterNul rest).map Text.ofField))

/-- Points a disk slot at a file: the disk slot, the host slot, the mode and the filename. -/
def setFilenameOf : Bytes → Action (Device W R D) Unit
  | slot :: host :: mode :: name =>
    setFilename slot host (AccessMode.ofByte mode) (Text.ofField name)
  | _ => throw .parameterCount

/-- Moves the directory cursor: the position, low byte first. -/
def seekDirectoryOf : Bytes → Action (Device W R D) Unit
  | low :: high :: _ => onRack (Rack.seekDirectory (Bytes.word low high))
  | _ => throw .parameterCount

/-- The filename of a disk slot as bytes; an empty one is a single NUL. -/
def filenameBytes (name : String) : Bytes := if name = "" then [0] else Text.encode name

/-- Digests the collected input. -/
def computeDigest (algorithm : UInt8) (clear : Bool) : Action (Device W R D) Unit := do
  let algorithm ← DigestAlgorithm.ofByte algorithm
  modify fun d => { d with digest := d.digest.compute d.digester algorithm clear }

/-- What an opcode does with the frame of data behind it, for those that need data. -/
def runOpcodeWithData (op : Opcode) (data : Bytes) : Option (Action (Device W R D) Unit) :=
  match op with
  | .getScanResult => some do
    let index ← byteAt data 0
    setBinary ((← get).scanResult index).toBlock
  | .setSsid => some (setCredentials (.ofRequest data) true)
  | .mountHost => some do mountHost (← byteAt data 0)
  | .unmountHost => some do unmountHost (← byteAt data 0)
  | .mountImage => some do
    let slot ← byteAt data 0
    let mode ← byteAt data 1
    let _ ← mountImage slot (AccessMode.ofByte mode)
  | .unmountImage => some do unmountImage (← byteAt data 0)
  | .openDirectory => some (openDirectoryOf data)
  | .readDirEntry => some do
    let limit ← byteAt data 0
    let options ← byteAt data 1
    setBinary (← onRack (Rack.readDirectory limit options))
  | .writeDeviceSlots => some (replaceDisks data)
  | .setDirectoryPosition => some (seekDirectoryOf data)
  | .setDeviceFullpath => some (setFilenameOf data)
  | .getDeviceFullpath => some do
    let slot ← byteAt data 0
    setBinary (filenameBytes (← (← get).filename slot))
  | .writeAppKey => some do
    let _ ← onKeySession (KeySession.write data)
  | .openAppKey => some do
    let request ← KeyRequest.decode data
    modify fun d => { d with appKey := request.toKey }
  | .configBoot => some do setConfigBoot ((← byteAt data 0) != 0)
  | .setBootDevice => some do setBootDevice (← byteAt data 0)
  | .enableDevice => some (switchDevices data true)
  | .disableDevice => some (switchDevices data false)
  | .hashInput => some (modify fun d => { d with digest := d.digest.feed data })
  | .hashCompute => some do computeDigest (← byteAt data 0) true
  | .hashComputeNoClear => some do computeDigest (← byteAt data 0) false
  | .hashLength => some do
    let asHex ← asksForHex data
    setBinary [(← get).digest.length asHex]
  | .hashOutput => some do
    let asHex ← asksForHex data
    setBinary ((← get).digest.result asHex)
  | _ => none

end StorageAdapter.Device
