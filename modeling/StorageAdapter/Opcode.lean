/-! # Opcodes

The commands of opcode callers. An opcode frame is the byte `marker` and the opcode; some opcodes
run as soon as that frame arrives, the others wait for one frame of data. -/

namespace StorageAdapter

/-- A command of opcode callers. -/
inductive Opcode where
  | reset
  | getSsid
  | scan
  | getScanResult
  | setSsid
  | getWifiStatus
  | mountHost
  | mountImage
  | openDirectory
  | readDirEntry
  | closeDirectory
  | readHostSlots
  | writeHostSlots
  | readDeviceSlots
  | writeDeviceSlots
  | getWifiEnabled
  | unmountImage
  | getAdapterConfig
  | unmountHost
  | getDirectoryPosition
  | setDirectoryPosition
  | setDeviceFullpath
  | writeAppKey
  | readAppKey
  | openAppKey
  | closeAppKey
  | getDeviceFullpath
  | configBoot
  | mountAll
  | setBootDevice
  | enableDevice
  | disableDevice
  | hashInput
  | hashCompute
  | hashLength
  | hashOutput
  | getAdapterConfigExtended
  | hashComputeNoClear
  | hashClear
  | status
deriving DecidableEq, Repr

namespace Opcode

/-- The first byte of an opcode frame. -/
def marker : UInt8 := 0x01

/-- The byte of an opcode. -/
def code : Opcode → UInt8
  | reset => 0xFF
  | getSsid => 0xFE
  | scan => 0xFD
  | getScanResult => 0xFC
  | setSsid => 0xFB
  | getWifiStatus => 0xFA
  | mountHost => 0xF9
  | mountImage => 0xF8
  | openDirectory => 0xF7
  | readDirEntry => 0xF6
  | closeDirectory => 0xF5
  | readHostSlots => 0xF4
  | writeHostSlots => 0xF3
  | readDeviceSlots => 0xF2
  | writeDeviceSlots => 0xF1
  | getWifiEnabled => 0xEA
  | unmountImage => 0xE9
  | getAdapterConfig => 0xE8
  | unmountHost => 0xE6
  | getDirectoryPosition => 0xE5
  | setDirectoryPosition => 0xE4
  | setDeviceFullpath => 0xE2
  | writeAppKey => 0xDE
  | readAppKey => 0xDD
  | openAppKey => 0xDC
  | closeAppKey => 0xDB
  | getDeviceFullpath => 0xDA
  | configBoot => 0xD9
  | mountAll => 0xD7
  | setBootDevice => 0xD6
  | enableDevice => 0xD5
  | disableDevice => 0xD4
  | hashInput => 0xC8
  | hashCompute => 0xC7
  | hashLength => 0xC6
  | hashOutput => 0xC5
  | getAdapterConfigExtended => 0xC4
  | hashComputeNoClear => 0xC3
  | hashClear => 0xC2
  | status => 0x53

/-- All opcodes, in the order of the command table. -/
def all : List Opcode :=
  [reset, getSsid, scan, getScanResult, setSsid, getWifiStatus, mountHost, mountImage,
   openDirectory, readDirEntry, closeDirectory, readHostSlots, writeHostSlots, readDeviceSlots,
   writeDeviceSlots, getWifiEnabled, unmountImage, getAdapterConfig, unmountHost,
   getDirectoryPosition, setDirectoryPosition, setDeviceFullpath, writeAppKey, readAppKey,
   openAppKey, closeAppKey, getDeviceFullpath, configBoot, mountAll, setBootDevice, enableDevice,
   disableDevice, hashInput, hashCompute, hashLength, hashOutput, getAdapterConfigExtended,
   hashComputeNoClear, hashClear, status]

def ofByte? (b : UInt8) : Option Opcode := all.find? (·.code == b)

/-- Whether an opcode runs as soon as its frame arrives. -/
def needsNoData : Opcode → Bool
  | reset | getSsid | scan | getWifiStatus | getWifiEnabled | closeDirectory
  | readHostSlots | writeHostSlots | readDeviceSlots | getAdapterConfig
  | getAdapterConfigExtended | getDirectoryPosition | readAppKey | closeAppKey | status
  | mountAll | hashClear => true
  | _ => false

def name : Opcode → String
  | reset => "RESET"
  | getSsid => "GET_SSID"
  | scan => "SCAN_NETWORKS"
  | getScanResult => "GET_SCAN_RESULT"
  | setSsid => "SET_SSID"
  | getWifiStatus => "GET_WIFISTATUS"
  | mountHost => "MOUNT_HOST"
  | mountImage => "MOUNT_IMAGE"
  | openDirectory => "OPEN_DIRECTORY"
  | readDirEntry => "READ_DIR_ENTRY"
  | closeDirectory => "CLOSE_DIRECTORY"
  | readHostSlots => "READ_HOST_SLOTS"
  | writeHostSlots => "WRITE_HOST_SLOTS"
  | readDeviceSlots => "READ_DEVICE_SLOTS"
  | writeDeviceSlots => "WRITE_DEVICE_SLOTS"
  | getWifiEnabled => "GET_WIFI_ENABLED"
  | unmountImage => "UNMOUNT_IMAGE"
  | getAdapterConfig => "GET_ADAPTERCONFIG"
  | unmountHost => "UNMOUNT_HOST"
  | getDirectoryPosition => "GET_DIRECTORY_POSITION"
  | setDirectoryPosition => "SET_DIRECTORY_POSITION"
  | setDeviceFullpath => "SET_DEVICE_FULLPATH"
  | writeAppKey => "WRITE_APPKEY"
  | readAppKey => "READ_APPKEY"
  | openAppKey => "OPEN_APPKEY"
  | closeAppKey => "CLOSE_APPKEY"
  | getDeviceFullpath => "GET_DEVICE_FULLPATH"
  | configBoot => "CONFIG_BOOT"
  | mountAll => "MOUNT_ALL"
  | setBootDevice => "SET_BOOT_MODE"
  | enableDevice => "ENABLE_DEVICE"
  | disableDevice => "DISABLE_DEVICE"
  | hashInput => "HASH_INPUT"
  | hashCompute => "HASH_COMPUTE"
  | hashLength => "HASH_LENGTH"
  | hashOutput => "HASH_OUTPUT"
  | getAdapterConfigExtended => "GET_ADAPTERCONFIG_EXTENDED"
  | hashComputeNoClear => "HASH_COMPUTE_NO_CLEAR"
  | hashClear => "HASH_CLEAR"
  | status => "STATUS"

end Opcode

end StorageAdapter
