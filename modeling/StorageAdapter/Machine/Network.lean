import StorageAdapter.Bytes

/-! # Network data

The credentials, scan results and interface details that the adapter exchanges with the radio and
reports to its clients. -/

namespace StorageAdapter

/-- An IPv4 address. -/
abbrev Ipv4 := Vector UInt8 4

/-- A hardware address. -/
abbrev Mac := Vector UInt8 6

/-- The name and passphrase of a network. -/
structure Credentials where
  ssid : String := ""
  password : String := ""
deriving DecidableEq, Repr

/-- A network that a scan has found. -/
structure ScanResult where
  ssid : String := ""
  /-- The signal strength in dBm. -/
  rssi : Int8 := 0
deriving DecidableEq, Repr

/-- The details of the network interface. -/
structure InterfaceInfo where
  hostname : String := ""
  ssid : String := ""
  /-- The hardware address of the access point. -/
  bssid : Mac := Vector.replicate 6 0
  ip : Ipv4 := Vector.replicate 4 0
  gateway : Ipv4 := Vector.replicate 4 0
  netmask : Ipv4 := Vector.replicate 4 0
  dns : Ipv4 := Vector.replicate 4 0
  mac : Mac := Vector.replicate 6 0
deriving DecidableEq, Repr

end StorageAdapter
