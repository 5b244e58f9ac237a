import StorageAdapter.Error
import StorageAdapter.Machine.Network
import StorageAdapter.Text.Utf8

/-! # Blocks about the network

The layouts of the credentials, of a scan result and of the adapter configuration. Every field has
a fixed width and is filled up with NUL. -/

namespace StorageAdapter

/-- The width of a network name. -/
def ssidWidth : Nat := 33

def passphraseWidth : Nat := 64

namespace Credentials

/-- The block that reports the stored credentials: name, then passphrase. -/
def toBlock (c : Credentials) : Bytes :=
  Bytes.padded ssidWidth (Text.encode c.ssid) ++
    Bytes.padded passphraseWidth (Text.encode c.password)

/-- Reads a request to join a network: the name, a NUL and the passphrase up to another NUL. -/
def ofRequest (payload : Bytes) : Credentials :=
  { ssid := Text.ofField payload, password := Text.ofField (payload.afterNul.getD []) }

end Credentials

namespace ScanResult

/-- The block of a scan result: name, then signal strength. -/
def toBlock (r : ScanResult) : Bytes :=
  Bytes.padded ssidWidth (Text.encode r.ssid) ++ [r.rssi.toUInt8]

end ScanResult

/-! ## Addresses as text -/

/-- An address as four decimal numbers between dots. -/
def Ipv4.toText (a : Ipv4) : String :=
  ".".intercalate (a.toList.map fun b => toString b.toNat)

/-- An address as six pairs of uppercase hexadecimal digits between colons. -/
def Mac.toText (a : Mac) : String := ":".intercalate (a.toList.map Error.hexPair)

/-! ## The adapter configuration -/

/-- The adapter as it is shown to clients. -/
structure AdapterConfig where
  net : InterfaceInfo
  version : String
deriving DecidableEq, Repr

namespace AdapterConfig

def hostnameWidth : Nat := 64

def versionWidth : Nat := 15

/-- The width of an address as four numbers. -/
def ipTextWidth : Nat := 16

/-- The width of an address as six pairs. -/
def macTextWidth : Nat := 18

/-- A text field that always ends in NUL. -/
def field (width : Nat) (s : String) : Bytes := Bytes.terminated width (Text.encode s)

def toBlock (c : AdapterConfig) : Bytes :=
  field ssidWidth c.net.ssid ++ field hostnameWidth c.net.hostname ++
  c.net.ip.toList ++ c.net.gateway.toList ++ c.net.netmask.toList ++ c.net.dns.toList ++
  c.net.mac.toList ++ c.net.bssid.toList ++
  field versionWidth c.version

/-- The configuration block followed by the addresses as text. -/
def toExtendedBlock (c : AdapterConfig) : Bytes :=
  c.toBlock ++
  field ipTextWidth c.net.ip.toText ++ field ipTextWidth c.net.gateway.toText ++
  field ipTextWidth c.net.dns.toText ++ field ipTextWidth c.net.netmask.toText ++
  field macTextWidth c.net.mac.toText ++ field macTextWidth c.net.bssid.toText

end AdapterConfig

end StorageAdapter
