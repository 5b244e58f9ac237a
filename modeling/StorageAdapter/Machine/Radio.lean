import StorageAdapter.Digest.Crc8
import StorageAdapter.Machine.Network
import StorageAdapter.Text.Utf8

/-! # Radio

The WiFi station: the networks in range and whether it has joined one. The station of a machine
without WiFi has no networks in range. -/

namespace StorageAdapter

/-- A WiFi station. -/
structure Radio where
  connected : Bool := false
  /-- The networks in range. -/
  visible : List ScanResult := []
  /-- What the last scan has found. -/
  lastScan : List ScanResult := []
  /-- The credentials that networks accept. -/
  accepted : List Credentials := []
  info : InterfaceInfo := {}
deriving DecidableEq, Repr

namespace Radio

/-- The station of a machine without WiFi. -/
def offline (hostname : String) : Radio := { info := { hostname } }

/-- Puts a network in range. -/
def addNetwork (r : Radio) (c : Credentials) (rssi : Int8) : Radio :=
  { r with visible := r.visible ++ [⟨c.ssid, rssi⟩], accepted := r.accepted ++ [c] }

/-- Looks for networks and yields their number, 255 if there are more. -/
def scan (r : Radio) : UInt8 × Radio :=
  (UInt8.ofNat (min r.visible.length 255), { r with lastScan := r.visible })

def result? (r : Radio) (index : UInt8) : Option ScanResult := r.lastScan[index.toNat]?

/-- Tries to join a network and yields whether it was joined. -/
def join (r : Radio) (c : Credentials) : Bool × Radio :=
  if c ∈ r.accepted then
    (true, { r with connected := true, info := { r.info with ssid := c.ssid } })
  else (false, { r with connected := false })

/-- The first network of the last scan whose name has a given checksum. -/
def nameByChecksum? (r : Radio) (checksum : UInt8) : Option String :=
  (r.lastScan.find? fun network =>
    Digest.Crc8.checksum (Text.encode network.ssid) == checksum).map (·.ssid)

end Radio

end StorageAdapter
