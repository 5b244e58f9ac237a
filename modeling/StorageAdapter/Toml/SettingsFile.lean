import StorageAdapter.Settings
import StorageAdapter.Toml.Document

/-! # The settings file

Settings as a document. Reading fills what is missing with the default settings and passes over
what it does not know, but what is there must have the right type: a table of slots needs an entry
for each slot. Writing puts every setting into the document, and what is written reads back as it
was. -/

namespace StorageAdapter.Toml

/-! ## Reading values -/

/-- A truth value. -/
def Node.bool? : Node → Option Bool
  | .boolean b => some b
  | _ => none

def Node.string? : Node → Option String
  | .string s => some s
  | _ => none

/-- A number that fits in a byte. -/
def Node.byte? : Node → Option UInt8
  | .integer n => if 0 ≤ n ∧ n < 256 then some (UInt8.ofNat n.toNat) else none
  | _ => none

/-- The values of a list; tables in double brackets are one. -/
def Node.list? : Node → Option (List Node)
  | .array items => some items
  | .tables elements => some (elements.map (.table .header))
  | _ => none

/-- Whether a table or a list has nothing in it. -/
def Node.isEmpty : Node → Bool
  | .table _ es => es.isEmpty
  | n => n.list?.any (·.isEmpty)

/-- A word: a string, or the only key of a table that says nothing about it. -/
def Node.word? : Node → Option String
  | .string s => some s
  | .table _ [(key, n)] => if n.isEmpty then some key else none
  | _ => none

/-! ## Reading records -/

/-- The members of a record, by name or by position. -/
inductive Record where
  | named (entries : Entries)
  | listed (items : List Node)

namespace Record

/-- The record that a value stands for. A date or a time stands for one without members. -/
def of? : Node → Option Record
  | .table _ es => some (.named es)
  | .moment => some (.named [])
  | n => n.list?.map .listed

def member? (r : Record) (name : String) (position : Nat) : Option Node :=
  match r with
  | .named es => es.get? name
  | .listed items => items[position]?

/-- Reads a member of a record; a missing one has a default value. -/
def read {α : Type} (r : Record) (name : String) (position : Nat) (decode : Node → Option α)
    (default : α) : Option α :=
  match r.member? name position with
  | some n => decode n
  | none => some default

end Record

/-- A configured host. -/
def hostOf? (n : Node) : Option HostSettings := do
  let r ← Record.of? n
  return {
    name := ← r.read "name" 0 Node.string? ""
    kind := ← r.read "kind" 1 (fun n => n.word?.bind HostKind.ofWord?) .unused }

/-- A configured disk. -/
def mountOf? (n : Node) : Option DiskSettings := do
  let r ← Record.of? n
  return {
    hostSlot := ← r.read "host_slot" 0 (fun n => n.byte?.map some) none
    path := ← r.read "path" 1 Node.string? ""
    mode := ← r.read "mode" 2 (fun n => n.word?.bind AccessMode.ofWord?) .read }

/-- The WiFi settings. -/
def wifiOf? (n : Node) : Option WifiSettings := do
  let r ← Record.of? n
  return {
    enabled := ← r.read "enabled" 0 Node.bool? true
    ssid := ← r.read "ssid" 1 Node.string? ""
    passphrase := ← r.read "passphrase" 2 Node.string? "" }

/-- A table of slots; what is left over is passed over. -/
def slotsOf? {α : Type} (decode : Node → Option α) (n : Node) : Option (Slots α) := do
  let items ← (← n.list?).take 8 |>.mapM decode
  if h : items.length = 8 then some ⟨items.toArray, by simpa using h⟩ else none

/-- The settings that a document holds. -/
def settingsOf? (root : Entries) : Option Settings := do
  let r := Record.named root
  let d : Settings := {}
  return {
    hosts := ← r.read "hosts" 0 (slotsOf? hostOf?) d.hosts
    mounts := ← r.read "mounts" 1 (slotsOf? mountOf?) d.mounts
    wifi := ← r.read "wifi" 2 wifiOf? d.wifi
    bootConfig := ← r.read "boot_config" 3 Node.bool? d.bootConfig
    bootDevice := ← r.read "boot_device" 4 Node.byte? d.bootDevice
    switches := ← r.read "device_enabled" 5 (slotsOf? Node.bool?) d.switches }

/-- Reads the settings from the text of a file. -/
def readSettings (text : String) : Option Settings := (parse text).bind settingsOf?

/-! ## Writing -/

/-- A key and its value. -/
def pairLine (name value : String) : String := name ++ " = " ++ value ++ "\n"

/-- A truth value. -/
def boolText (b : Bool) : String := if b then "true" else "false"

/-- The switches, each on its own line. -/
def switchesText (switches : List Bool) : String :=
  "[\n" ++ String.join (switches.map fun b => "    " ++ boolText b ++ ",\n") ++ "]"

/-- A host with its header. -/
def hostText (h : HostSettings) : String :=
  "\n[[hosts]]\n" ++ pairLine "name" (Quoted.write h.name) ++
    pairLine "kind" (Quoted.write h.kind.word)

/-- The line of a host slot, which is left out if there is none. -/
def hostSlotLine : Option UInt8 → String
  | some slot => pairLine "host_slot" (toString slot.toNat)
  | none => ""

/-- A disk with its header. -/
def mountText (m : DiskSettings) : String :=
  "\n[[mounts]]\n" ++ hostSlotLine m.hostSlot ++ pairLine "path" (Quoted.write m.path) ++
    pairLine "mode" (Quoted.write m.mode.word)

/-- The WiFi settings with their header. -/
def wifiText (w : WifiSettings) : String :=
  "\n[wifi]\n" ++ pairLine "enabled" (boolText w.enabled) ++
    pairLine "ssid" (Quoted.write w.ssid) ++
    pairLine "passphrase" (Quoted.write w.passphrase)

/-- The text of the file. -/
def settingsText (s : Settings) : String :=
  pairLine "boot_config" (boolText s.bootConfig) ++
  pairLine "boot_device" (toString s.bootDevice.toNat) ++
  pairLine "device_enabled" (switchesText s.switches.toList) ++
  String.join (s.hosts.toList.map hostText) ++
  String.join (s.mounts.toList.map mountText) ++
  wifiText s.wifi

end StorageAdapter.Toml
