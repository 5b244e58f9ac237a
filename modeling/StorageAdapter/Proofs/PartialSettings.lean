import Mathlib
import StorageAdapter.Proofs.Sections
import StorageAdapter.Proofs.SettingsFile

/-! # Settings files with parts left out

A settings file may leave out any setting, list fewer hosts and disks than there are slots, and
leave out any key of a table; what it says is told by an `Outline`. A file with an outline loads if
and only if it lists no host at all or at least eight, and likewise for disks
(`partial_settings_load_iff`). Then the hosts and disks that are listed fill the slots in order, and
what is left out has its default value. -/

namespace StorageAdapter

namespace Slots

variable {α : Type}

/-- The table with the first entries from a list and the others alike. -/
def ofList (d : α) (l : List α) : Slots α := Vector.ofFn fun i => l[i.val]?.getD d

/-- Whether a list is long enough for the slots, if there is one. -/
def Filled (n : Nat) : Prop := n = 0 ∨ 8 ≤ n

instance (n : Nat) : Decidable (Filled n) := inferInstanceAs (Decidable (_ ∨ _))

end Slots

namespace Toml

open Reader

/-! ### Tables in any order -/

/-- A kind of table: the pairs for what is said in one. -/
structure Shape (α : Type) where
  fields : α → List Field
  isRead : ∀ a, ∀ f ∈ fields a, f.IsRead
  distinct : ∀ a, Field.Distinct (fields a)

/-- A table: what it says, and its pairs in some order. -/
structure Table {α : Type} (shape : Shape α) where
  content : α
  fields : List Field
  perm : fields.Perm (shape.fields content)

namespace Table

variable {α : Type} {shape : Shape α} (t : Table shape)

/-- The table with its pairs in the usual order. -/
def usual (content : α) : Table shape := ⟨content, shape.fields content, .refl _⟩

def entries : Entries := t.fields.map Field.entry

theorem isRead : ∀ f ∈ t.fields, f.IsRead :=
  fun f hf => shape.isRead t.content f (t.perm.mem_iff.1 hf)

theorem distinct : Field.Distinct t.fields := (shape.distinct t.content).perm t.perm

theorem get?_entries (key : String) :
    t.entries.get? key = Entries.get? ((shape.fields t.content).map Field.entry) key :=
  congrFun ((shape.distinct t.content).get?_perm t.perm) key

end Table

/-! ### What tables say -/

/-- What is said about a host. -/
structure HostPart where
  name : Option String := none
  kind : Option HostKind := none

namespace HostPart

def shape : Shape HostPart where
  fields p := (p.name.map (textField "name")).toList ++
    (p.kind.map fun k => textField "kind" k.word).toList
  isRead := by
    rintro ⟨_ | name, _ | kind⟩ <;>
      simp [isRead_textField (show BareKey "name" by decide),
        isRead_textField (show BareKey "kind" by decide)]
  distinct := by
    rintro ⟨_ | name, _ | kind⟩ <;> simp [textField, Field.Distinct]

/-- The host, with defaults for what is left out. -/
def filled (p : HostPart) : HostSettings :=
  let d : HostSettings := {}
  { name := p.name.getD d.name, kind := p.kind.getD d.kind }

theorem hostOf?_entries (t : Table shape) :
    hostOf? (.table .header t.entries) = some t.content.filled := by
  have hkind := HostKind.ofWord?_word
  simp only [hostOf?, Record.of?, Option.bind_eq_bind, Option.bind_some, Record.read,
    Record.member?, t.get?_entries]
  rcases t.content with ⟨_ | name, _ | kind⟩ <;>
    simp [Entries.get?, shape, filled, Field.entry, textField, Node.string?, Node.word?,
      List.lookup_cons, hkind]

end HostPart

/-- What is said about a disk. -/
structure DiskPart where
  hostSlot : Option UInt8 := none
  path : Option String := none
  mode : Option AccessMode := none

namespace DiskPart

def shape : Shape DiskPart where
  fields p := (p.hostSlot.map (byteField "host_slot")).toList ++
    (p.path.map (textField "path")).toList ++ (p.mode.map fun m => textField "mode" m.word).toList
  isRead := by
    rintro ⟨_ | slot, _ | path, _ | mode⟩ <;>
      simp [isRead_byteField (show BareKey "host_slot" by decide),
        isRead_textField (show BareKey "path" by decide),
        isRead_textField (show BareKey "mode" by decide)]
  distinct := by
    rintro ⟨_ | slot, _ | path, _ | mode⟩ <;> simp [textField, byteField, Field.Distinct]

/-- The disk, with defaults for what is left out. -/
def filled (p : DiskPart) : DiskSettings :=
  let d : DiskSettings := {}
  { hostSlot := p.hostSlot, path := p.path.getD d.path, mode := p.mode.getD d.mode }

theorem mountOf?_entries (t : Table shape) :
    mountOf? (.table .header t.entries) = some t.content.filled := by
  have hslot := byte?_integer
  have hmode := AccessMode.ofWord?_word
  simp only [mountOf?, Record.of?, Option.bind_eq_bind, Option.bind_some, Record.read,
    Record.member?, t.get?_entries]
  rcases t.content with ⟨_ | slot, _ | path, _ | mode⟩ <;>
    simp [Entries.get?, shape, filled, Field.entry, textField, byteField, Node.string?, Node.word?,
      List.lookup_cons, hslot, hmode]

end DiskPart

/-- What is said about WiFi. -/
structure WifiPart where
  enabled : Option Bool := none
  ssid : Option String := none
  passphrase : Option String := none

namespace WifiPart

def shape : Shape WifiPart where
  fields p := (p.enabled.map (booleanField "enabled")).toList ++
    (p.ssid.map (textField "ssid")).toList ++ (p.passphrase.map (textField "passphrase")).toList
  isRead := by
    rintro ⟨_ | enabled, _ | ssid, _ | passphrase⟩ <;>
      simp [isRead_booleanField (show BareKey "enabled" by decide),
        isRead_textField (show BareKey "ssid" by decide),
        isRead_textField (show BareKey "passphrase" by decide)]
  distinct := by
    rintro ⟨_ | enabled, _ | ssid, _ | passphrase⟩ <;>
      simp [textField, booleanField, Field.Distinct]

/-- The settings, with defaults for what is left out. -/
def filled (p : WifiPart) : WifiSettings :=
  let d : WifiSettings := {}
  { enabled := p.enabled.getD d.enabled, ssid := p.ssid.getD d.ssid,
    passphrase := p.passphrase.getD d.passphrase }

theorem wifiOf?_entries (t : Table shape) :
    wifiOf? (.table .header t.entries) = some t.content.filled := by
  simp only [wifiOf?, Record.of?, Option.bind_eq_bind, Option.bind_some, Record.read,
    Record.member?, t.get?_entries]
  rcases t.content with ⟨_ | enabled, _ | ssid, _ | passphrase⟩ <;>
    simp [Entries.get?, shape, filled, Field.entry, textField, booleanField, Node.string?,
      Node.bool?, List.lookup_cons]

end WifiPart

/-- What is said before the first header. -/
structure RootPart where
  bootConfig : Option Bool := none
  bootDevice : Option UInt8 := none
  switches : Option (Slots Bool) := none

def RootPart.shape : Shape RootPart where
  fields p := (p.bootConfig.map (booleanField "boot_config")).toList ++
    (p.bootDevice.map (byteField "boot_device")).toList ++
    (p.switches.map fun bs => switchesField "device_enabled" bs.toList).toList
  isRead := by
    rintro ⟨_ | config, _ | device, _ | switches⟩ <;>
      simp [isRead_booleanField (show BareKey "boot_config" by decide),
        isRead_byteField (show BareKey "boot_device" by decide),
        isRead_switchesField (show BareKey "device_enabled" by decide)]
  distinct := by
    rintro ⟨_ | config, _ | device, _ | switches⟩ <;>
      simp [booleanField, byteField, switchesField, Field.Distinct]

/-! ### Outlines -/

/-- A table behind the pairs at the beginning. -/
inductive Part where
  | host (t : Table HostPart.shape)
  | disk (t : Table DiskPart.shape)
  | wifi (t : Table WifiPart.shape)

namespace Part

def toSection : Part → Section
  | host t => ⟨"hosts", true, t.fields⟩
  | disk t => ⟨"mounts", true, t.fields⟩
  | wifi t => ⟨"wifi", false, t.fields⟩

def host? : Part → Option (Table HostPart.shape)
  | host t => some t
  | _ => none

def disk? : Part → Option (Table DiskPart.shape)
  | disk t => some t
  | _ => none

def wifi? : Part → Option (Table WifiPart.shape)
  | wifi t => some t
  | _ => none

/-- The keys of the tables. -/
def keys : List String := ["hosts", "mounts", "wifi"]

theorem key_mem (p : Part) : p.toSection.key ∈ keys := by
  cases p <;> simp [toSection, keys]

end Part

/-- What a settings file says: some settings, and tables in any order, of which at most one is about
WiFi. -/
structure Outline where
  root : Table RootPart.shape
  parts : List Part
  wifi_once : (parts.filterMap Part.wifi?).length ≤ 1

namespace Outline

/-- The outline as a document. -/
def document (o : Outline) : Document := ⟨o.root.fields, o.parts.map Part.toSection⟩

/-- The hosts that are listed. -/
def hosts (o : Outline) : List HostSettings :=
  (o.parts.filterMap Part.host?).map fun t => t.content.filled

/-- The disks that are listed. -/
def disks (o : Outline) : List DiskSettings :=
  (o.parts.filterMap Part.disk?).map fun t => t.content.filled

/-- The table about WiFi. -/
def wifi? (o : Outline) : Option WifiSettings :=
  (o.parts.filterMap Part.wifi?).head?.map fun t => t.content.filled

/-- The settings, with defaults for what is left out. -/
def settings (o : Outline) : Settings :=
  let d : Settings := {}
  { hosts := Slots.ofList {} o.hosts
    mounts := Slots.ofList {} o.disks
    wifi := o.wifi?.getD d.wifi
    bootConfig := o.root.content.bootConfig.getD d.bootConfig
    bootDevice := o.root.content.bootDevice.getD d.bootDevice
    switches := o.root.content.switches.getD d.switches }

/-- Whether the tables that are listed fill the slots. -/
def Loads (o : Outline) : Prop := Slots.Filled o.hosts.length ∧ Slots.Filled o.disks.length

instance (o : Outline) : Decidable o.Loads := inferInstanceAs (Decidable (_ ∧ _))

theorem isRead_document (o : Outline) : o.document.IsRead where
  pairs := o.root.isRead
  keys := by
    intro s hs
    obtain ⟨p, -, rfl⟩ := List.mem_map.1 hs
    cases p with
    | host t => exact show BareKey "hosts" by decide
    | disk t => exact show BareKey "mounts" by decide
    | wifi t => exact show BareKey "wifi" by decide
  fields := by
    intro s hs
    obtain ⟨p, -, rfl⟩ := List.mem_map.1 hs
    cases p with
    | host t => exact t.isRead
    | disk t => exact t.isRead
    | wifi t => exact t.isRead

theorem distinct_document (o : Outline) : o.document.Distinct where
  pairs := o.root.distinct
  fields := by
    intro s hs
    obtain ⟨p, -, rfl⟩ := List.mem_map.1 hs
    cases p with
    | host t => exact t.distinct
    | disk t => exact t.distinct
    | wifi t => exact t.distinct

end Outline

/-! ### The values by key -/

/-- The tables with a key are those of one kind of part. -/
theorem Part.tablesAt_eq {α : Type} {shape : Shape α} {key : String}
    (pick : Part → Option (Table shape))
    (hpick : ∀ p, (pick p).map Table.entries =
      if p.toSection.key = key then some p.toSection.entries else none) (parts : List Part) :
    Section.tablesAt key (parts.map toSection) = (parts.filterMap pick).map Table.entries := by
  induction parts with
  | nil => rfl
  | cons p parts ih =>
    have hp := hpick p
    unfold Section.tablesAt at ih ⊢
    rw [List.map_cons, List.filter_cons]
    by_cases hkey : p.toSection.key = key
    · rw [if_pos hkey] at hp
      obtain ⟨t, ht, hentries⟩ := Option.map_eq_some_iff.1 hp
      rw [if_pos (decide_eq_true hkey), List.filterMap_cons_some ht, List.map_cons, List.map_cons,
        ih, hentries]
    · rw [if_neg hkey, Option.map_eq_none_iff] at hp
      rw [if_neg fun h => hkey (of_decide_eq_true h), List.filterMap_cons_none hp, ih]

theorem RootPart.get?_entries (t : Table shape) (key : String) : t.entries.get? key =
    ((if "boot_config" = key then t.content.bootConfig.map .boolean else none).or
      (if "boot_device" = key then t.content.bootDevice.map fun b => .integer b.toNat
        else none)).or
      (if "device_enabled" = key then t.content.switches.map fun bs =>
        .array (bs.toList.map .boolean) else none) := by
  rw [t.get?_entries]
  generalize t.content = p
  unfold shape
  rw [List.map_append, List.map_append, Entries.get?_append, Entries.get?_append,
    Field.get?_optional (booleanField "boot_config") fun _ => rfl,
    Field.get?_optional (byteField "boot_device") fun _ => rfl,
    Field.get?_optional (fun bs : Slots Bool => switchesField "device_enabled" bs.toList)
      fun _ => rfl]
  rfl

theorem RootPart.get?_of_mem (t : Table shape) {key : String} (hkey : key ∈ Part.keys) :
    t.entries.get? key = none := by
  rw [get?_entries]
  simp only [Part.keys, List.mem_cons, List.not_mem_nil, or_false] at hkey
  rcases hkey with rfl | rfl | rfl <;> rfl

namespace Outline

/-- The values by key that the outline leads to. -/
def values (o : Outline) : String → Option Node :=
  Section.behind (fun key => key ≠ "wifi") o.root.entries.get? (o.parts.map Part.toSection)

section Values

variable (o : Outline)

theorem values_of_mem {α : Type} {shape : Shape α} {key : String} (hkey : key ∈ Part.keys)
    (pick : Part → Option (Table shape))
    (hpick : ∀ p, (pick p).map Table.entries =
      if p.toSection.key = key then some p.toSection.entries else none) :
    o.values key = Section.valueOf (key ≠ "wifi") ((o.parts.filterMap pick).map Table.entries) := by
  unfold values Section.behind
  rw [Part.tablesAt_eq pick hpick, RootPart.get?_of_mem o.root hkey, Option.or_none]

theorem values_hosts : o.values "hosts" =
    Section.valueOf true ((o.parts.filterMap Part.host?).map Table.entries) :=
  o.values_of_mem (by decide) Part.host? (by rintro (t | t | t) <;> rfl)

theorem values_mounts : o.values "mounts" =
    Section.valueOf true ((o.parts.filterMap Part.disk?).map Table.entries) :=
  o.values_of_mem (by decide) Part.disk? (by rintro (t | t | t) <;> rfl)

theorem values_wifi : o.values "wifi" =
    (o.parts.filterMap Part.wifi?).head?.map fun t => .table .header t.entries := by
  rw [o.values_of_mem (by decide) Part.wifi? (by rintro (t | t | t) <;> rfl)]
  cases o.parts.filterMap Part.wifi? <;> rfl

/-- The value of a key before the first header. -/
theorem values_root {key : String} (hkey : key ∉ Part.keys) :
    o.values key = o.root.entries.get? key := by
  have hnone : Section.tablesAt key (o.parts.map Part.toSection) = [] := by
    unfold Section.tablesAt
    rw [List.map_eq_nil_iff, List.filter_eq_nil_iff]
    intro s hs hs'
    obtain ⟨p, -, rfl⟩ := List.mem_map.1 hs
    exact hkey (of_decide_eq_true hs' ▸ p.key_mem)
  unfold values Section.behind
  rw [hnone]
  rfl

theorem values_bootConfig :
    o.values "boot_config" = o.root.content.bootConfig.map .boolean := by
  rw [o.values_root (by decide), RootPart.get?_entries]
  simp

theorem values_bootDevice :
    o.values "boot_device" = o.root.content.bootDevice.map fun b => .integer b.toNat := by
  rw [o.values_root (by decide), RootPart.get?_entries]
  simp

theorem values_switches : o.values "device_enabled" =
    o.root.content.switches.map fun bs => .array (bs.toList.map .boolean) := by
  rw [o.values_root (by decide), RootPart.get?_entries]
  simp

end Values

end Outline

/-! ### Reading the values -/

section Slots

variable {α β : Type} {shape : Shape α} {decode : Node → Option β} {fill : α → β}
  (hdecode : ∀ t : Table shape, decode (.table .header t.entries) = some (fill t.content)) (d : β)
include hdecode

/-- **A list of tables** is read if it is long enough for the slots. -/
theorem slotsOf?_tables (tables : List (Table shape)) :
    slotsOf? decode (.tables (tables.map Table.entries)) =
      if 8 ≤ tables.length then some (Slots.ofList d (tables.map fun t => fill t.content))
      else none := by
  have hlist : Node.list? (.tables (tables.map Table.entries)) =
      some (tables.map fun t => .table .header t.entries) := by
    simp [Node.list?]
  have hread : (tables.map fun t => Node.table .header t.entries).map decode =
      (tables.map fun t => fill t.content).map some := by
    rw [List.map_map, List.map_map]
    exact congrArg (List.map · _) (funext hdecode)
  rw [slotsOf?_of_items hlist hread]
  by_cases hlength : 8 ≤ tables.length
  · rw [dif_pos (hlength.trans_eq (List.length_map _).symm), if_pos hlength]
    refine congrArg some (Vector.ext fun i hi => ?_)
    have hi' : i < tables.length := by omega
    simp [Slots.ofList, hi']
  · rw [dif_neg fun h => hlength (h.trans_eq (List.length_map _)), if_neg hlength]

/-- Without a list of tables every slot has its default. -/
theorem read_slots {r : Record} {name : String} {position : Nat} {tables : List (Table shape)}
    (hmember : r.member? name position = Section.valueOf true (tables.map Table.entries)) :
    r.read name position (slotsOf? decode) (Vector.replicate 8 d) =
      if Slots.Filled (tables.map fun t => fill t.content).length then
        some (Slots.ofList d (tables.map fun t => fill t.content))
      else none := by
  unfold Record.read
  rw [hmember, List.length_map]
  rcases tables with _ | ⟨t, tables⟩
  · rw [if_pos (.inl rfl)]
    refine congrArg some (Vector.ext fun i hi => ?_)
    simp [Slots.ofList]
  · have hfilled : Slots.Filled (t :: tables).length ↔ 8 ≤ (t :: tables).length :=
      or_iff_right (Nat.succ_ne_zero _)
    rw [if_congr hfilled rfl rfl]
    exact slotsOf?_tables hdecode d (t :: tables)

end Slots

/-- A member that may be missing has its default then. -/
theorem Record.read_optional {α : Type} {r : Record} {name : String} {position : Nat}
    {decode : Node → Option α} {o : Option α}
    (h : (r.member? name position).map decode = o.map some) (default : α) :
    r.read name position decode default = some (o.getD default) := by
  unfold read
  generalize r.member? name position = m at h ⊢
  cases m with
  | none =>
    obtain rfl : o = none := Option.map_eq_none_iff.1 h.symm
    rfl
  | some n =>
    obtain ⟨a, rfl, hread⟩ := Option.map_eq_some_iff.1 h.symm
    exact hread.symm

namespace Outline

variable {o : Outline}

/-- **The settings of an outline** are read from its values. -/
theorem settingsOf?_eq {root : Entries} (h : root.get? = o.values) :
    settingsOf? root = if o.Loads then some o.settings else none := by
  have hmember (name : String) (position : Nat) :
      (Record.named root).member? name position = o.values name := congrFun h name
  have hhosts : (Record.named root).read "hosts" 0 (slotsOf? hostOf?) (Vector.replicate 8 {}) =
      if Slots.Filled o.hosts.length then some (Slots.ofList {} o.hosts) else none :=
    read_slots HostPart.hostOf?_entries {} ((hmember "hosts" 0).trans o.values_hosts)
  have hdisks : (Record.named root).read "mounts" 1 (slotsOf? mountOf?) (Vector.replicate 8 {}) =
      if Slots.Filled o.disks.length then some (Slots.ofList {} o.disks) else none :=
    read_slots DiskPart.mountOf?_entries {} ((hmember "mounts" 1).trans o.values_mounts)
  have hwifi : (Record.named root).read "wifi" 2 wifiOf? {} = some (o.wifi?.getD {}) := by
    refine Record.read_optional ?_ _
    rw [hmember, values_wifi, Outline.wifi?, Option.map_map, Option.map_map]
    exact congrArg (Option.map · _) (funext WifiPart.wifiOf?_entries)
  have hconfig : (Record.named root).read "boot_config" 3 Node.bool? true =
      some (o.root.content.bootConfig.getD true) := by
    refine Record.read_optional ?_ _
    rw [hmember, values_bootConfig, Option.map_map]
    rfl
  have hdevice : (Record.named root).read "boot_device" 4 Node.byte? 0 =
      some (o.root.content.bootDevice.getD 0) := by
    refine Record.read_optional ?_ _
    rw [hmember, values_bootDevice, Option.map_map]
    refine congrArg (Option.map · _) (funext fun b => ?_)
    rw [Function.comp_apply, byte?_integer]
  have hbools (bs : Slots Bool) : slotsOf? Node.bool? (.array (bs.toList.map .boolean)) = some bs :=
    slotsOf?_eq rfl fun _ => rfl
  have hswitches : (Record.named root).read "device_enabled" 5 (slotsOf? Node.bool?)
      (Vector.replicate 8 true) =
        some (o.root.content.switches.getD (Vector.replicate 8 true)) := by
    refine Record.read_optional ?_ _
    rw [hmember, values_switches, Option.map_map]
    exact congrArg (Option.map · _) (funext hbools)
  unfold settingsOf?
  simp only [hhosts, hdisks, hwifi, hconfig, hdevice, hswitches]
  by_cases hfirst : Slots.Filled o.hosts.length
  · by_cases hsecond : Slots.Filled o.disks.length
    · have hloads : o.Loads := ⟨hfirst, hsecond⟩
      rw [if_pos hfirst, if_pos hsecond, if_pos hloads]
      rfl
    · have hnot : ¬o.Loads := fun h => hsecond h.2
      rw [if_pos hfirst, if_neg hsecond, if_neg hnot]
      rfl
  · have hnot : ¬o.Loads := fun h => hfirst h.1
    rw [if_neg hfirst, if_neg hnot]
    rfl

theorem foldlM_sections (o : Outline) :
    o.document.sections.foldlM Section.grow o.root.entries.get? = some o.values := by
  refine Section.foldlM_grow ?_ ?_ ?_
  · intro s hs
    obtain ⟨p, -, rfl⟩ := List.mem_map.1 hs
    cases p <;> rfl
  · intro key hkey
    obtain rfl : key = "wifi" := not_not.1 (of_decide_eq_false hkey)
    show (Section.tablesAt "wifi" (o.parts.map Part.toSection)).length ≤ 1
    rw [Part.tablesAt_eq Part.wifi? (by rintro (t | t | t) <;> rfl), List.length_map]
    exact o.wifi_once
  · intro s hs
    obtain ⟨p, -, rfl⟩ := List.mem_map.1 hs
    exact RootPart.get?_of_mem o.root p.key_mem

/-- **A text that says what an outline says** is read as its settings if the tables fill the
slots. -/
theorem readSettings_eq (o : Outline) {text : String}
    (h : Reads Statement.readAll text.toList o.document.statements []) :
    readSettings text = if o.Loads then some o.settings else none := by
  obtain ⟨root, hbuild, hroot⟩ := o.distinct_document.build_statements o.foldlM_sections
  rw [readSettings_of_reads h hbuild, settingsOf?_eq hroot]

end Outline

end Toml

/-! ### The settings file -/

namespace Folder.Storage

open Toml Toml.Reader

/-- What a text says decides what a file with it loads. -/
theorem load_of_reads {o : Outline} {text : String}
    (hread : Reads Statement.readAll text.toList o.document.statements []) {s : Storage}
    {content : Content} {time : Int} (hbytes : content.toBytes = Text.encode text)
    (hfile : s.tree.find s.settingsFile = .ok ⟨some content, time⟩) :
    load s = if o.Loads then .ok o.settings else .error invalidSettings := by
  unfold load
  rw [hfile]
  simp only [hbytes, Text.decode?_encode, o.readSettings_eq hread]
  split_ifs <;> rfl

/-- **Settings files with parts left out.** The document of any outline can be written, and a file
that says the same, with whatever comments, spaces and kinds of quotes, loads if and only if it
lists no host at all or at least eight, and likewise for disks. Then the first slots have the hosts
and disks that are listed, with defaults for the keys that their tables leave out, and all other
slots and settings that are left out have their defaults. Any other file is invalid. -/
theorem partial_settings_load_iff (o : Outline) :
    Reads Statement.readAll o.document.text.toList o.document.statements [] ∧
      ∀ text : String, Reads Statement.readAll text.toList o.document.statements [] →
        ∀ (s : Storage) (content : Content) (time : Int), content.toBytes = Text.encode text →
          s.tree.find s.settingsFile = .ok ⟨some content, time⟩ →
            load s = if o.Loads then .ok o.settings else .error invalidSettings :=
  ⟨o.isRead_document.reads_text, fun _ hread _ _ _ hbytes hfile =>
    load_of_reads hread hbytes hfile⟩

/-- A folder with nothing in it but a settings file. -/
def holding (text : String) : Storage :=
  below [] (({} : FileTree).put ["fuji.toml"] (FileTree.fileAt (Text.encode text) 0))

theorem find_holding (text : String) :
    (holding text).tree.find (holding text).settingsFile =
      .ok (FileTree.fileAt (Text.encode text) 0) := by
  have hplace : ({} : FileTree).Writable ["fuji.toml"] ["fuji.toml"] :=
    ⟨by decide, by decide +kernel, by decide⟩
  exact hplace.find rfl

/-- A file with comments and with other quotes than those that are written. -/
theorem partial_settings_load_comments :
    let text := "# kept\nboot_device = 3\n\n[wifi]\nssid = \x27retro\x27 # home\n"
    load (holding text) = .ok { bootDevice := 3, wifi := { ssid := "retro" } } := by
  intro text
  set o : Outline := {
    root := .usual { bootDevice := some 3 }
    parts := [.wifi (.usual { ssid := some "retro" })]
    wifi_once := by decide }
  have hread : Reads Statement.readAll text.toList o.document.statements [] := by
    unfold Reads
    cbv
  have hload := (partial_settings_load_iff o).2 text hread (holding text) _ 0 (toBytes_bytes _)
    (find_holding text)
  rw [hload, if_pos (by decide)]
  rfl

/-- A file that lists one host and one disk is invalid, although all that it says is right. -/
theorem partial_settings_invalid_one_host :
    let o : Outline := {
      root := .usual { bootConfig := some true, bootDevice := some 0 }
      parts := [
        .host (.usual { name := some "SD", kind := some .sd }),
        .disk (.usual { hostSlot := some 0, path := some "/games/elite.d64", mode := some .read }),
        .wifi (.usual
          { enabled := some true, ssid := some "retro", passphrase := some "commodore" })]
      wifi_once := by decide }
    let text := "boot_config = true\nboot_device = 0\n\n" ++
      "[[hosts]]\nname = \"SD\"\nkind = \"sd\"\n\n" ++
      "[[mounts]]\nhost_slot = 0\npath = \"/games/elite.d64\"\nmode = \"read\"\n\n" ++
      "[wifi]\nenabled = true\nssid = \"retro\"\npassphrase = \"commodore\"\n"
    Reads Statement.readAll text.toList o.document.statements [] ∧ o.hosts.length = 1 ∧
      o.disks.length = 1 ∧ load (holding text) = .error invalidSettings := by
  intro o text
  have htext : text = o.document.text := by decide +kernel
  have hread : Reads Statement.readAll text.toList o.document.statements [] :=
    htext ▸ o.isRead_document.reads_text
  refine ⟨hread, rfl, rfl, ?_⟩
  rw [load_of_reads hread (toBytes_bytes _) (find_holding text)]
  exact if_neg (by decide)

end Folder.Storage

end StorageAdapter
