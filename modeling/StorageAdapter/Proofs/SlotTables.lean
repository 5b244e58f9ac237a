import StorageAdapter.Proofs.Run
import StorageAdapter.Proofs.Utf8

/-! # Well-formed slots

The rest of the adapter takes for granted that names and paths fit their fields, that the kind noted
for a host is that of its name and that a mounted host has one, that a disk slot without a file has
no host, and that an image is only in a slot that names its file and its host. Slots are written by
operations, by blocks whose names may grow when they are read, and by settings of any size.
Whichever it is, it leaves well-formed slots behind (`Rack.WellFormed`), in every state of every run
(`slot_tables_well_formed`). -/

namespace StorageAdapter

open StorageAdapter.Action StorageAdapter.Device

variable {W R D : Type}

/-! ### One slot -/

/-- The name fits, the kind is that of the name, and only a host of some kind is mounted. -/
structure HostSlot.WellFormed (h : HostSlot R) : Prop where
  hostname : Text.size h.hostname ≤ nameLimit
  kind : h.KindOfName
  mounted : h.mount ≠ none → h.kind ≠ .unused

/-- The path fits, there is no host without a path, and only a named image is mounted. -/
structure DiskSlot.WellFormed (d : DiskSlot) : Prop where
  filename : Text.size d.filename ≤ filenameLimit
  hostSlot : d.filename = "" → d.hostSlot = none
  image : d.image ≠ none → d.hostSlot ≠ none ∧ d.filename ≠ ""

namespace HostSlot

theorem wellFormed_empty : ({} : HostSlot R).WellFormed :=
  ⟨Nat.zero_le _, .empty, fun hm => absurd rfl hm⟩

/-- A host that was given a name. -/
theorem wellFormed_named (name : String) : (named name : HostSlot R).WellFormed :=
  ⟨Text.size_clip_le _ _, .named name, fun hm => absurd rfl hm⟩

-- thirty-one ill-formed bytes in a block of names are read as ninety-three, and cut
example : Text.size (Text.ofField (List.replicate 31 0xFF)) = 93 ∧
    Text.size (Text.clip nameLimit (Text.ofField (List.replicate 31 0xFF))) = 30 := by
  decide +kernel

variable {h : HostSlot R}

theorem WellFormed.unmount (hh : h.WellFormed) :
    ({ h with mount := none } : HostSlot R).WellFormed :=
  ⟨hh.hostname, hh.kind, fun hm => absurd rfl hm⟩

/-- Whatever becomes of a host that is mounted. -/
theorem WellFormed.mapMount (hh : h.WellFormed) (f : Mounted R → Mounted R) :
    ({ h with mount := h.mount.map f } : HostSlot R).WellFormed :=
  ⟨hh.hostname, hh.kind, fun hm => hh.mounted fun hn => hm (congrArg (Option.map f) hn)⟩

theorem WellFormed.mount (hh : h.WellFormed) (hk : h.kind ≠ .unused) (m : Option (Mounted R)) :
    ({ h with mount := m } : HostSlot R).WellFormed := ⟨hh.hostname, hh.kind, fun _ => hk⟩

theorem WellFormed.filled (hh : h.WellFormed) (s : HostSettings) : (h.filled s).WellFormed := by
  unfold HostSlot.filled
  split
  · exact hh
  · exact wellFormed_named _

end HostSlot

namespace DiskSlot

theorem wellFormed_empty : ({} : DiskSlot).WellFormed :=
  ⟨Nat.zero_le _, fun _ => rfl, fun hm => absurd rfl hm⟩

/-- A slot that was pointed at a file, however long its path. -/
theorem wellFormed_assigned (filename : String) (host : Option (Fin 8)) (mode : AccessMode) :
    (assigned filename host mode).WellFormed where
  filename := Text.size_clip_le _ _
  hostSlot hf := if_pos ((Text.clip_eq_empty_iff (by decide)).1 hf)
  image hm := absurd rfl hm

variable {d : DiskSlot}

theorem WellFormed.filled (hd : d.WellFormed) (s : DiskSettings) : (d.filled s).WellFormed := by
  unfold DiskSlot.filled
  split
  · exact hd
  · exact wellFormed_assigned _ _ _

end DiskSlot

/-! ### The rack -/

namespace Rack

/-- All slots are well formed. -/
structure WellFormed (r : Rack W R D) : Prop where
  host : ∀ i, (r.hosts.get i).WellFormed
  disk : ∀ i, (r.disks.get i).WellFormed

theorem wellFormed_empty (storage : W) (drives : D) :
    ({ storage, drives } : Rack W R D).WellFormed where
  host i := by
    show (Slots.get (Vector.replicate 8 ({} : HostSlot R)) i).WellFormed
    rw [Slots.get_replicate]
    exact HostSlot.wellFormed_empty
  disk i := by
    show (Slots.get (Vector.replicate 8 ({} : DiskSlot)) i).WellFormed
    rw [Slots.get_replicate]
    exact DiskSlot.wellFormed_empty

namespace WellFormed

variable {r : Rack W R D} (h : r.WellFormed)
include h

/-- Only the slots matter. -/
theorem beside (storage : W) (drives : D) (cursor : Cursor) :
    { r with storage, drives, cursor }.WellFormed := ⟨h.host, h.disk⟩

theorem setHost (i : Fin 8) {host : HostSlot R} (hh : host.WellFormed) :
    (r.setHost i host).WellFormed where
  host j := by
    show ((r.hosts.set i host).get j).WellFormed
    rw [Slots.get_set]
    split
    · exact hh
    · exact h.host j
  disk := h.disk

theorem setDisk (i : Fin 8) {d : DiskSlot} (hd : d.WellFormed) : (r.setDisk i d).WellFormed where
  host := h.host
  disk j := by
    show ((r.disks.set i d).get j).WellFormed
    rw [Slots.get_set]
    split
    · exact hd
    · exact h.disk j

theorem mount (i : Fin 8) (hk : (r.hosts.get i).kind ≠ .unused) (m : Option (Mounted R)) :
    (r.setHost i { r.hosts.get i with mount := m }).WellFormed :=
  h.setHost i ((h.host i).mount hk m)

/-- Whatever becomes of the listing of a mounted host. -/
theorem setMounted {i : Fin 8} {m : Mounted R} (hm : (r.hosts.get i).mount = some m)
    (m' : Mounted R) : (Rack.setMounted i m' r).WellFormed :=
  h.mount i ((h.host i).mounted (hm ▸ Option.some_ne_none m)) _

theorem closeDirectory : r.closeDirectory.WellFormed := by
  unfold Rack.closeDirectory
  rcases r.cursor.openOn with _ | i
  · exact h.beside _ _ _
  · exact (h.setHost i ((h.host i).mapMount Mounted.closed)).beside _ _ _

theorem readyToOpen : r.readyToOpen.WellFormed := by
  unfold Rack.readyToOpen
  split
  · exact h.closeDirectory
  · exact h

omit h in
theorem follows : Follows (WellFormed : Rack W R D → Prop) where
  lost h _ := h.beside _ _ _
  moved h _ hm _ _ := h.setMounted hm _
  marked h _ := h.beside _ _ _

section Drives

variable [DriveBay D]

theorem assign (i : Fin 8) (filename : String) (host : Option (Fin 8)) (mode : AccessMode) :
    (r.assign i (.assigned filename host mode)).WellFormed := by
  obtain ⟨drives, hr⟩ := assign_eq i (.assigned filename host mode) r
  rw [hr]
  exact (h.beside _ drives _).setDisk i (DiskSlot.wellFormed_assigned filename host mode)

/-- A slot is ready only if it names the image that is loaded into it. -/
theorem load {i : Fin 8} (hready : r.Ready i) (mode : AccessMode) (size : Nat) :
    (r.loaded i mode size).WellFormed := by
  obtain ⟨hf, host, -, hh, -⟩ := hready
  have hd := h.disk i
  exact (h.beside _ _ _).setDisk i
    ⟨hd.filename, hd.hostSlot, fun _ => ⟨hh ▸ Option.some_ne_none host, hf⟩⟩

theorem fill [HostStorage W R] (settings : Settings) : (r.fill settings).WellFormed where
  host i := by
    rw [hosts_fill]
    exact (h.host i).filled _
  disk i := by
    rw [disks_fill]
    exact (h.disk i).filled _

end Drives

variable [HostStorage W R]

theorem rename (i : Fin 8) (name : String) : (r.rename i name).WellFormed := by
  obtain ⟨w, -, hr⟩ := rename_eq i name r
  rw [hr]
  exact (h.beside w _ _).setHost i (HostSlot.wellFormed_named name)

theorem openDirectory (slot : UInt8) (path : String) (pattern : Option String) :
    ((Rack.openDirectory slot path pattern).after r).WellFormed := by
  unfold after
  obtain ⟨e, -, ho⟩ | ⟨e, ho⟩ | ⟨e, i, m, hm, ho⟩ | ⟨i, m, entries, -, hm, -, ho⟩ :=
    openDirectory_cases slot path pattern r <;> rw [ho]
  · exact h
  · exact h.readyToOpen
  · exact h.readyToOpen.setMounted hm _
  · exact (h.readyToOpen.setMounted hm _).beside _ _ _

end WellFormed

end Rack

/-! ### All runs -/

variable [HostStorage W R] [SettingsStore W] [KeyStorage W] [DriveBay D]

/-- **Every operation leaves well-formed slots behind.** -/
theorem upheld_wellFormed : Upheld (fun d : Device W R D => d.rack.WellFormed)
    fun d => d.rack.WellFormed where
  weaken h := h
  before := ⟨fun h _ => h.beside _ _ _, fun h _ hk _ => h.mount _ hk _⟩
  during := ⟨fun h _ => h.beside _ _ _, fun h _ hk _ => h.mount _ hk _⟩
  aside h _ _ := h
  digest h _ := h
  key h _ _ := h.beside _ _ _
  fill {d} h := h.fill d.settings
  unmount {_ i} h _ := h.setHost i (h.host i).unmount
  close h := h.closeDirectory
  follow _ := Rack.WellFormed.follows
  rename {d} h i name := by
    show (Device.renameHost i name d.rack).WellFormed
    unfold Device.renameHost Rack.dropCursor
    split
    · exact (h.rename i name).beside _ _ _
    · exact h.rename i name
  load h hready mode size := h.load hready mode size
  empty h i := (h.beside _ _ _).setDisk i DiskSlot.wellFormed_empty
  assign h i filename host mode := h.assign i filename host mode
  wifi h _ := h
  boot h _ _ := h
  switch h _ _ := h.beside _ _ _
  save h := by
    rw [after_save]
    exact h.beside _ _ _

/-- **One move leaves well-formed slots behind.** -/
theorem wellFormed_move {d : Device W R D} (h : d.rack.WellFormed) (m : Move W D) :
    (d.move m).rack.WellFormed := by
  refine upheld_wellFormed.move (fun h _ _ _ => h) m (fun slot path pattern _ => ?_)
    (fun storage drives radio hm h => ?_) h
  · exact ends_onRack fun d => keeps_iff.2 fun r hr => hr.openDirectory slot path pattern
  · subst hm
    exact h.beside _ _ _

omit [KeyStorage W] in
theorem wellFormed_start (storage : W) (drives : D) (radio : Radio) (board : Board)
    (digester : Digester) :
    (Device.start storage drives radio board digester : Device W R D).rack.WellFormed := by
  have hr := rack_start (R := R) storage drives radio board digester
  rw [hr]
  exact ((Rack.wellFormed_empty storage drives).fill _).beside _ _ _

/-- **A run leaves well-formed slots behind.** -/
theorem wellFormed_run (storage : W) (drives : D) (radio : Radio) (board : Board)
    (digester : Digester) (moves : List (Move W D)) :
    ((Device.start storage drives radio board digester : Device W R D).run
      moves).rack.WellFormed :=
  List.foldlRecOn moves Device.move (motive := fun e : Device W R D => e.rack.WellFormed)
    (wellFormed_start storage drives radio board digester) fun _ he m _ => wellFormed_move he m

theorem DiskSlot.hostByte_cases (d : DiskSlot) :
    d.hostByte = DeviceRecord.noHost ∨ d.hostByte.toNat < 8 := by
  unfold hostByte
  rcases d.hostSlot with _ | i
  · exact .inl rfl
  · refine .inr ?_
    simp only
    rw [UInt8.toNat_ofNat']
    omega

/-- In every state of every run of a device that has started, whatever the settings, the hosts and
the world outside are, each name is at most 31 and each path at most 255 bytes of UTF-8, from which
it can be read back. The kind of a host is that of its name, and a mounted host has one. The host of
a disk slot is told as none or as a slot number. A disk slot without a path has no host, and an
image is only in a slot with both. -/
theorem slot_tables_well_formed (storage : W) (drives : D) (radio : Radio) (board : Board)
    (digester : Digester) (moves : List (Move W D)) :
    let d : Device W R D := (Device.start storage drives radio board digester).run moves
    (∀ i, let h := d.rack.hosts.get i
      (Text.encode h.hostname).length ≤ 31 ∧
      Text.decode? (Text.encode h.hostname) = some h.hostname ∧
      h.kind = HostKind.ofHostname h.hostname ∧
      (h.isMounted → h.kind ≠ .unused)) ∧
    ∀ i, let s := d.rack.disks.get i
      (Text.encode s.filename).length ≤ 255 ∧
      Text.decode? (Text.encode s.filename) = some s.filename ∧
      (s.hostByte = DeviceRecord.noHost ∨ s.hostByte.toNat < 8) ∧
      (s.filename = "" → s.hostSlot = none) ∧
      (s.isMounted → s.hostSlot ≠ none ∧ s.filename ≠ "") := by
  intro d
  have h : d.rack.WellFormed := wellFormed_run storage drives radio board digester moves
  refine ⟨fun i => ?_, fun i => ?_⟩
  · have hi := h.host i
    exact ⟨hi.hostname, Text.decode?_encode _, hi.kind,
      fun hm => hi.mounted (Option.isSome_iff_ne_none.1 hm)⟩
  · have hi := h.disk i
    exact ⟨hi.filename, Text.decode?_encode _, DiskSlot.hostByte_cases _, hi.hostSlot,
      fun hm => hi.image (Option.isSome_iff_ne_none.1 hm)⟩

end StorageAdapter
