import StorageAdapter.Memory.Adapter
import StorageAdapter.Proofs.Drives
import StorageAdapter.Proofs.KeptSettings

/-! # Restarts

What a device holds is mirrored in its settings: the names of the hosts, the media of the disk
slots, the boot choice and the switches (`Mirrors`). A device that starts from settings mirrors
them, too, so it is the same as any other one that does. The mirror is complete after every save,
even one that fails; and the settings that are kept are those in memory unless the last save failed
(`saved_configuration_survives_restart`). -/

namespace StorageAdapter

open StorageAdapter.Action StorageAdapter.Device

/-! ### Slots and the settings they are kept as -/

namespace DiskSlot

/-- What a slot says about an image: the file, its host and the mode, if it names one. -/
def medium (d : DiskSlot) : Option (String × Fin 8 × AccessMode) :=
  if d.filename = "" then none else d.hostSlot.map fun host => (d.filename, host, d.mode)

theorem medium_assigned (filename : String) (host : Option (Fin 8)) (mode : AccessMode) :
    (assigned filename host mode).medium =
      if filename = "" then none
      else host.map fun host => (Text.clip filenameLimit filename, host, mode) := by
  unfold assigned medium
  simp only [Text.clip_eq_empty_iff (n := filenameLimit) (by decide)]
  by_cases hf : filename = ""
  · rw [if_pos hf, if_pos hf]
  · rw [if_neg hf, if_neg hf, if_neg hf]

theorem medium_filled {d : DiskSlot} (hs : Text.size d.filename ≤ filenameLimit)
    (s : DiskSettings) : (d.filled s).medium = (ofSettings s).medium := by
  by_cases ha : d.agrees s
  · obtain ⟨hf, hh, hm⟩ := agrees_iff.1 ha
    unfold ofSettings
    rw [filled_of_agrees ha, medium_assigned, ← hf, ← hh, ← hm, Text.clip_of_size_le hs]
    rfl
  · rw [filled_of_not_agrees ha]

theorem isSome_medium (d : DiskSlot) : d.medium.isSome = d.namesImage := by
  unfold medium namesImage
  by_cases hf : d.filename = "" <;> simp [hf]

/-- The settings of a slot say what the slot says. -/
theorem medium_ofSettings_toSettings {d : DiskSlot} (hs : Text.size d.filename ≤ filenameLimit) :
    (ofSettings d.toSettings).medium = d.medium := by
  by_cases hn : d.namesImage
  · rw [← medium_filled hs, filled_of_agrees (agrees_toSettings hn)]
  · have hd : d.medium = none := by
      rwa [← Option.not_isSome_iff_eq_none, isSome_medium]
    unfold toSettings
    rw [if_neg hn, hd]
    rfl

end DiskSlot

/-! ### Bounds -/

section Bounds

variable {R : Type} {hosts : Slots (HostSlot R)} {disks : Slots DiskSlot}

/-- Names and paths are as short as the slots keep them, and hosts have the kinds of their names. -/
structure Bounded (hosts : Slots (HostSlot R)) (disks : Slots DiskSlot) : Prop where
  hostname : ∀ i, Text.size (hosts.get i).hostname ≤ HostSlot.nameLimit
  kind : ∀ i, (hosts.get i).KindOfName
  filename : ∀ i, Text.size (disks.get i).filename ≤ DiskSlot.filenameLimit

theorem bounded_empty :
    Bounded (Vector.replicate 8 ({} : HostSlot R)) (Vector.replicate 8 ({} : DiskSlot)) where
  hostname i := by
    rw [Slots.get_replicate]
    exact Nat.zero_le _
  kind i := by
    rw [Slots.get_replicate]
    exact .empty
  filename i := by
    rw [Slots.get_replicate]
    exact Nat.zero_le _

theorem Bounded.setHost (h : Bounded hosts disks) (i : Fin 8) {host : HostSlot R}
    (hh : Text.size host.hostname ≤ HostSlot.nameLimit) (hk : host.KindOfName) :
    Bounded (hosts.set i host) disks where
  hostname j := by
    rw [Slots.get_set]
    split
    · exact hh
    · exact h.hostname j
  kind j := by
    rw [Slots.get_set]
    split
    · exact hk
    · exact h.kind j
  filename := h.filename

theorem Bounded.setDisk (h : Bounded hosts disks) (i : Fin 8) {disk : DiskSlot}
    (hd : Text.size disk.filename ≤ DiskSlot.filenameLimit) : Bounded hosts (disks.set i disk) where
  hostname := h.hostname
  kind := h.kind
  filename j := by
    rw [Slots.get_set]
    split
    · exact hd
    · exact h.filename j

theorem Bounded.fill {W D : Type} [HostStorage W R] [DriveBay D] {r : Rack W R D}
    (h : Bounded r.hosts r.disks) (settings : Settings) :
    Bounded (r.fill settings).hosts (r.fill settings).disks where
  hostname i := by
    rw [Rack.hosts_fill, HostSlot.hostname_filled (h.hostname i)]
    exact Text.size_clip_le _ _
  kind := Rack.KindsOfNames.fill h.kind settings
  filename i := by
    rw [Rack.disks_fill]
    unfold DiskSlot.filled
    split
    · exact h.filename i
    · exact Text.size_clip_le _ _

end Bounds

/-! ### Switches -/

/-- The bus device that has a switch. -/
def Settings.driveDevice (i : Fin 8) : UInt8 := firstDrive + Rack.unit i

theorem Settings.switch?_eq_some_iff {device : UInt8} {i : Fin 8} :
    switch? device = some i ↔ device = driveDevice i := by
  have hi : (driveDevice i).toNat = 8 + i := by
    unfold driveDevice
    rw [UInt8.toNat_add, Rack.toNat_unit]
    have : firstDrive.toNat = 8 := rfl
    omega
  unfold switch?
  constructor
  · intro h
    split at h
    · next hd =>
      have he := congrArg Fin.val (Option.some.inj h)
      refine UInt8.toNat_inj.1 ?_
      simp only at he
      omega
    · cases h
  · rintro rfl
    rw [dif_pos (by omega)]
    refine congrArg some (Fin.ext ?_)
    show (driveDevice i).toNat - 8 = i
    omega

theorem isDriveDevice_iff {device : UInt8} :
    isDriveDevice device = true ↔ ∃ i, device = Settings.driveDevice i := by
  unfold isDriveDevice
  rw [Option.isSome_iff_exists]
  exact exists_congr fun i => Settings.switch?_eq_some_iff

theorem Settings.driveDevice_ne {i j : Fin 8} (h : j ≠ i) : driveDevice j ≠ driveDevice i := by
  intro e
  have hj := switch?_eq_some_iff.2 (rfl : driveDevice j = driveDevice j)
  rw [e, switch?_eq_some_iff.2 rfl] at hj
  exact h (Option.some.inj hj).symm

section Switches

variable {D : Type} [DriveBay D] [LawfulDrives D]

/-- The bus devices are switched as the settings say. -/
def SwitchesAgree (settings : Settings) (drives : D) : Prop :=
  ∀ i, DriveBay.isOn drives (Settings.driveDevice i) = settings.switches.get i

omit [LawfulDrives D] in
theorem SwitchesAgree.of_isOn {settings : Settings} {drives drives' : D}
    (h : SwitchesAgree settings drives)
    (he : ∀ device, DriveBay.isOn drives' device = DriveBay.isOn drives device) :
    SwitchesAgree settings drives' := fun i => (he _).trans (h i)

theorem switchesAgree_applySwitches (settings : Settings) (drives : D) :
    SwitchesAgree settings (applySwitches settings drives) := by
  intro j
  unfold applySwitches
  refine Slots.get_foldl_finRange (fun b j => DriveBay.isOn b (Settings.driveDevice j))
    (fun b i => (DriveBay.switch (Settings.driveDevice i) (settings.switches.get i) b).2)
    (fun i _ => settings.switches.get i) (fun b i => ?_) (fun b i j hj => ?_) drives j
  · exact LawfulDrives.isOn_switch_self (isDriveDevice_iff.2 ⟨i, rfl⟩) _ b
  · exact LawfulDrives.isOn_switch_of_ne (Settings.driveDevice_ne hj) _ b

theorem isOn_applySwitches {device : UInt8} (hd : ∀ i, device ≠ Settings.driveDevice i)
    (settings : Settings) (drives : D) :
    DriveBay.isOn (applySwitches settings drives) device = DriveBay.isOn drives device := by
  unfold applySwitches
  refine List.foldlRecOn (List.finRange 8) _
    (motive := fun b : D => DriveBay.isOn b device = DriveBay.isOn drives device) rfl ?_
  intro b hb i _
  exact (LawfulDrives.isOn_switch_of_ne (hd i) _ b).trans hb

/-- Switching a device switches its setting, too. -/
theorem SwitchesAgree.switchDevice {W R : Type} {d : Device W R D}
    (h : SwitchesAgree d.settings d.rack.drives) (active : Bool) (device : UInt8) :
    SwitchesAgree (switchDevice active d device).settings
      (switchDevice active d device).rack.drives := by
  intro j
  show DriveBay.isOn (DriveBay.switch device active d.rack.drives).2 _ =
    Slots.get (if (DriveBay.switch device active d.rack.drives).1 then
      d.settings.setSwitch device active else d.settings).switches j
  rw [LawfulDrives.known_switch]
  by_cases hd : isDriveDevice device
  · obtain ⟨i, rfl⟩ := isDriveDevice_iff.1 hd
    rw [if_pos hd]
    unfold Settings.setSwitch
    rw [Settings.switch?_eq_some_iff.2 rfl]
    by_cases hj : j = i
    · subst hj
      rw [LawfulDrives.isOn_switch_self hd]
      exact (Slots.get_set_self _ _ _).symm
    · rw [LawfulDrives.isOn_switch_of_ne (Settings.driveDevice_ne hj), h j]
      exact (Slots.get_set_of_ne _ hj _).symm
  · rw [if_neg hd, LawfulDrives.isOn_switch_of_ne, h j]
    rintro rfl
    exact hd (isDriveDevice_iff.2 ⟨j, rfl⟩)

theorem isOn_assign {W R : Type} (i : Fin 8) (disk : DiskSlot) (r : Rack W R D) (device : UInt8) :
    DriveBay.isOn (r.assign i disk).drives device = DriveBay.isOn r.drives device := by
  unfold Rack.assign
  split
  · exact LawfulDrives.isOn_eject _ _ _
  · rfl

theorem isOn_fill {W R : Type} [HostStorage W R] (settings : Settings)
    (r : Rack W R D) (device : UInt8) :
    DriveBay.isOn (r.fill settings).drives device = DriveBay.isOn r.drives device :=
  Rack.drives_fill (P := fun b _ => DriveBay.isOn b device = DriveBay.isOn r.drives device)
    (fun s i _ hs => (isOn_assign i _ s device).trans hs) settings rfl

end Switches

/-! ### Mirrors -/

section Mirrors

variable {W R D : Type} [DriveBay D] {hosts : Slots (HostSlot R)} {disks : Slots DiskSlot}
  {drives : D}

/-- **The slots and the drives are as the settings say.** -/
structure Mirrors (settings : Settings) (hosts : Slots (HostSlot R)) (disks : Slots DiskSlot)
    (drives : D) : Prop where
  hostname : ∀ i, (hosts.get i).hostname =
    Text.clip HostSlot.nameLimit (settings.hosts.get i).hostname
  kind : ∀ i, (hosts.get i).KindOfName
  medium : ∀ i, (disks.get i).medium = (DiskSlot.ofSettings (settings.mounts.get i)).medium
  switches : SwitchesAgree settings drives

theorem mirrors_currentSettings {d : Device W R D} (hb : Bounded d.rack.hosts d.rack.disks)
    (hs : SwitchesAgree d.settings d.rack.drives) :
    Mirrors d.currentSettings d.rack.hosts d.rack.disks d.rack.drives where
  hostname i := by
    show _ = Text.clip _ (Slots.get (d.rack.hosts.map HostSlot.toSettings) i).hostname
    rw [Slots.get_map, HostSlot.hostname_toSettings (hb.kind i),
      Text.clip_of_size_le (hb.hostname i)]
  kind := hb.kind
  medium i := by
    show _ = (DiskSlot.ofSettings (Slots.get (d.rack.disks.map DiskSlot.toSettings) i)).medium
    rw [Slots.get_map, DiskSlot.medium_ofSettings_toSettings (hb.filename i)]
  switches := hs

variable [HostStorage W R]

/-- The slots mirror the settings that they were filled from. -/
theorem mirrors_fill {r : Rack W R D} (hb : Bounded r.hosts r.disks) {settings : Settings}
    {drives : D} (hs : SwitchesAgree settings drives) :
    Mirrors settings (r.fill settings).hosts (r.fill settings).disks drives where
  hostname i := by rw [Rack.hosts_fill, HostSlot.hostname_filled (hb.hostname i)]
  kind := Rack.KindsOfNames.fill hb.kind settings
  medium i := by rw [Rack.disks_fill, DiskSlot.medium_filled (hb.filename i)]
  switches := hs

variable [SettingsStore W] [LawfulDrives D]

theorem mirrors_start (storage : W) (drives : D) (radio : Radio) (board : Board)
    (digester : Digester) :
    let d : Device W R D := Device.start storage drives radio board digester
    Bounded d.rack.hosts d.rack.disks ∧
      Mirrors d.settings d.rack.hosts d.rack.disks d.rack.drives := by
  intro d
  have hr : d.rack = (Rack.fill d.settings { storage, drives }).switched d.settings := rack_start ..
  have hb := fun settings : Settings =>
    Bounded.fill (r := ({ storage, drives } : Rack W R D)) bounded_empty settings
  rw [hr]
  exact ⟨hb _, mirrors_fill bounded_empty (switchesAgree_applySwitches _ _)⟩

end Mirrors

/-! ### The same configuration -/

section SameConfiguration

variable {W R D : Type} [DriveBay D]

/-- **Two devices are configured alike**: their settings, the names and kinds of their hosts, the
media in their disk slots, the boot choice, and which of their bus devices are on. -/
structure SameConfiguration (d e : Device W R D) : Prop where
  settings : e.settings = d.settings
  hostname : ∀ i, (e.rack.hosts.get i).hostname = (d.rack.hosts.get i).hostname
  kind : ∀ i, (e.rack.hosts.get i).kind = (d.rack.hosts.get i).kind
  media : ∀ i, (d.rack.disks.get i).namesImage →
    (e.rack.disks.get i).filename = (d.rack.disks.get i).filename ∧
    (e.rack.disks.get i).hostSlot = (d.rack.disks.get i).hostSlot ∧
    (e.rack.disks.get i).mode = (d.rack.disks.get i).mode
  noMedia : ∀ i, ¬(d.rack.disks.get i).namesImage → ¬(e.rack.disks.get i).namesImage
  bootConfig : e.bootConfig = d.bootConfig
  bootDevice : e.bootDevice = d.bootDevice
  isOn : ∀ device, DriveBay.isOn e.rack.drives device = DriveBay.isOn d.rack.drives device

theorem DiskSlot.eq_of_medium_eq {d e : DiskSlot} (h : e.medium = d.medium)
    (hn : d.namesImage) : e.filename = d.filename ∧ e.hostSlot = d.hostSlot ∧ e.mode = d.mode := by
  have hd : d.medium.isSome := by rw [isSome_medium, hn]
  obtain ⟨m, hm⟩ := Option.isSome_iff_exists.1 hd
  rw [hm] at h
  have read : ∀ {x : DiskSlot}, x.medium = some m →
      x.filename = m.1 ∧ x.hostSlot = some m.2.1 ∧ x.mode = m.2.2 := by
    intro x hx
    unfold medium at hx
    split at hx
    · cases hx
    · obtain ⟨host, hh, rfl⟩ := Option.map_eq_some_iff.1 hx
      exact ⟨rfl, hh, rfl⟩
  obtain ⟨hf, hh, hmode⟩ := read hm
  obtain ⟨hf', hh', hmode'⟩ := read h
  exact ⟨hf'.trans hf.symm, hh'.trans hh.symm, hmode'.trans hmode.symm⟩

/-- The device holds what its settings say. -/
structure Device.Mirrored (d : Device W R D) : Prop where
  slots : Mirrors d.settings d.rack.hosts d.rack.disks d.rack.drives
  bootConfig : d.bootConfig = d.settings.bootConfig
  bootDevice : d.bootDevice = d.settings.bootDevice

/-- Devices that mirror the same settings are configured alike. -/
theorem Device.Mirrored.same {d e : Device W R D} (hd : d.Mirrored) (he : e.Mirrored)
    (hs : e.settings = d.settings) (hon : ∀ device, (∀ i, device ≠ Settings.driveDevice i) →
      DriveBay.isOn e.rack.drives device = DriveBay.isOn d.rack.drives device) :
    SameConfiguration d e := by
  obtain ⟨he, hconfig, hdevice⟩ := he
  rw [hs] at he hconfig hdevice
  have hname : ∀ i, (e.rack.hosts.get i).hostname = (d.rack.hosts.get i).hostname := fun i =>
    (he.hostname i).trans (hd.slots.hostname i).symm
  have hmedium : ∀ i, (e.rack.disks.get i).medium = (d.rack.disks.get i).medium := fun i =>
    (he.medium i).trans (hd.slots.medium i).symm
  refine ⟨hs, hname, fun i => ?_, fun i => DiskSlot.eq_of_medium_eq (hmedium i), fun i hn => ?_,
    hconfig.trans hd.bootConfig.symm, hdevice.trans hd.bootDevice.symm, fun device => ?_⟩
  · rw [he.kind i, hname i, hd.slots.kind i]
  · rw [← DiskSlot.isSome_medium] at hn ⊢
    rw [hmedium i]
    exact hn
  · by_cases hdev : ∃ i, device = Settings.driveDevice i
    · obtain ⟨i, rfl⟩ := hdev
      rw [he.switches i, hd.slots.switches i]
    · exact hon device (not_exists.1 hdev)

end SameConfiguration

/-! ### All runs -/

section Run

variable {W R D : Type} [HostStorage W R] [SettingsStore W] [KeyStorage W] [DriveBay D]
  [KeepsSettings W R]

/-- What holds while a change waits to be saved. -/
structure Unsaved (d : Device (Watched W) R D) : Prop where
  readable : KeepsSettings.Readable d.rack.storage.inner
  bounded : Bounded d.rack.hosts d.rack.disks
  switches : SwitchesAgree d.settings d.rack.drives

/-- **What holds between operations**: the settings in memory are mirrored, whether or not they
could be saved, and they are kept unless the last attempt to save failed. -/
structure Saved (d : Device (Watched W) R D) : Prop where
  readable : KeepsSettings.Readable d.rack.storage.inner
  bounded : Bounded d.rack.hosts d.rack.disks
  mirrored : d.Mirrored
  kept : d.rack.storage.LastSaveFailed ∨ SettingsStore.load d.rack.storage = .ok d.settings

theorem Saved.setStorage {d : Device (Watched W) R D} (h : Saved d) {w : Watched W}
    (hu : Used d.rack.storage w) : Saved (d.setRack (d.rack.setStorage w)) where
  readable := KeepsSettings.readable_used h.readable (Watched.used_inner hu).1
  bounded := h.bounded
  mirrored := ⟨h.mirrored.slots, h.mirrored.bootConfig, h.mirrored.bootDevice⟩
  kept := by
    rcases h.kept with ⟨e, hf⟩ | hk
    · exact .inl ⟨e, (Watched.used_inner hu).2.trans hf⟩
    · exact .inr ((Watched.load_used h.readable hu).trans hk)

/-- Nothing that is configured depends on the cursor, the listings and what is mounted. -/
theorem Saved.listings {d : Device (Watched W) R D} (h : Saved d) {r : Rack (Watched W) R D}
    (hl : d.rack.SameButListings r) : Saved (d.setRack r) where
  readable := by
    rw [rack_setRack, hl.storage]
    exact h.readable
  bounded := by
    refine ⟨fun i => ?_, Rack.KindsOfNames.listings h.bounded.kind hl, fun i => ?_⟩
    · rw [rack_setRack, hl.hostname i]
      exact h.bounded.hostname i
    · rw [rack_setRack, hl.disks]
      exact h.bounded.filename i
  mirrored := by
    refine ⟨⟨fun i => ?_, Rack.KindsOfNames.listings h.bounded.kind hl, fun i => ?_, ?_⟩,
      h.mirrored.bootConfig, h.mirrored.bootDevice⟩
    · rw [rack_setRack, hl.hostname i]
      exact h.mirrored.slots.hostname i
    · rw [rack_setRack, hl.disks]
      exact h.mirrored.slots.medium i
    · rw [rack_setRack, hl.drives]
      exact h.mirrored.slots.switches
  kept := by
    rw [rack_setRack, hl.storage]
    exact h.kept

theorem Unsaved.setRack {d : Device (Watched W) R D} (h : Unsaved d) {r : Rack (Watched W) R D}
    (hu : Used d.rack.storage r.storage) (hb : Bounded r.hosts r.disks)
    (hon : ∀ device, DriveBay.isOn r.drives device = DriveBay.isOn d.rack.drives device) :
    Unsaved (d.setRack r) where
  readable := KeepsSettings.readable_used h.readable (Watched.used_inner hu).1
  bounded := hb
  switches := h.switches.of_isOn hon

theorem Unsaved.save {d : Device (Watched W) R D} (h : Unsaved d) :
    Saved (Device.save.after d) := by
  rw [after_save]
  exact ⟨Watched.readable_save h.readable d.currentSettings, h.bounded,
    ⟨mirrors_currentSettings h.bounded h.switches, rfl, rfl⟩,
    Watched.load_after_save h.readable d.currentSettings⟩

variable [LawfulDrives D]

theorem Saved.fill {d : Device (Watched W) R D} (h : Saved d) :
    Saved (d.setRack (d.rack.fill d.settings)) := by
  have hs := h.setStorage (Rack.fill_reached d.settings d.rack).1.used
  have hon := h.mirrored.slots.switches.of_isOn (isOn_fill d.settings d.rack)
  exact ⟨hs.readable, h.bounded.fill _,
    ⟨mirrors_fill h.bounded hon, h.mirrored.bootConfig, h.mirrored.bootDevice⟩, hs.kept⟩

theorem upheld_saved : Upheld (Saved : Device (Watched W) R D → Prop) Unsaved where
  weaken h := ⟨h.readable, h.bounded, h.mirrored.slots.switches⟩
  before := ⟨fun h hr => h.setStorage hr.used,
    fun h _ _ _ => h.listings ((Rack.SameButListings.refl _).setMount _ _)⟩
  during := ⟨fun h hr => h.setRack hr.used h.bounded fun _ => rfl,
    fun {d i} h _ _ _ =>
      h.setRack .nothing (h.bounded.setHost i (h.bounded.hostname i) (h.bounded.kind i))
        fun _ => rfl⟩
  aside h _ _ :=
    ⟨h.readable, h.bounded,
      ⟨h.mirrored.slots, h.mirrored.bootConfig, h.mirrored.bootDevice⟩, h.kept⟩
  digest h _ :=
    ⟨h.readable, h.bounded,
      ⟨h.mirrored.slots, h.mirrored.bootConfig, h.mirrored.bootDevice⟩, h.kept⟩
  key h _ hu :=
    have hs := h.setStorage hu
    ⟨hs.readable, hs.bounded,
      ⟨hs.mirrored.slots, hs.mirrored.bootConfig, hs.mirrored.bootDevice⟩, hs.kept⟩
  fill h := h.fill
  unmount h _ := h.listings ((Rack.SameButListings.refl _).setMount _ _)
  close h := h.listings (Rack.SameButListings.refl _).closeDirectory
  follow d := ⟨fun {r} h _ =>
      h.listings (d := d.setRack r) ((Rack.SameButListings.refl r).setCursor _),
    fun {r _ _ _} h _ _ _ _ =>
      h.listings (d := d.setRack r) ((Rack.SameButListings.refl r).setMount _ _),
    fun {r} h _ => h.listings (d := d.setRack r) ((Rack.SameButListings.refl r).setCursor _)⟩
  rename {d} h i name := by
    obtain ⟨w, cursor, hreached, hr⟩ := renameHost_eq i name d.rack
    rw [hr]
    exact h.setRack hreached.used
      (h.bounded.setHost i (Text.size_clip_le _ _) (.named name)) fun _ => rfl
  load {d i} h _ mode size :=
    h.setRack .nothing (h.bounded.setDisk i (h.bounded.filename i)) (LawfulDrives.isOn_insert _ _ _)
  empty h i :=
    h.setRack .nothing (h.bounded.setDisk i (Nat.zero_le _)) (LawfulDrives.isOn_eject _ _)
  assign {d} h i filename host mode := by
    obtain ⟨drives, hr⟩ := Rack.assign_eq i (.assigned filename host mode) d.rack
    have hon := isOn_assign i (.assigned filename host mode) d.rack
    rw [hr] at hon ⊢
    exact h.setRack .nothing (h.bounded.setDisk i (Text.size_clip_le _ _)) hon
  wifi h _ := ⟨h.readable, h.bounded, h.switches⟩
  boot h _ _ := ⟨h.readable, h.bounded, h.switches⟩
  switch h active device := ⟨h.readable, h.bounded, h.switches.switchDevice active device⟩
  save h := h.save

theorem saved_start {storage : W} (hr : KeepsSettings.Readable storage) {settings : Settings}
    (hload : SettingsStore.load storage = .ok settings) (drives : D) (radio : Radio) (board : Board)
    (digester : Digester) :
    Saved (Device.start ⟨storage, none⟩ drives radio board digester : Device (Watched W) R D) := by
  have hs : (Device.start ⟨storage, none⟩ drives radio board digester :
      Device (Watched W) R D).settings = settings :=
    settings_start hload drives radio board digester
  obtain ⟨hreached, -⟩ := start_reached (⟨storage, none⟩ : Watched W) drives radio board digester
  obtain ⟨hb, hm⟩ := mirrors_start (⟨storage, none⟩ : Watched W) drives radio board digester
  have hreadable := KeepsSettings.readable_used hr (Watched.used_inner hreached.used).1
  refine ⟨hreadable, hb, ⟨hm, rfl, rfl⟩, .inr ?_⟩
  rw [Watched.load_used hr hreached.used, hs]
  exact hload

/-- A device that starts again on what was saved is configured alike. -/
theorem Saved.restart {d : Device (Watched W) R D} (h : Saved d)
    (hload : SettingsStore.load d.rack.storage = .ok d.settings) :
    SameConfiguration d d.restart := by
  have hs := settings_start hload d.rack.drives d.radio d.board d.digester
  obtain ⟨-, hm⟩ := mirrors_start d.rack.storage d.rack.drives d.radio d.board d.digester
  refine h.mirrored.same ⟨hm, rfl, rfl⟩ hs fun device hd => ?_
  unfold Device.restart
  rw [rack_start]
  generalize (Device.start d.rack.storage d.rack.drives d.radio d.board d.digester :
    Device (Watched W) R D).settings = settings
  show DriveBay.isOn (applySwitches settings (Rack.fill settings _).drives) device = _
  rw [isOn_applySwitches hd, isOn_fill]

/-- What happens outside leaves the saved settings, the note on the last save and the bus devices
alone. Whether the next save fails may change, and so may the hosts, the card and the images. -/
structure LeavesSettings (f : Watched W → Watched W) (g : D → D) : Prop where
  readable : ∀ w, KeepsSettings.Readable w.inner → KeepsSettings.Readable (f w).inner
  load : ∀ w, SettingsStore.load (f w) = SettingsStore.load w
  lastSave : ∀ w, (f w).lastSave = w.lastSave
  isOn : ∀ b device, DriveBay.isOn (g b) device = DriveBay.isOn b device

omit [LawfulDrives D] in
theorem Saved.outside {d : Device (Watched W) R D} (h : Saved d) {f : Watched W → Watched W}
    {g : D → D} (hl : LeavesSettings f g) (k : Radio → Radio) :
    Saved (d.move (.outside f g k)) where
  readable := hl.readable _ h.readable
  bounded := h.bounded
  mirrored := by
    have hm := h.mirrored.slots
    exact ⟨⟨hm.hostname, hm.kind, hm.medium, hm.switches.of_isOn (hl.isOn _)⟩,
      h.mirrored.bootConfig, h.mirrored.bootDevice⟩
  kept := by
    rcases h.kept with ⟨e, hf⟩ | hk
    · exact .inl ⟨e, (hl.lastSave _).trans hf⟩
    · exact .inr ((hl.load _).trans hk)

/-- **Saved configuration survives a restart.** Along every run of a device that started from
settings that could be loaded, unless the last attempt to save failed, the settings in memory are
those that are kept, and a device that starts again on the same storage, drives and machine is
configured alike. -/
theorem saved_configuration_survives_restart {storage : W} (hr : KeepsSettings.Readable storage)
    {settings : Settings} (hload : SettingsStore.load storage = .ok settings) (drives : D)
    (radio : Radio) (board : Board) (digester : Digester) {moves : List (Move (Watched W) D)}
    (hout : ∀ f g k, Move.outside f g k ∈ moves → LeavesSettings f g)
    {d : Device (Watched W) R D}
    (hd : d = (Device.start ⟨storage, none⟩ drives radio board digester).run moves)
    (hsaved : ¬d.rack.storage.LastSaveFailed) :
    SettingsStore.load d.rack.storage = .ok d.settings ∧ SameConfiguration d d.restart := by
  have h : Saved d := by
    rw [hd]
    refine upheld_saved.run (fun h _ _ _ => ?_) (fun h hl => h.listings hl)
      (fun f g k hm d h => h.outside (hout f g k hm) k)
      (saved_start hr hload drives radio board digester)
    exact ⟨h.readable, h.bounded,
      ⟨h.mirrored.slots, h.mirrored.bootConfig, h.mirrored.bootDevice⟩, h.kept⟩
  have hk := h.kept.resolve_left hsaved
  exact ⟨hk, h.restart hk⟩

/-- A host is named while settings cannot be saved; later the boot device is chosen, and saved. -/
theorem saved_configuration_survives_failed_save :
    let failing (fails : Bool) (w : Watched Memory.Storage) : Watched Memory.Storage :=
      { w with inner := { w.inner with faults := { w.inner.faults with save := fails } } }
    let moves : List (Move (Watched Memory.Storage) Memory.Drives) :=
      [.outside (failing true) id id, .call (.nameHost 3 "tnfs"), .outside (failing false) id id,
        .call (.setBootDevice 9)]
    let d : Device (Watched Memory.Storage) String Memory.Drives :=
      (Device.start ⟨{}, none⟩ {} {} { version := "dummy-0.1.0" } DigestAlgorithm.digest).run moves
    (∀ f g k, Move.outside f g k ∈ moves → LeavesSettings f g) ∧ ¬d.rack.storage.LastSaveFailed ∧
      SettingsStore.load d.rack.storage = .ok d.settings ∧ SameConfiguration d d.restart := by
  intro failing moves d
  have hfailing : ∀ fails, LeavesSettings (failing fails) (id : Memory.Drives → Memory.Drives) :=
    fun _ => ⟨fun _ h => h, fun _ => rfl, fun _ => rfl, fun _ _ => rfl⟩
  have hout : ∀ f g k, Move.outside f g k ∈ moves → LeavesSettings f g := by
    intro f g k hm
    simp only [moves, List.mem_cons, reduceCtorEq, Move.outside.injEq, List.not_mem_nil, or_false,
      false_or] at hm
    rcases hm with ⟨rfl, rfl, -⟩ | ⟨rfl, rfl, -⟩ <;> exact hfailing _
  have hsaved : ¬d.rack.storage.LastSaveFailed := by
    have hlast : d.rack.storage.lastSave = some (.ok ()) := rfl
    rintro ⟨e, he⟩
    rw [hlast] at he
    cases he
  have hd : d = (Device.start ⟨{}, none⟩ {} {} { version := "dummy-0.1.0" }
    DigestAlgorithm.digest).run moves := rfl
  clear_value d
  exact ⟨hout, hsaved, saved_configuration_survives_restart (d := d) rfl rfl _ _ _ _ hout hd hsaved⟩

end Run

end StorageAdapter
