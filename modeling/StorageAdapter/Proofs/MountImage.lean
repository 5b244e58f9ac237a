import StorageAdapter.Proofs.Drives

/-! # Mounting one image

An image is mounted in steps, and each of them can fail: the slot number is checked, the host and
the filename of the slot are looked up, the host is mounted, the image is opened there. Only then is
it put into the drive and entered in the slot. `Connecting` and `Mounting` list all that can come of
it, so that what follows reads the cases off instead of opening the actions. The disk slots and the
drives change at the last step alone (`mounting_touches_one_slot`). -/

namespace StorageAdapter

open StorageAdapter.Action

namespace Rack

variable {W R D : Type} [HostStorage W R]

/-! ### All that can come of it -/

/-- **What comes of mounting a host.** -/
inductive Connecting (i : Fin 8) (r : Rack W R D) : EStateM.Result Error (Rack W R D) Unit → Prop
  | mounted (hm : (r.hosts.get i).isMounted) : Connecting i r (.ok () r)
  | unused (hm : (r.hosts.get i).mount = none) (hk : (r.hosts.get i).kind = .unused) :
    Connecting i r (.error .noHostConfigured r)
  | refused (hm : (r.hosts.get i).mount = none) (hk : (r.hosts.get i).kind ≠ .unused) {e : Error}
    {w : W} (hc : HostStorage.connect (r.hosts.get i).hostname (r.hosts.get i).kind r.storage =
      .error e w) : Connecting i r (.error e (r.setStorage w))
  | connected (hm : (r.hosts.get i).mount = none) (hk : (r.hosts.get i).kind ≠ .unused) {root : R}
    {w : W} (hc : HostStorage.connect (r.hosts.get i).hostname (r.hosts.get i).kind r.storage =
      .ok root w) : Connecting i r
        (.ok () ((r.setStorage w).setHost i { r.hosts.get i with mount := some { root } }))

theorem connecting (i : Fin 8) (r : Rack W R D) : Connecting i r (connect i r) := by
  by_cases hm : (r.hosts.get i).isMounted
  · have h : connect i r = .ok () r := by
      unfold connect
      rw [bind_apply, get_apply]
      exact congrFun (if_pos hm) r
    exact h ▸ .mounted hm
  have hn : (r.hosts.get i).mount = none := by simpa [HostSlot.isMounted] using hm
  by_cases hk : (r.hosts.get i).kind = .unused
  · have h : connect i r = .error .noHostConfigured r := by
      unfold connect
      rw [bind_apply, get_apply]
      simp only
      rw [if_neg hm, if_pos hk]
      rfl
    exact h ▸ .unused hn hk
  rcases hc : HostStorage.connect (r.hosts.get i).hostname (r.hosts.get i).kind r.storage with
    ⟨root, w⟩ | ⟨e, w⟩
  · exact connect_ok hn hk hc ▸ .connected hn hk hc
  · have h : connect i r = .error e (r.setStorage w) := by
      unfold connect onStorage
      rw [bind_apply, get_apply]
      simp only
      rw [if_neg hm, if_neg hk, bind_apply]
      unfold Action.on
      rw [hc]
      rfl
    exact h ▸ .refused hn hk hc

/-- A host that was mounted, or that could be, is mounted then. -/
theorem Connecting.exists_mounted {i : Fin 8} {r s : Rack W R D}
    (h : Connecting i r (.ok () s)) : ∃ mounted, (s.hosts.get i).mount = some mounted := by
  cases h with
  | mounted hm => exact Option.isSome_iff_exists.1 hm
  | connected hm hk hc => exact ⟨_, congrArg HostSlot.mount (Slots.get_set_self _ _ _)⟩

/-- **At most one host was mounted**: the host slots are as before, or `host` is one that was not
mounted and is now. -/
def MountsAtMost (host : Option (Fin 8)) (before after : Slots (HostSlot R)) : Prop :=
  after = before ∨ ∃ i root, host = some i ∧ (before.get i).mount = none ∧
    after = before.set i { before.get i with mount := some { root } }

/-- Mounting a host changes the storage and the slot of the host, at most. -/
structure Beside (host : Option (Fin 8)) (r s : Rack W R D) : Prop where
  disks : s.disks = r.disks
  drives : s.drives = r.drives
  cursor : s.cursor = r.cursor
  hosts : MountsAtMost host r.hosts s.hosts

omit [HostStorage W R] in
theorem Beside.refl (host : Option (Fin 8)) (r : Rack W R D) : Beside host r r :=
  ⟨rfl, rfl, rfl, .inl rfl⟩

omit [HostStorage W R] in
theorem Beside.setStorage {host : Option (Fin 8)} {r s : Rack W R D} (h : Beside host r s) (w : W) :
    Beside host r (s.setStorage w) := ⟨h.disks, h.drives, h.cursor, h.hosts⟩

theorem Connecting.beside {i : Fin 8} {r : Rack W R D}
    {result : EStateM.Result Error (Rack W R D) Unit} (h : Connecting i r result) :
    Beside (some i) r (match result with | .ok _ s => s | .error _ s => s) := by
  cases h with
  | mounted | unused => exact .refl _ r
  | refused _ _ _ => exact (Beside.refl _ r).setStorage _
  | @connected hm _ root _ _ => exact ⟨rfl, rfl, rfl, .inr ⟨i, root, rfl, hm, rfl⟩⟩

theorem beside_of_connect_ok {i : Fin 8} {r s : Rack W R D} (h : connect i r = .ok () s) :
    Beside (some i) r s := (h ▸ connecting i r : Connecting i r (.ok () s)).beside

theorem beside_of_connect_error {i : Fin 8} {r s : Rack W R D} {e : Error}
    (h : connect i r = .error e s) : Beside (some i) r s :=
  (h ▸ connecting i r : Connecting i r (.error e s)).beside

omit [HostStorage W R] in
theorem onStorage_error {α : Type} {act : Action W α} {r : Rack W R D} {e : Error} {w : W}
    (h : act r.storage = .error e w) : onStorage act r = .error e (r.setStorage w) := by
  unfold onStorage Action.on
  rw [h]
  rfl

variable [DriveBay D]

/-- **The image of a disk slot can be opened**: the slot names a file on a host, that host is
mounted or can be, and opens the file. What it takes of the storage is left in `w`. -/
structure Opens (slot : UInt8) (mode : AccessMode) (r : Rack W R D) (i : Fin 8) (s : Rack W R D)
    (size : Nat) (w : W) (host : Fin 8) (mounted : Mounted R) : Prop where
  inRange : diskIndex slot = .ok i
  onHost : (r.disks.get i).hostSlot = some host
  named : (r.disks.get i).filename ≠ ""
  connected : connect host r = .ok () s
  reached : (s.hosts.get host).mount = some mounted
  opened : HostStorage.openImage mounted.root (r.disks.get i).filename mode s.storage = .ok size w

/-- **What comes of mounting an image.** -/
inductive Mounting (slot : UInt8) (mode : AccessMode) (r : Rack W R D) :
    EStateM.Result Error (Rack W R D) MediaType → Prop
  | outOfRange {e : Error} (hi : diskIndex slot = .error e) : Mounting slot mode r (.error e r)
  | noHost {i : Fin 8} (hi : diskIndex slot = .ok i) (hh : (r.disks.get i).hostSlot = none) :
    Mounting slot mode r (.error .noHostForSlot r)
  | noFilename {i host : Fin 8} (hi : diskIndex slot = .ok i)
    (hh : (r.disks.get i).hostSlot = some host) (hf : (r.disks.get i).filename = "") :
    Mounting slot mode r (.error .noFilenameForSlot r)
  | notConnected {i host : Fin 8} (hi : diskIndex slot = .ok i)
    (hh : (r.disks.get i).hostSlot = some host) {e : Error} {s : Rack W R D}
    (hc : connect host r = .error e s) : Mounting slot mode r (.error e s)
  | notOpened {i host : Fin 8} (hi : diskIndex slot = .ok i)
    (hh : (r.disks.get i).hostSlot = some host) {s : Rack W R D} {mounted : Mounted R}
    (hc : connect host r = .ok () s) (hm : (s.hosts.get host).mount = some mounted) {e : Error}
    {w : W} (ho : HostStorage.openImage mounted.root (r.disks.get i).filename mode s.storage =
      .error e w) : Mounting slot mode r (.error e (s.setStorage w))
  | opened {i host : Fin 8} {s : Rack W R D} {mounted : Mounted R} {size : Nat} {w : W}
    (h : Opens slot mode r i s size w host mounted) : Mounting slot mode r
      (.ok (DriveBay.insert (unit i) ⟨(r.disks.get i).filename, size,
        MediaType.ofFilename (r.disks.get i).filename⟩ r.drives).1
        ((s.setStorage w).loaded i mode size))

theorem mounting (slot : UInt8) (mode : AccessMode) (r : Rack W R D) :
    Mounting slot mode r (mountImage slot mode r) := by
  unfold mountImage
  rcases hi : diskIndex slot with e | i
  · exact .outOfRange hi
  rw [lift_ok_bind, bind_apply, get_apply]
  simp only
  rcases hh : (r.disks.get i).hostSlot with _ | host
  · exact .noHost hi hh
  simp only
  by_cases hf : (r.disks.get i).filename = ""
  · rw [if_pos hf]
    exact .noFilename hi hh hf
  rw [if_neg hf, bind_apply]
  rcases hc : connect host r with ⟨_, s⟩ | ⟨e, s⟩
  swap
  · exact .notConnected hi hh hc
  have hs := beside_of_connect_ok hc
  obtain ⟨mounted, hm⟩ := (hc ▸ connecting host r : Connecting host r (.ok () s)).exists_mounted
  simp only
  rw [bind_apply, get_apply]
  simp only [hm]
  rcases ho : HostStorage.openImage mounted.root (r.disks.get i).filename mode s.storage with
    ⟨size, w⟩ | ⟨e, w⟩
  · have h := Mounting.opened ⟨hi, hh, hf, hc, hm, ho⟩
    rw [← hs.drives] at h
    rw [bind_apply, onStorage_ok ho, ← hh]
    rw [← hs.disks] at h ⊢
    exact h
  · rw [bind_apply, onStorage_error ho]
    exact .notOpened hi hh hc hm ho

/-! ### What is left alone -/

section Ends

variable {slot : UInt8} {mode : AccessMode} {r s : Rack W R D}

/-- The host that a slot names, if there is such a slot and it names one. -/
def hostOf (slot : UInt8) (r : Rack W R D) : Option (Fin 8) :=
  (diskIndex slot).toOption.bind fun i => (r.disks.get i).hostSlot

omit [HostStorage W R] [DriveBay D] in
theorem hostOf_eq {i host : Fin 8} (hi : diskIndex slot = .ok i)
    (hh : (r.disks.get i).hostSlot = some host) : hostOf slot r = some host := by
  unfold hostOf
  rw [hi]
  exact hh

theorem Mounting.beside {e : Error} (h : Mounting slot mode r (.error e s)) :
    Beside (hostOf slot r) r s := by
  cases h with
  | outOfRange | noHost | noFilename => exact .refl _ r
  | notConnected hi hh hc => exact hostOf_eq hi hh ▸ beside_of_connect_error hc
  | notOpened hi hh hc _ _ => exact hostOf_eq hi hh ▸ (beside_of_connect_ok hc).setStorage _

theorem Mounting.not_opens {e : Error} (h : Mounting slot mode r (.error e s)) {i : Fin 8}
    {c : Rack W R D} {size : Nat} {w : W} {host : Fin 8} {mounted : Mounted R} :
    ¬Opens slot mode r i c size w host mounted := by
  rintro ⟨hi', hh', hf', hc', hm', ho'⟩
  cases h with
  | outOfRange hi => cases hi.symm.trans hi'
  | noHost hi hh =>
    cases hi.symm.trans hi'
    cases hh.symm.trans hh'
  | noFilename hi _ hf =>
    cases hi.symm.trans hi'
    exact hf' hf
  | notConnected hi hh hc =>
    cases hi.symm.trans hi'
    cases hh.symm.trans hh'
    cases hc.symm.trans hc'
  | notOpened hi hh hc hm ho =>
    cases hi.symm.trans hi'
    cases hh.symm.trans hh'
    cases hc.symm.trans hc'
    cases hm.symm.trans hm'
    cases ho.symm.trans ho'

/-- **One image was mounted**, with a size and a media type: its slot says so, it is in the unit of
the slot, and its host is mounted, which is all that may have happened to the hosts. -/
structure Mounts (i host : Fin 8) (mode : AccessMode) (image : MountedImage) (r s : Rack W R D) :
    Prop where
  disks : s.disks = r.disks.set i { r.disks.get i with mode, image := some image }
  drives : DriveBay.insert (unit i) ⟨(r.disks.get i).filename, image.size,
    MediaType.ofFilename (r.disks.get i).filename⟩ r.drives = (image.media, s.drives)
  cursor : s.cursor = r.cursor
  hosts : MountsAtMost (some host) r.hosts s.hosts
  onHost : (r.disks.get i).hostSlot = some host
  isMounted : (s.hosts.get host).isMounted

theorem Mounting.mounts {media : MediaType} (h : Mounting slot mode r (.ok media s)) :
    ∃ i c size host mounted, Opens slot mode r i c size s.storage host mounted ∧
      Mounts i host mode ⟨size, media⟩ r s := by
  cases h with
  | @opened i host c mounted size w h =>
    have hc := beside_of_connect_ok h.connected
    refine ⟨i, c, size, host, mounted, h, ?_, ?_, hc.cursor, hc.hosts, h.onHost,
      Option.isSome_of_eq_some h.reached⟩
    · show c.disks.set i { c.disks.get i with mode, image := _ } = _
      unfold setStorage
      simp only [hc.disks, hc.drives]
    · show _ = (_, (DriveBay.insert (unit i) ⟨(c.disks.get i).filename, size,
        MediaType.ofFilename (c.disks.get i).filename⟩ c.drives).2)
      rw [hc.disks, hc.drives]

section Units

variable [LawfulDrives D] {i host : Fin 8} {image : MountedImage} (h : Mounts i host mode image r s)
include h

omit [HostStorage W R] in
theorem Mounts.unit_self : DriveBay.image? s.drives (unit i) =
    some ⟨(r.disks.get i).filename, image.size, image.media⟩ := by
  have hself := LawfulDrives.image?_insert_self (unit i) ⟨(r.disks.get i).filename, image.size,
    MediaType.ofFilename (r.disks.get i).filename⟩ r.drives
  rwa [h.drives] at hself

omit [HostStorage W R] in
theorem Mounts.unit_of_ne {u : UInt8} (hu : u ≠ unit i) :
    DriveBay.image? s.drives u = DriveBay.image? r.drives u := by
  have hne := LawfulDrives.image?_insert_of_ne hu ⟨(r.disks.get i).filename, image.size,
    MediaType.ofFilename (r.disks.get i).filename⟩ r.drives
  rwa [h.drives] at hne

omit [HostStorage W R] in
theorem Mounts.isOn (device : UInt8) :
    DriveBay.isOn s.drives device = DriveBay.isOn r.drives device := by
  have hon := LawfulDrives.isOn_insert (unit i) ⟨(r.disks.get i).filename, image.size,
    MediaType.ofFilename (r.disks.get i).filename⟩ r.drives device
  rwa [h.drives] at hon

end Units

end Ends

/-- **Mounting an image touches one slot.** If it fails, the image cannot be opened; the disk slots,
with an image that is open in the slot, the drives and the cursor are as they were, and at most the
host of the slot was mounted. If it succeeds, the slot has the mode that was asked for, the size of
the file that was opened and the media type that the drives settled on, and the image is in its
unit; no other disk slot, unit or switch has changed, and at most the host of the slot was
mounted. -/
theorem mounting_touches_one_slot [LawfulDrives D] (slot : UInt8) (mode : AccessMode)
    (r : Rack W R D) :
    match mountImage slot mode r with
    | .error _ s =>
      (∀ i c size w host mounted, ¬Opens slot mode r i c size w host mounted) ∧
        Beside (hostOf slot r) r s
    | .ok media s =>
      ∃ i c size host mounted, Opens slot mode r i c size s.storage host mounted ∧
        Mounts i host mode ⟨size, media⟩ r s ∧
        DriveBay.image? s.drives (unit i) = some ⟨(r.disks.get i).filename, size, media⟩ ∧
        (∀ u, u ≠ unit i → DriveBay.image? s.drives u = DriveBay.image? r.drives u) ∧
        ∀ device, DriveBay.isOn s.drives device = DriveBay.isOn r.drives device := by
  have h := mounting slot mode r
  rcases hm : mountImage slot mode r with ⟨media, s⟩ | ⟨e, s⟩ <;> rw [hm] at h
  · obtain ⟨i, c, size, host, mounted, hopens, hm⟩ := h.mounts
    exact ⟨i, c, size, host, mounted, hopens, hm, hm.unit_self, fun _ hu => hm.unit_of_ne hu,
      hm.isOn⟩
  · exact ⟨fun _ _ _ _ _ _ => h.not_opens, h.beside⟩

/-- An image is mounted once more after its file went away: its host, which is no longer mounted, is
mounted again, and the image stays open in slot and unit as it was. -/
theorem mounting_touches_one_slot_file_gone :
    let image : MountedImage := ⟨174848, .d64⟩
    let r : Rack Memory.Storage String Memory.Drives :=
      { storage := { hosts := ({} : Memory.Hosts).withFile "h" "/other.d64" 174848 0 }
        drives := (DriveBay.insert 3 ⟨"/g.d64", 174848, .d64⟩ ({} : Memory.Drives)).2
        hosts := Slots.set (Vector.replicate 8 {}) 2 (.named "h")
        disks := Slots.set (Vector.replicate 8 {}) 3
          { filename := "/g.d64", hostSlot := some 2, image := some image } }
    let s := (mountImage 3 .readWrite).after r
    (mountImage 3 .readWrite).outcome r = .error .notOpened ∧ s.disks = r.disks ∧
      DriveBay.image? s.drives 3 = some ⟨"/g.d64", 174848, .d64⟩ ∧ (s.hosts.get 2).isMounted := by
  intro image r s
  have hout : (mountImage 3 .readWrite).outcome r = .error .notOpened := by decide +kernel
  have hmounted : (s.hosts.get 2).isMounted := by decide +kernel
  have h := mounting_touches_one_slot 3 .readWrite r
  rw [eq_error_of_outcome hout] at h
  exact ⟨hout, h.2.disks, congrArg (DriveBay.image? · 3) h.2.drives, hmounted⟩

end Rack

end StorageAdapter
