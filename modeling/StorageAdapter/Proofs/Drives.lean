import StorageAdapter.Memory.Drives
import StorageAdapter.Memory.Adapter
import StorageAdapter.Proofs.Run

/-! # Drives and disk slots

What is in the drives and what the disk slots say is kept in two tables. `LawfulDrives` is what the
adapter relies on of a bank of drives; both banks of the development are lawful. On any lawful bank
the two tables agree at all times (`drives_match_disk_slots`): an image is put into a drive when its
slot is mounted, and taken out by everything that makes the slot forget it. -/

namespace StorageAdapter

open StorageAdapter.Action StorageAdapter.Device

/-! ### Lawful drives -/

/-- Units and switches behave as tables, whatever media type the bank settles on. -/
class LawfulDrives (D : Type) [DriveBay D] : Prop where
  image?_insert_self (unit : UInt8) (image : InsertedImage) (drives : D) :
    DriveBay.image? (DriveBay.insert unit image drives).2 unit =
      some { image with media := (DriveBay.insert unit image drives).1 }
  image?_insert_of_ne {u unit : UInt8} (h : u ≠ unit) (image : InsertedImage) (drives : D) :
    DriveBay.image? (DriveBay.insert unit image drives).2 u = DriveBay.image? drives u
  image?_eject_self (unit : UInt8) (drives : D) :
    DriveBay.image? (DriveBay.eject unit drives) unit = none
  image?_eject_of_ne {u unit : UInt8} (h : u ≠ unit) (drives : D) :
    DriveBay.image? (DriveBay.eject unit drives) u = DriveBay.image? drives u
  image?_switch (device : UInt8) (active : Bool) (drives : D) (u : UInt8) :
    DriveBay.image? (DriveBay.switch device active drives).2 u = DriveBay.image? drives u
  isOn_insert (unit : UInt8) (image : InsertedImage) (drives : D) (device : UInt8) :
    DriveBay.isOn (DriveBay.insert unit image drives).2 device = DriveBay.isOn drives device
  isOn_eject (unit : UInt8) (drives : D) (device : UInt8) :
    DriveBay.isOn (DriveBay.eject unit drives) device = DriveBay.isOn drives device
  known_switch (device : UInt8) (active : Bool) (drives : D) :
    (DriveBay.switch device active drives).1 = isDriveDevice device
  isOn_switch_self {device : UInt8} (h : isDriveDevice device) (active : Bool) (drives : D) :
    DriveBay.isOn (DriveBay.switch device active drives).2 device = active
  isOn_switch_of_ne {d device : UInt8} (h : d ≠ device) (active : Bool) (drives : D) :
    DriveBay.isOn (DriveBay.switch device active drives).2 d = DriveBay.isOn drives d

theorem Memory.Drives.update_self {α : Type} (table : UInt8 → α) (key : UInt8) (value : α) :
    update table key value key = value := if_pos rfl

theorem Memory.Drives.update_of_ne {α : Type} (table : UInt8 → α) {key k : UInt8} (h : k ≠ key)
    (value : α) : update table key value k = table k := if_neg h

theorem Memory.Drives.switch_fst (device : UInt8) (active : Bool) (drives : Drives) :
    (switch device active drives).1 = isDriveDevice device := by
  unfold switch
  split
  · next h => exact h.symm
  · next h => exact (Bool.not_eq_true _ ▸ h).symm

instance : LawfulDrives Memory.Drives where
  image?_insert_self _ _ _ := Memory.Drives.update_self _ _ _
  image?_insert_of_ne h _ _ := Memory.Drives.update_of_ne _ h _
  image?_eject_self _ _ := Memory.Drives.update_self _ _ _
  image?_eject_of_ne h _ := Memory.Drives.update_of_ne _ h _
  image?_switch device active drives u := by
    show (Memory.Drives.switch device active drives).2.inserted u = drives.inserted u
    unfold Memory.Drives.switch
    split <;> rfl
  isOn_insert _ _ _ _ := rfl
  isOn_eject _ _ _ := rfl
  known_switch := Memory.Drives.switch_fst
  isOn_switch_self h active drives := by
    show (Memory.Drives.switch _ active drives).2.active _ = active
    unfold Memory.Drives.switch
    rw [if_pos h]
    exact Memory.Drives.update_self _ _ _
  isOn_switch_of_ne {d device} h active drives := by
    show (Memory.Drives.switch device active drives).2.active d = drives.active d
    unfold Memory.Drives.switch
    split
    · exact Memory.Drives.update_of_ne _ h _
    · rfl

theorem TrackedDrives.switch_fst (device : UInt8) (active : Bool) (drives : TrackedDrives) :
    (switch device active drives).1 = isDriveDevice device := by
  unfold switch
  split
  · next h => exact h.symm
  · next h => exact (Bool.not_eq_true _ ▸ h).symm

instance : LawfulDrives TrackedDrives where
  image?_insert_self unit image drives := drives.units.get?_put_self unit image
  image?_insert_of_ne h image drives := drives.units.get?_put_of_ne h image
  image?_eject_self unit drives := drives.units.get?_erase_self unit
  image?_eject_of_ne h drives := drives.units.get?_erase_of_ne h
  image?_switch device active drives u := by
    show (TrackedDrives.switch device active drives).2.units.get? u = drives.units.get? u
    unfold TrackedDrives.switch
    split <;> rfl
  isOn_insert _ _ _ _ := rfl
  isOn_eject _ _ _ := rfl
  known_switch := TrackedDrives.switch_fst
  isOn_switch_self {device} h active drives := by
    show (!(TrackedDrives.switch device active drives).2.disabled.contains device) = active
    unfold TrackedDrives.switch
    rw [if_pos h]
    cases active <;> simp
  isOn_switch_of_ne {d device} h active drives := by
    show (!(TrackedDrives.switch device active drives).2.disabled.contains d) =
      !drives.disabled.contains d
    unfold TrackedDrives.switch
    split
    · cases active <;> simp [h]
    · rfl

/-! ### Units in step with slots -/

/-- The image that a disk slot says is in its drive. -/
def DiskSlot.inserted (d : DiskSlot) : Option InsertedImage :=
  d.image.map fun image => ⟨d.filename, image.size, image.media⟩

section InStep

variable {D : Type} [DriveBay D]

/-- **The drives hold what the disk slots say**, and nothing beyond them. -/
structure InStep (drives : D) (disks : Slots DiskSlot) : Prop where
  unit : ∀ i, DriveBay.image? drives (Rack.unit i) = (disks.get i).inserted
  beyond : ∀ u, 8 ≤ u → DriveBay.image? drives u = none

theorem unit_ne {i j : Fin 8} (h : j ≠ i) : Rack.unit j ≠ Rack.unit i := mt Rack.unit_inj h

theorem ne_unit {u : UInt8} (h : 8 ≤ u) (i : Fin 8) : u ≠ Rack.unit i := by
  rintro rfl
  have h := UInt8.le_iff_toNat_le.1 h
  rw [Rack.toNat_unit] at h
  have : (8 : UInt8).toNat = 8 := rfl
  omega

theorem inStep_empty {drives : D} (h : ∀ u, DriveBay.image? drives u = none) :
    InStep drives (Vector.replicate 8 {}) where
  unit i := by
    rw [h, Slots.get_replicate]
    rfl
  beyond u _ := h u

/-- A unit and its slot are changed together. -/
theorem InStep.update {drives drives' : D} {disks : Slots DiskSlot} (h : InStep drives disks)
    {i : Fin 8} {d : DiskSlot} (hself : DriveBay.image? drives' (Rack.unit i) = d.inserted)
    (hother : ∀ u, u ≠ Rack.unit i → DriveBay.image? drives' u = DriveBay.image? drives u) :
    InStep drives' (disks.set i d) where
  unit j := by
    by_cases hj : j = i
    · subst hj
      rw [hself, Slots.get_set_self]
    · rw [hother _ (unit_ne hj), h.unit, Slots.get_set_of_ne _ hj]
  beyond u hu := by rw [hother u (ne_unit hu i), h.beyond u hu]

theorem InStep.of_images {drives drives' : D} {disks : Slots DiskSlot} (h : InStep drives disks)
    (he : ∀ u, DriveBay.image? drives' u = DriveBay.image? drives u) : InStep drives' disks where
  unit i := by rw [he, h.unit]
  beyond u hu := by rw [he, h.beyond u hu]

variable [LawfulDrives D] {W R : Type}

theorem InStep.load {r : Rack W R D} (h : InStep r.drives r.disks) (i : Fin 8) (mode : AccessMode)
    (size : Nat) : InStep (r.loaded i mode size).drives (r.loaded i mode size).disks :=
  h.update (LawfulDrives.image?_insert_self _ _ _)
    fun _ hu => LawfulDrives.image?_insert_of_ne hu _ _

theorem InStep.eject {r : Rack W R D} (h : InStep r.drives r.disks) (i : Fin 8) {d : DiskSlot}
    (hd : d.image = none) : InStep (r.eject i).drives (r.disks.set i d) := by
  refine h.update ?_ fun u hu => LawfulDrives.image?_eject_of_ne hu _
  unfold DiskSlot.inserted
  rw [hd]
  exact LawfulDrives.image?_eject_self _ _

/-- Assigning a slot that is not mounted leaves the drives alone: there is nothing to take out. -/
theorem InStep.assign {r : Rack W R D} (h : InStep r.drives r.disks) (i : Fin 8) {d : DiskSlot}
    (hd : d.image = none) : InStep (r.assign i d).drives (r.assign i d).disks := by
  unfold Rack.assign
  by_cases hm : (r.disks.get i).isMounted
  · rw [if_pos hm]
    exact h.eject i hd
  · rw [if_neg hm]
    refine h.update ?_ fun _ _ => rfl
    have hm : (r.disks.get i).image = none := by simpa [DiskSlot.isMounted] using hm
    have hu := h.unit i
    unfold DiskSlot.inserted at hu ⊢
    rw [hm] at hu
    rw [hd]
    exact hu

variable [HostStorage W R]

theorem InStep.fill {r : Rack W R D} (h : InStep r.drives r.disks) (settings : Settings) :
    InStep (r.fill settings).drives (r.fill settings).disks :=
  Rack.drives_fill (P := InStep) (fun _ i _ hr => hr.assign i rfl) settings h

end InStep

/-! ### All runs -/

section Run

variable {W R D : Type} [HostStorage W R] [SettingsStore W] [KeyStorage W] [DriveBay D]
  [LawfulDrives D]

/-- The drives of the device are in step with its disk slots. -/
def Device.InStep (d : Device W R D) : Prop := StorageAdapter.InStep d.rack.drives d.rack.disks

omit [HostStorage W R] [SettingsStore W] [KeyStorage W] in
theorem images_switchDevice (active : Bool) (d : Device W R D) (device u : UInt8) :
    DriveBay.image? (switchDevice active d device).rack.drives u =
      DriveBay.image? d.rack.drives u := LawfulDrives.image?_switch device active _ u

theorem images_applySwitches (settings : Settings) (drives : D) (u : UInt8) :
    DriveBay.image? (applySwitches settings drives) u = DriveBay.image? drives u := by
  unfold applySwitches
  refine List.foldlRecOn (List.finRange 8) _
    (motive := fun b : D => DriveBay.image? b u = DriveBay.image? drives u) rfl ?_
  intro b hb i _
  rw [LawfulDrives.image?_switch, hb]

theorem upheld_inStep : Upheld (Device.InStep : Device W R D → Prop) Device.InStep where
  weaken h := h
  before := ⟨fun h _ => h, fun h _ _ _ => h⟩
  during := ⟨fun h _ => h, fun h _ _ _ => h⟩
  aside h _ _ := h
  digest h _ := h
  key h _ _ := h
  fill {d} h := h.fill d.settings
  unmount h _ := h
  close {d} h := by
    have hc := (Rack.SameButListings.refl d.rack).closeDirectory
    unfold Device.InStep
    rw [rack_setRack, hc.drives, hc.disks]
    exact h
  follow _ := ⟨fun h _ => h, fun h _ _ _ _ => h, fun h _ => h⟩
  rename {d} h i name := by
    obtain ⟨w, cursor, -, hr⟩ := renameHost_eq i name d.rack
    rw [hr]
    exact h
  load {_ i} h _ mode size := h.load i mode size
  empty h i := h.eject i rfl
  assign h i _ _ _ := h.assign i rfl
  wifi h _ := h
  boot h _ _ := h
  switch {d} h active device := h.of_images (images_switchDevice active d device)
  save h := by
    rw [after_save]
    exact h

omit [KeyStorage W] in
theorem inStep_start {storage : W} {drives : D} (hempty : ∀ u, DriveBay.image? drives u = none)
    (radio : Radio) (board : Board) (digester : Digester) :
    (Device.start storage drives radio board digester : Device W R D).InStep := by
  unfold Device.InStep
  rw [rack_start]
  generalize (Device.start storage drives radio board digester : Device W R D).settings = settings
  have h := InStep.fill (r := ({ storage, drives } : Rack W R D)) (inStep_empty hempty) settings
  generalize Rack.fill settings ({ storage, drives } : Rack W R D) = r at h ⊢
  exact h.of_images (images_applySwitches settings r.drives)

/-- **Drives and disk slots agree**: a unit holds an image if and only if its slot is mounted, and
then it is the image of the slot; a slot that is not mounted has no size and no media type; and
there is nothing in the units beyond. -/
def Rack.DrivesMatch (r : Rack W R D) : Prop :=
  (∀ i : Fin 8,
    ((DriveBay.image? r.drives (unit i)).isSome ↔ (r.disks.get i).isMounted) ∧
    (∀ image ∈ DriveBay.image? r.drives (unit i), image.filename = (r.disks.get i).filename ∧
      image.size = (r.disks.get i).size ∧ image.media = (r.disks.get i).media) ∧
    (¬(r.disks.get i).isMounted → (r.disks.get i).size = 0 ∧ (r.disks.get i).media = .unknown)) ∧
  ∀ u : UInt8, 8 ≤ u → DriveBay.image? r.drives u = none

omit [HostStorage W R] [SettingsStore W] [KeyStorage W] [LawfulDrives D] in
theorem InStep.drivesMatch {r : Rack W R D} (h : InStep r.drives r.disks) : r.DrivesMatch := by
  refine ⟨fun i => ?_, h.beyond⟩
  rw [h.unit i]
  unfold DiskSlot.inserted DiskSlot.isMounted DiskSlot.size DiskSlot.media
  rcases (r.disks.get i).image with _ | image <;> simp

/-- In every state of every run of a device that starts on an empty bank, the drives match the disk
slots, whatever the settings, the hosts and the storage do and whatever fails. The bank may change
from outside as long as the images in it stay. -/
theorem drives_match_disk_slots (storage : W) {drives : D} (radio : Radio) (board : Board)
    (digester : Digester) (hempty : ∀ u, DriveBay.image? drives u = none)
    {moves : List (Move W D)} (hout : ∀ f g h, Move.outside f g h ∈ moves →
      ∀ b u, DriveBay.image? (g b) u = DriveBay.image? b u) :
    ((Device.start storage drives radio board digester).run moves :
      Device W R D).rack.DrivesMatch := by
  refine InStep.drivesMatch (upheld_inStep.run (fun h _ _ _ => h) (fun {d r} h hl => ?_)
    (fun f g k hm d h => ?_) (inStep_start hempty radio board digester))
  · unfold Device.InStep
    rw [rack_setRack, hl.drives, hl.disks]
    exact h
  · exact InStep.of_images h (hout f g k hm _)

/-- A disk is mounted, the bank settles on another media type from then on, and the disk is mounted
once more. -/
theorem drives_match_mounted_twice :
    let storage : Memory.Storage := { hosts := ({} : Memory.Hosts).withFile "h" "/g.d64" 174848 0 }
    let moves : List (Move Memory.Storage Memory.Drives) :=
      [.call (.nameHost 0 "h"), .call (.setFilename 0 0 .read "/g.d64"),
        .call (.mountImage 0 .read), .outside id (fun b => { b with settlesOn := some .d71 }) id,
        .call (.mountImage 0 .read)]
    (∀ u, DriveBay.image? ({} : Memory.Drives) u = none) ∧
      (∀ f g h, Move.outside f g h ∈ moves →
        ∀ b u, DriveBay.image? (g b) u = DriveBay.image? b u) ∧
      ((Memory.Surroundings.start { storage }).run moves).rack.DrivesMatch := by
  intro storage moves
  have hempty : ∀ u, DriveBay.image? ({} : Memory.Drives) u = none := fun _ => rfl
  have hout : ∀ f g h, Move.outside f g h ∈ moves →
      ∀ b u, DriveBay.image? (g b) u = DriveBay.image? b u := by
    intro f g h hm
    simp only [moves, List.mem_cons, reduceCtorEq, Move.outside.injEq, List.not_mem_nil, or_false,
      false_or] at hm
    obtain ⟨-, rfl, -⟩ := hm
    exact fun _ _ => rfl
  exact ⟨hempty, hout, drives_match_disk_slots storage _ _ _ hempty hout⟩

end Run

end StorageAdapter
