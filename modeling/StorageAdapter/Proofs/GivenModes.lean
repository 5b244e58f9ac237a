import Mathlib.Data.List.Induction
import StorageAdapter.Proofs.DiskBlock
import StorageAdapter.Proofs.Refill

/-! # The modes of disk slots

`Device.Gives` says of every disk slot in which mode its image is to be opened, as far as the slot
names one: the slot says so, and so do the settings that it may be filled from again. Only
operations that assign a slot give it another mode (`Operation.given`, `Device.Gives.perform`).
Along every run of a device that starts, each slot has the mode that it was given last
(`gives_start`, `Device.Gives.run`). -/

namespace StorageAdapter

open StorageAdapter.Action StorageAdapter.Device

/-! ### Slots that have a mode -/

namespace DiskSlot

variable {mode : AccessMode} {d : DiskSlot} {s : DiskSettings}

/-- If the slot names an image, it is to be opened in this mode. -/
def Gives (mode : AccessMode) (d : DiskSlot) : Prop := d.namesImage → d.mode = mode

theorem gives_empty (mode : AccessMode) : ({} : DiskSlot).Gives mode := nofun

theorem gives_assigned (filename : String) (host : Option (Fin 8)) (mode : AccessMode) :
    (assigned filename host mode).Gives mode := fun _ => rfl

theorem Gives.filled (h : d.Gives mode) (hs : (ofSettings s).Gives mode) :
    (d.filled s).Gives mode := by
  by_cases ha : d.agrees s
  · rw [filled_of_agrees ha]
    exact h
  · rw [filled_of_not_agrees ha]
    exact hs

/-- What is kept of a slot has its mode. -/
theorem Gives.toSettings (h : d.Gives mode) : (ofSettings d.toSettings).Gives mode := by
  by_cases hn : d.namesImage
  · have hs : d.toSettings.mode = d.mode := by
      unfold DiskSlot.toSettings
      rw [if_pos hn]
    have hmode : (ofSettings d.toSettings).mode = mode := hs.trans (h hn)
    exact fun _ => hmode
  · have hs : d.toSettings = {} := if_neg hn
    rw [hs]
    exact gives_empty mode

end DiskSlot

namespace Rack

variable {W R D : Type} {g : Fin 8 → AccessMode} {r s : Rack W R D}

/-- Each disk slot that names an image is to be opened in its mode. -/
def Gives (g : Fin 8 → AccessMode) (r : Rack W R D) : Prop := ∀ i, (r.disks.get i).Gives (g i)

section Gives

variable (h : r.Gives g)
include h

theorem Gives.of_disks (hd : s.disks = r.disks) : s.Gives g := by
  intro i
  rw [hd]
  exact h i

theorem Gives.setDisk {i : Fin 8} {d : DiskSlot} (hd : d.Gives (g i)) :
    (r.setDisk i d).Gives g := by
  intro j
  show ((r.disks.set i d).get j).Gives (g j)
  rw [Slots.get_set]
  split
  · next hj =>
    rw [hj]
    exact hd
  · exact h j

/-- A slot may get another mode. -/
theorem Gives.update {i : Fin 8} {d : DiskSlot} {mode : AccessMode} (hd : d.Gives mode) :
    (r.setDisk i d).Gives (Function.update g i mode) := by
  intro j
  show ((r.disks.set i d).get j).Gives _
  rw [Slots.get_set]
  by_cases hj : j = i
  · rw [if_pos hj, hj, Function.update_self]
    exact hd
  · rw [if_neg hj, Function.update_of_ne hj]
    exact h j

variable [DriveBay D]

theorem Gives.assign (i : Fin 8) {d : DiskSlot} {mode : AccessMode} (hd : d.Gives mode) :
    (r.assign i d).Gives (Function.update g i mode) := by
  obtain ⟨drives, hr⟩ := assign_eq i d r
  have hset : (r.setDisk i d).Gives (Function.update g i mode) := h.update hd
  rw [hr]
  exact hset.of_disks rfl

/-- A slot whose image is loaded gets the mode that it was opened in. -/
theorem Gives.load (i : Fin 8) (mode : AccessMode) (size : Nat) :
    (r.loaded i mode size).Gives (Function.update g i mode) := by
  obtain ⟨image, hdisks⟩ : ∃ image, (r.loaded i mode size).disks =
      (r.setDisk i { r.disks.get i with mode, image := some image }).disks := ⟨_, rfl⟩
  have hset : (r.setDisk i { r.disks.get i with mode, image := some image }).Gives
      (Function.update g i mode) := h.update fun _ => rfl
  exact hset.of_disks hdisks

theorem Gives.fill [HostStorage W R] {settings : Settings}
    (hs : ∀ i, (DiskSlot.ofSettings (settings.mounts.get i)).Gives (g i)) :
    (r.fill settings).Gives g := by
  intro i
  rw [disks_fill]
  exact (h i).filled (hs i)

end Gives

end Rack

/-! ### Devices whose slots have modes -/

variable {W R D : Type} {g : Fin 8 → AccessMode} {d : Device W R D}

/-- Each disk slot that names an image is to be opened in its mode, now and when it was filled from
the settings. -/
structure Device.Gives (g : Fin 8 → AccessMode) (d : Device W R D) : Prop where
  rack : d.rack.Gives g
  settings : ∀ i, (DiskSlot.ofSettings (d.settings.mounts.get i)).Gives (g i)

variable [HostStorage W R] [SettingsStore W] [DriveBay D]

theorem hosted_gives :
    Hosted (Device.Gives g : Device W R D → Prop) fun d => d.rack.Gives g where
  weaken h := h.rack
  connect h i := ⟨h.rack.of_disks (Rack.disks_connect i _), h.settings⟩
  aside h _ _ := ⟨h.rack, h.settings⟩
  wifi h _ := h
  boot h _ _ := h
  switch h _ _ := h
  save {d} h := by
    rw [after_save]
    refine ⟨h, fun i => ?_⟩
    show (DiskSlot.ofSettings ((d.rack.writeInto d.settings).mounts.get i)).Gives (g i)
    rw [Rack.mounts_writeInto]
    exact (h i).toSettings
  disconnect {d} h i := by
    obtain ⟨w, -, hc⟩ := Rack.after_disconnect i (d.rack.leave i)
    rw [hc]
    exact ⟨h.rack.of_disks (d.rack.sameButListings_leave i).disks, h.settings⟩
  close {d} h :=
    ⟨h.rack.of_disks (Rack.SameButListings.refl d.rack).closeDirectory.disks, h.settings⟩
  follow d := ⟨fun h _ => ⟨h.rack, h.settings⟩, fun h _ _ _ _ => ⟨h.rack, h.settings⟩,
    fun h _ => ⟨h.rack, h.settings⟩⟩
  rename {d} h i name := by
    obtain ⟨w, cursor, -, hr⟩ := renameHost_eq i name d.rack
    rw [hr]
    exact h.of_disks rfl

omit [SettingsStore W] in
theorem Device.Gives.fill (h : d.Gives g) : (d.setRack (d.rack.fill d.settings)).Gives g :=
  ⟨h.rack.fill h.settings, h.settings⟩

/-! ### Assigning disk slots -/

/-- The byte stands for a host slot or for none. -/
def Device.isHostByte (b : UInt8) : Bool := (hostOfByte b).all (·.toNat < 8)

omit [HostStorage W R] [SettingsStore W] [DriveBay D] in
theorem isHostByte_iff {b : UInt8} : isHostByte b ↔
    ∃ host, (hostOfByte b).mapM Rack.hostIndex = (.ok host : Except Error (Option (Fin 8))) := by
  unfold isHostByte
  rcases hostOfByte b with _ | slot
  · exact ⟨fun _ => ⟨none, rfl⟩, fun _ => rfl⟩
  have hslot : (some slot).all (·.toNat < 8) = true ↔ slot.toNat < 8 := decide_eq_true_iff
  rw [hslot, Option.mapM_some]
  unfold Rack.hostIndex
  by_cases hs : slot.toNat < 8
  · rw [Rack.slotIndex_of_lt .host hs]
    exact ⟨fun _ => ⟨_, rfl⟩, fun _ => hs⟩
  · rw [Rack.slotIndex_of_le .host (Nat.not_lt.1 hs)]
    exact ⟨fun h => absurd h hs, nofun⟩

/-- The mode that a block of disk slots gives to a slot, if the block passes all checks. -/
def Device.blockMode? (payload : Bytes) (i : Fin 8) : Option AccessMode :=
  match DeviceBlock.decode payload with
  | .ok records =>
    if records.all (isHostByte ·.hostSlot) then records[i]?.map (AccessMode.ofByte ·.mode) else none
  | .error _ => none

/-- The mode that the operation gives to a disk slot, if it assigns the slot: a filename is set or a
block of slots is written that passes all checks, or the image of the slot is mounted. -/
def Operation.given (i : Fin 8) (d : Device W R D) : Operation → Option AccessMode
  | setFilename slot host mode filename =>
    if slot = Rack.unit i ∧ isHostByte host ∧ Text.size filename ≤ DiskSlot.filenameLimit then
      some mode
    else none
  | replaceDisks payload => blockMode? payload i
  | mountImage slot mode =>
    if slot = Rack.unit i ∧ ((Rack.mountImage slot mode).outcome (d.rack.fill d.settings)).isOk then
      some mode
    else none
  | _ => none

/-- The modes that the slots were given last, the operation included. -/
def Operation.modes (g : Fin 8 → AccessMode) (d : Device W R D) (o : Operation) (i : Fin 8) :
    AccessMode := (o.given i d).getD (g i)

omit [SettingsStore W] in
theorem Operation.modes_of_none {o : Operation} (h : ∀ i, o.given i d = none) :
    o.modes g d = g := by
  funext i
  unfold modes
  rw [h]
  rfl

omit [SettingsStore W] in
theorem Operation.modes_of_one {o : Operation} {i : Fin 8} {mode : AccessMode}
    (hi : o.given i d = some mode) (hother : ∀ j, j ≠ i → o.given j d = none) :
    o.modes g d = Function.update g i mode := by
  funext j
  unfold modes
  by_cases hj : j = i
  · rw [hj, hi, Function.update_self]
    rfl
  · rw [hother j hj, Function.update_of_ne hj]
    rfl

omit [HostStorage W R] in
/-- Setting a filename assigns the slot if it passes all checks, and changes nothing if not. -/
theorem after_setFilename (slot host : UInt8) (mode : AccessMode) (filename : String)
    (d : Device W R D) :
    (∃ i h, (slot = Rack.unit i ∧ isHostByte host ∧
        Text.size filename ≤ DiskSlot.filenameLimit) ∧
      (Device.setFilename slot host mode filename).after d =
        save.after (d.setRack (d.rack.assign i (.assigned filename h mode)))) ∨
    (∀ i, ¬(slot = Rack.unit i ∧ isHostByte host ∧
        Text.size filename ≤ DiskSlot.filenameLimit)) ∧
      (Device.setFilename slot host mode filename).after d = d := by
  have hfail : ∀ {e}, Rack.pointDisk slot (hostOfByte host) mode filename d.rack = .error e d.rack →
      (Device.setFilename slot host mode filename).after d = d := by
    intro e he
    unfold Device.setFilename
    rw [after_bind, onRack_error he]
    rfl
  unfold Rack.pointDisk at hfail
  rcases hi : Rack.diskIndex slot with e | i
  · refine .inr ⟨fun i hvalid => ?_, hfail (e := e) (by rw [hi]; rfl)⟩
    rw [hvalid.1, Rack.diskIndex, Rack.slotIndex_unit] at hi
    cases hi
  rcases hh : (hostOfByte host).mapM Rack.hostIndex with e | h
  · refine .inr ⟨fun i hvalid => ?_, hfail (e := e) (by rw [hi, lift_ok_bind, hh]; rfl)⟩
    obtain ⟨h, hok⟩ := isHostByte_iff.1 hvalid.2.1
    rw [hh] at hok
    cases hok
  by_cases hsize : Text.size filename ≤ DiskSlot.filenameLimit
  · refine .inl ⟨i, h, ⟨Rack.eq_unit_of_slotIndex hi, isHostByte_iff.2 ⟨h, hh⟩, hsize⟩, ?_⟩
    have hpoint : Rack.pointDisk slot (hostOfByte host) mode filename d.rack =
        .ok () (d.rack.assign i (.assigned filename h mode)) := by
      unfold Rack.pointDisk
      rw [hi, lift_ok_bind, hh, lift_ok_bind, if_neg (Nat.not_lt.2 hsize)]
      rfl
    unfold Device.setFilename
    rw [after_bind, onRack_apply hpoint]
  · refine .inr ⟨fun i hvalid => hsize hvalid.2.2, hfail (e := .filenameTooLong) ?_⟩
    rw [hi, lift_ok_bind, hh, lift_ok_bind, if_pos (Nat.lt_of_not_le hsize)]
    rfl

omit [HostStorage W R] [SettingsStore W] in
/-- With a record for each slot, every slot gets the mode of its own. -/
theorem Rack.gives_assignRecords {records : List DeviceRecord} (hlength : records.length = 8)
    (g : Fin 8 → AccessMode) (r : Rack W R D) :
    (r.assignRecords ((List.finRange 8).zip records)).Gives
      fun i => (records[i]?.map (AccessMode.ofByte ·.mode)).getD (g i) := by
  obtain ⟨f, rfl⟩ : ∃ f : Fin 8 → DeviceRecord, records = (List.finRange 8).map f := by
    refine ⟨fun i => records.get (i.cast hlength.symm), ?_⟩
    refine List.ext_getElem ?_ fun k _ _ => ?_
    · rw [List.length_map, List.length_finRange, hlength]
    · rw [List.getElem_map, List.getElem_finRange]
      rfl
  have hzip := List.zip_map' (f := id) (g := f) (l := List.finRange 8)
  rw [List.map_id] at hzip
  rw [hzip]
  intro i
  have hi : ((List.finRange 8).map f)[i]? = some (f i) := by
    simp
  have hmode : (((List.finRange 8).map f)[i]?.map (AccessMode.ofByte ·.mode)).getD (g i) =
      AccessMode.ofByte (f i).mode := by
    rw [hi]
    rfl
  have hdisk := Rack.disks_assignRecords f r i
  simp only [hmode]
  exact hdisk ▸ DiskSlot.gives_assigned _ _ _

variable [KeyStorage W]

theorem Device.Gives.setFilename (h : d.Gives g) (slot host : UInt8) (mode : AccessMode)
    (filename : String) :
    let o := Operation.setFilename slot host mode filename
    (o.perform.after d).Gives (o.modes g d) := by
  intro o
  show ((Device.setFilename slot host mode filename).after d).Gives _
  obtain ⟨i, host, hvalid, hafter⟩ | ⟨hinvalid, hafter⟩ :=
    after_setFilename slot host mode filename d <;> rw [hafter]
  · have hgiven : o.given i d = some mode := if_pos hvalid
    have hother : ∀ j, j ≠ i → o.given j d = none := fun j hj =>
      if_neg fun hv => hj (Rack.unit_inj (hv.1.symm.trans hvalid.1))
    rw [Operation.modes_of_one hgiven hother]
    exact hosted_gives.save (h.rack.assign i (DiskSlot.gives_assigned filename host mode))
  · have hnone : ∀ i, o.given i d = none := fun i => if_neg (hinvalid i)
    rw [Operation.modes_of_none hnone]
    exact h

theorem Device.Gives.replaceDisks (h : d.Gives g) (payload : Bytes) :
    let o := Operation.replaceDisks payload
    (o.perform.after d).Gives (o.modes g d) := by
  intro o
  have hrefused : (∀ i, blockMode? payload i = none) →
      (Device.replaceDisks payload).after d = d → (o.perform.after d).Gives (o.modes g d) := by
    intro hmode hafter
    have hperform : o.perform.after d = d := hafter
    have hnone : ∀ i, o.given i d = none := hmode
    rw [hperform, Operation.modes_of_none hnone]
    exact h
  rcases hdecode : DeviceBlock.decode payload with e | records
  · refine hrefused (fun i => ?_) ?_
    · unfold blockMode?
      rw [hdecode]
    · unfold Device.replaceDisks
      rw [hdecode]
      rfl
  have hmode : ∀ i, blockMode? payload i =
      if records.all (isHostByte ·.hostSlot) then records[i]?.map (AccessMode.ofByte ·.mode)
      else none := by
    intro i
    unfold blockMode?
    rw [hdecode]
  by_cases hall : records.all (isHostByte ·.hostSlot)
  · have hh : ∀ r ∈ records, r.HasHost := fun r hr =>
      let ⟨_, hhost⟩ := isHostByte_iff.1 (List.all_eq_true.1 hall r hr)
      DeviceRecord.hasHost_of_ok hhost
    have hlength : records.length = 8 := by
      unfold DeviceBlock.decode at hdecode
      split at hdecode
      · rw [← Except.ok.inj hdecode, List.length_map, Bytes.length_pieces]
      · cases hdecode
    have hmodes : o.modes g d =
        fun i => (records[i]?.map (AccessMode.ofByte ·.mode)).getD (g i) := by
      funext i
      exact congrArg (·.getD (g i)) ((hmode i).trans (if_pos hall))
    rw [hmodes]
    show ((Device.replaceDisks payload).after d).Gives _
    unfold after
    rw [replaceDisks_apply hdecode hh]
    exact hosted_gives.save (Rack.gives_assignRecords hlength g d.rack)
  · refine hrefused (fun i => (hmode i).trans (if_neg hall)) ?_
    unfold Device.replaceDisks
    rw [hdecode, lift_ok_bind]
    rcases hhosts : (records.mapM fun r => (hostOfByte r.hostSlot).mapM Rack.hostIndex :
      Except Error (List (Option (Fin 8)))) with e | checked
    · rw [hhosts]
      rfl
    · refine absurd (List.all_eq_true.2 fun r hr => ?_) hall
      exact isHostByte_iff.2 (exists_ok_of_mapM hhosts r hr)

/-! ### Mounting images -/

omit [SettingsStore W] [KeyStorage W] in
/-- **Mounting the image of a slot** gives the slot the mode that the image was opened in, and none
if that fails. -/
theorem Rack.ends_mountImage_gives (i : Fin 8) (mode : AccessMode) :
    Ends (Rack.Gives g : Rack W R D → Prop) (mountImage (unit i) mode)
      (fun _ => Rack.Gives (Function.update g i mode)) fun _ => Rack.Gives g := by
  refine ends_mountImage_of_connect (fun j hr => hr.of_disks (disks_connect j _))
    (fun _ _ hr => hr.of_disks rfl) fun j size hj _ hr => ?_
  have hi : j = i := unit_inj (eq_unit_of_slotIndex hj).symm
  rw [← hi]
  exact hr.load j mode size

theorem Device.Gives.mountImage (h : d.Gives g) (slot : UInt8) (mode : AccessMode) :
    let o := Operation.mountImage slot mode
    (o.perform.after d).Gives (o.modes g d) := by
  intro o
  have hperform : o.perform.after d = (Device.mountImage slot mode).after d := after_bind_pure _ _ _
  rw [hperform]
  rcases hi : Rack.diskIndex slot with e | i
  · have hnone : ∀ j, o.given j d = none := by
      refine fun j => if_neg fun hj => ?_
      rw [hj.1, Rack.diskIndex, Rack.slotIndex_unit] at hi
      cases hi
    rw [Operation.modes_of_none hnone]
    rw [after_mountImage_of_error hi]
    exact h
  obtain rfl := Rack.eq_unit_of_slotIndex hi
  have hmount := Rack.ends_mountImage_gives i mode (d.rack.fill d.settings) h.fill.rack
  rw [after_mountImage hi]
  rcases hm : Rack.mountImage (Rack.unit i) mode (d.rack.fill d.settings) with
    ⟨media, r⟩ | ⟨e, r⟩ <;> rw [hm] at hmount
  · have hsucceeds :
        ((Rack.mountImage (Rack.unit i) mode).outcome (d.rack.fill d.settings)).isOk := by
      unfold outcome
      rw [hm]
      rfl
    have hgiven : o.given i d = some mode := if_pos ⟨rfl, hsucceeds⟩
    have hother : ∀ j, j ≠ i → o.given j d = none := fun j hj =>
      if_neg fun hv => hj (Rack.unit_inj hv.1.symm)
    have hr : r.Gives (Function.update g i mode) := hmount
    rw [Operation.modes_of_one hgiven hother]
    exact hosted_gives.save (d := ({ d with bootConfig := false } : Device W R D).setRack r) hr
  · have hnone : ∀ j, o.given j d = none := by
      refine fun j => if_neg fun hv => ?_
      have hsucceeds := hv.2
      unfold outcome at hsucceeds
      rw [hm] at hsucceeds
      exact Bool.false_ne_true hsucceeds
    rw [Operation.modes_of_none hnone]
    exact ⟨hmount, h.settings⟩

omit [KeyStorage W] in
/-- **Mounting all images** keeps the modes of all slots. -/
theorem keeps_mountAll_gives : Keeps (Device.Gives g : Device W R D → Prop) Device.mountAll := by
  refine ends_mountAll (P := fun _ d => d.rack.Gives g) (fun hd _ => hd) (fun hd => hd)
    (fun _ i mode => ends_onRack fun d => ?_) (fun hd => hosted_gives.save hd) fun hd => hd.rack
  rintro r ⟨hr, hn, hm⟩
  obtain rfl : g i = mode := (hr i hn).symm.trans hm
  have hmount := Rack.ends_mountImage_gives i (g i) r hr
  rwa [Function.update_eq_self] at hmount

/-! ### All operations -/

theorem keeps_gives {o : Operation} (hwrites : ∀ i, ¬o.writes (Rack.unit i))
    (himages : ¬o.opensImages) : Keeps (Device.Gives g : Device W R D → Prop) o.perform := by
  have h : Hosted (Device.Gives g : Device W R D → Prop) _ := hosted_gives
  refine h.toCalm.perform o (fun hother => ?_) (fun ho => absurd ho himages)
    (fun _ _ hd _ => ⟨hd.rack, hd.settings⟩) (fun _ _ hd => hd.fill)
    (fun i hi => absurd hi (hwrites i)) fun i hi => absurd hi (hwrites i)
  rcases hother with hhost | hkey
  · refine h.keeps_hosts hhost fun slot path pattern hopen => ?_
    subst hopen
    refine keeps_openDirectory (fun hd hl => ?_) slot path pattern
    exact ⟨hd.rack.of_disks hl.disks, hd.settings⟩
  · exact keeps_keys hkey (fun hd _ => ⟨hd.rack, hd.settings⟩) fun hd _ => ⟨hd.rack, hd.settings⟩

/-- **An operation gives no slot another mode** but the slots that it assigns. -/
theorem Device.Gives.perform (h : d.Gives g) (o : Operation) :
    (o.perform.after d).Gives (o.modes g d) := by
  have hkept : (∀ i, ¬o.writes (Rack.unit i)) → ¬o.opensImages → (o.perform.after d).Gives g :=
    fun hwrites himages => keeps_iff.1 (keeps_gives hwrites himages) d h
  cases o with
  | setFilename slot host mode filename => exact h.setFilename slot host mode filename
  | replaceDisks payload => exact h.replaceDisks payload
  | mountImage slot mode => exact h.mountImage slot mode
  | mountAll => exact keeps_iff.1 keeps_mountAll_gives d h
  | unmountImage slot =>
    have hempty : Keeps (Device.Gives g) (Device.unmountImage slot : Action (Device W R D) Unit) :=
      hosted_gives.keeps_unmountImage fun i _ _ hd =>
        Rack.Gives.setDisk (Rack.Gives.of_disks hd rfl) (DiskSlot.gives_empty (g i))
    exact keeps_iff.1 hempty d h
  | _ => exact hkept (fun _ => Bool.false_ne_true) Bool.false_ne_true

/-! ### Runs -/

/-- The mode that a move gives to a disk slot, if it assigns the slot. -/
def Move.given (i : Fin 8) (d : Device W R D) (m : Move W D) : Option AccessMode :=
  match m.request d with
  | .ok (some o) => o.given i d
  | _ => none

/-- The mode that a disk slot was given last in a run, or else before it. -/
def Device.lastGiven (g : Fin 8 → AccessMode) (d : Device W R D) (moves : List (Move W D))
    (i : Fin 8) : AccessMode := ((d.trace (Move.given i) moves).getLast?).getD (g i)

theorem lastGiven_concat (moves : List (Move W D)) (m : Move W D) (i : Fin 8) :
    d.lastGiven g (moves ++ [m]) i = (m.given i (d.run moves)).getD (d.lastGiven g moves i) := by
  unfold Device.lastGiven
  rw [trace_concat]
  rcases m.given i (d.run moves) with _ | mode
  · rw [Option.toList_none, List.append_nil]
    rfl
  · rw [Option.toList_some, List.getLast?_concat]
    rfl

/-- **One move** gives no slot another mode but the slots that it assigns. -/
theorem Device.Gives.move (h : d.Gives g) (m : Move W D) :
    (d.move m).Gives fun i => (m.given i d).getD (g i) := by
  by_cases hr : ∃ o, m.request d = .ok (some o)
  · obtain ⟨o, hr⟩ := hr
    have hgiven : (fun i => (m.given i d).getD (g i)) = o.modes g d := by
      funext i
      unfold Move.given
      rw [hr]
      rfl
    rw [hgiven]
    obtain ⟨pending, response, status, hmove⟩ := move_served hr nofun
    have hperform := h.perform o
    rw [hmove]
    exact ⟨hperform.rack, hperform.settings⟩
  · have hgiven : ∀ i, m.given i d = none := by
      intro i
      unfold Move.given
      split
      · next o ho => exact absurd ⟨o, ho⟩ hr
      · rfl
    simp only [hgiven, Option.getD_none]
    refine keeps_move (I := Device.Gives g) (fun hd _ _ _ => ⟨hd.rack, hd.settings⟩) m
      (fun o ho => absurd ⟨o, ho⟩ hr) (fun _ hd => ?_) (fun f k l hm hd => ?_) h
    · exact ⟨hd.rack.of_disks (Rack.SameButListings.refl d.rack).closeDirectory.disks, hd.settings⟩
    · subst hm
      exact ⟨hd.rack.of_disks rfl, hd.settings⟩

/-- **Along every run the slots are to be opened in the modes that they were given last.** -/
theorem Device.Gives.run (h : d.Gives g) (moves : List (Move W D)) :
    (d.run moves).Gives (d.lastGiven g moves) := by
  induction moves using List.reverseRecOn with
  | nil => exact h
  | append_singleton moves m ih =>
    have hmodes : d.lastGiven g (moves ++ [m]) =
        fun i => (m.given i (d.run moves)).getD (d.lastGiven g moves i) :=
      funext fun i => lastGiven_concat moves m i
    rw [run_concat, hmodes]
    exact ih.move m

omit [KeyStorage W] in
/-- A device that starts has the modes of its settings. -/
theorem gives_start (storage : W) (drives : D) (radio : Radio) (board : Board)
    (digester : Digester) :
    let start : Device W R D := Device.start storage drives radio board digester
    start.Gives fun i => (start.settings.mounts.get i).mode := by
  intro start
  have hsettings : ∀ i, (DiskSlot.ofSettings (start.settings.mounts.get i)).Gives
      (start.settings.mounts.get i).mode := fun i => DiskSlot.gives_assigned _ _ _
  have hempty : Rack.Gives (fun i => (start.settings.mounts.get i).mode)
      ({ storage, drives } : Rack W R D) := by
    intro i
    show (Slots.get (Vector.replicate 8 ({} : DiskSlot)) i).Gives _
    rw [Slots.get_replicate]
    exact DiskSlot.gives_empty _
  have hr : start.rack = (Rack.fill start.settings { storage, drives }).switched start.settings :=
    rack_start ..
  refine ⟨?_, hsettings⟩
  rw [hr]
  exact (hempty.fill hsettings).of_disks rfl

end StorageAdapter
