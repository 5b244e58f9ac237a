import StorageAdapter.Proofs.Operation
import StorageAdapter.Proofs.Rack
import StorageAdapter.Proofs.Text

/-! # What every operation upholds

An operation checks its arguments, changes the slots or the settings step by step, and then saves.
`Calm I J` lists the steps of most operations for a predicate `I` that holds between operations
and a weaker one `J` that holds from the first change until the settings are saved. The steps that
digest, those that fill the slots from the settings, those that write a disk slot and those that
open images stand apart, since only few operations take them (`Operation.digests`,
`Operation.refills`, `Operation.writes`, `Operation.opensImages`), and so do the operations on
mounted hosts and listings and those that handle keys. That this is all there is is `Calm.perform`,
with one case for each operation. With steps for the images that do not tell which image is opened,
the steps are `Steady I J`, and with steps for mounted hosts and listings they are `Hosted I J`.
Both together, for predicates that do not tell how the storage is used, are `Carried I J`; with the
steps that handle keys, `Sustained I J`; and with all of them, `Upheld I J`. -/

namespace StorageAdapter

open StorageAdapter.Action StorageAdapter.Device

variable {W R D : Type}

/-- The device with its rack replaced. -/
def Device.setRack (d : Device W R D) (rack : Rack W R D) : Device W R D := { d with rack }

section SetRack

variable (d : Device W R D) (r : Rack W R D)

@[simp] theorem Device.rack_setRack : (d.setRack r).rack = r := rfl

end SetRack

theorem ends_onRack {α : Type} {P : Device W R D → Prop} {act : Action (Rack W R D) α}
    {Q : α → Device W R D → Prop} {E : Error → Device W R D → Prop}
    (h : ∀ d : Device W R D, Ends (fun r => P (d.setRack r)) act (fun a r => Q a (d.setRack r))
      fun e r => E e (d.setRack r)) : Ends P (onRack act) Q E :=
  ends_on fun d hd => h d d.rack hd

theorem onRack_apply {α : Type} {act : Action (Rack W R D) α} {d : Device W R D} {a : α}
    {r : Rack W R D} (h : act d.rack = .ok a r) : onRack act d = .ok a (d.setRack r) := by
  show Action.on _ _ _ _ = _
  unfold Action.on
  simp only [h]
  rfl

theorem onRack_error {α : Type} {act : Action (Rack W R D) α} {d : Device W R D} {e : Error}
    {r : Rack W R D} (h : act d.rack = .error e r) : onRack act d = .error e (d.setRack r) := by
  show Action.on _ _ _ _ = _
  unfold Action.on
  simp only [h]
  rfl

/-! ### Blocks of disk slots -/

theorem length_le_of_mem_pieces {width n : Nat} {bs piece : Bytes}
    (h : piece ∈ Bytes.pieces width n bs) : piece.length ≤ width := by
  induction n generalizing bs with
  | zero => exact absurd h List.not_mem_nil
  | succ n ih =>
    rcases List.mem_cons.1 h with rfl | h
    · exact List.length_take_le _ _
    · exact ih h

theorem Bytes.length_pieces (width n : Nat) (bs : Bytes) : (pieces width n bs).length = n := by
  induction n generalizing bs with
  | zero => rfl
  | succ n ih => rw [pieces, List.length_cons, ih]

/-- The filenames in a block are so short that none of them is refused. -/
theorem size_filename_le {payload : Bytes} {records : List DeviceRecord}
    (h : DeviceBlock.decode payload = .ok records) :
    ∀ r ∈ records, Text.size r.filename ≤ DiskSlot.filenameLimit := by
  unfold DeviceBlock.decode at h
  split at h
  · obtain rfl := Except.ok.inj h
    intro r hr
    obtain ⟨piece, hp, rfl⟩ := List.mem_map.1 hr
    have hp := length_le_of_mem_pieces hp
    have hs := Text.size_ofField_le (piece.drop 2)
    rw [List.length_drop] at hs
    show Text.size (Text.ofField (piece.drop 2)) ≤ 255
    have : DeviceBlock.recordSize = 38 := rfl
    omega
  · cases h

/-- The host slot of the record, if it has one that there is. -/
def DeviceRecord.host? (r : DeviceRecord) : Option (Fin 8) :=
  (hostOfByte r.hostSlot).bind fun b => (Rack.hostIndex b).toOption

/-- The record has a host slot that there is, or none. -/
def DeviceRecord.HasHost (r : DeviceRecord) : Prop :=
  (hostOfByte r.hostSlot).mapM Rack.hostIndex = (.ok r.host? : Except Error _)

theorem DeviceRecord.hasHost_of_ok {r : DeviceRecord} {h : Option (Fin 8)}
    (hr : (hostOfByte r.hostSlot).mapM Rack.hostIndex = Except.ok h) : r.HasHost := by
  unfold HasHost host?
  rcases hb : hostOfByte r.hostSlot with _ | b
  · rfl
  · rcases hi : Rack.hostIndex b with e | i
    · rw [hb, Option.mapM_some, hi] at hr
      cases hr
    · rw [Option.mapM_some, Option.bind_some, hi]
      rfl

/-- The disk slot that a record points at its file. -/
def DiskSlot.ofRecord (r : DeviceRecord) : DiskSlot :=
  .assigned r.filename r.host? (AccessMode.ofByte r.mode)

section Records

variable [DriveBay D]

/-- The rack with disk slots pointed at the files of records. -/
def Rack.assignRecords (entries : List (Fin 8 × DeviceRecord)) (r : Rack W R D) : Rack W R D :=
  entries.foldl (fun r e => r.assign e.1 (.ofRecord e.2)) r

/-- **Checked records are assigned in turn.** -/
theorem forM_assignRecord {entries : List (Fin 8 × DeviceRecord)}
    (hs : ∀ e ∈ entries, Text.size e.2.filename ≤ DiskSlot.filenameLimit)
    (hh : ∀ e ∈ entries, e.2.HasHost) (r : Rack W R D) :
    entries.forM assignRecord r = .ok () (r.assignRecords entries) := by
  induction entries generalizing r with
  | nil => rfl
  | cons e entries ih =>
    have hhost : (hostOfByte e.2.hostSlot).mapM Rack.hostIndex = .ok e.2.host? :=
      hh e List.mem_cons_self
    have hassign : assignRecord e r = .ok () (r.assign e.1 (.ofRecord e.2)) := by
      unfold assignRecord Rack.pointDisk Rack.diskIndex
      rw [Rack.slotIndex_unit, hhost]
      simp only [lift_ok_bind, if_neg (Nat.not_lt.2 (hs e List.mem_cons_self))]
      rfl
    have hrest := ih (fun e he => hs e (List.mem_cons_of_mem _ he))
      (fun e he => hh e (List.mem_cons_of_mem _ he)) (r.assign e.1 (.ofRecord e.2))
    show (assignRecord e >>= fun _ => entries.forM assignRecord) r = _
    rw [bind_apply, hassign]
    exact hrest

/-- **Writing a block of checked records** points the slots at their files and saves that. -/
theorem replaceDisks_apply [SettingsStore W] {payload : Bytes} {records : List DeviceRecord}
    (hdecode : DeviceBlock.decode payload = .ok records) (hh : ∀ r ∈ records, r.HasHost)
    (d : Device W R D) : replaceDisks payload d =
      Device.save (d.setRack (d.rack.assignRecords ((List.finRange 8).zip records))) := by
  have hhosts : (records.mapM fun r => (hostOfByte r.hostSlot).mapM Rack.hostIndex :
    Except Error (List (Option (Fin 8)))) = .ok (records.map DeviceRecord.host?) := mapM_eq_ok hh
  have hsize := size_filename_le hdecode
  have hmem : ∀ e ∈ (List.finRange 8).zip records, e.2 ∈ records := fun e he =>
    (List.of_mem_zip he).2
  have hassign := forM_assignRecord (fun e he => hsize _ (hmem e he))
    (fun e he => hh _ (hmem e he)) d.rack
  unfold replaceDisks
  rw [hdecode, lift_ok_bind, hhosts, lift_ok_bind, bind_apply, onRack_apply hassign]

end Records

theorem save_apply [SettingsStore W] (d : Device W R D) :
    Device.save d = match SettingsStore.save d.currentSettings d.rack.storage with
      | .ok _ w =>
        .ok () (({ d with settings := d.currentSettings }).setRack (d.rack.setStorage w))
      | .error e w =>
        .error e (({ d with settings := d.currentSettings }).setRack (d.rack.setStorage w)) := by
  unfold Device.save Device.onStorage Device.onRack Rack.onStorage
  simp only [bind_apply, modify_apply, get_apply, Action.on]
  rcases SettingsStore.save d.currentSettings d.rack.storage with ⟨u, w⟩ | ⟨e, w⟩ <;> rfl

theorem after_save [SettingsStore W] (d : Device W R D) : Device.save.after d =
    ({ d with settings := d.currentSettings }).setRack
      (d.rack.setStorage ((SettingsStore.save d.currentSettings).after d.rack.storage)) := by
  unfold after
  rw [save_apply]
  rcases SettingsStore.save d.currentSettings d.rack.storage with ⟨u, w⟩ | ⟨e, w⟩ <;> rfl

/-- **An action that changes the rack and then saves** brings the settings up to date, saves them
once and ends as that does. Nothing else changes but the storage. -/
theorem saved_once [SettingsStore W] {act : Action (Device W R D) Unit} {d : Device W R D}
    {r : Rack W R D} (h : act d = Device.save (d.setRack r)) :
    let e := act.after d
    e.settings = e.currentSettings ∧
      e.rack.storage = (SettingsStore.save e.settings).after r.storage ∧
      act.outcome d = (SettingsStore.save e.settings).outcome r.storage ∧
      e = { d with settings := e.settings }.setRack (r.setStorage e.rack.storage) := by
  have houtcome : act.outcome d =
      (SettingsStore.save (d.setRack r).currentSettings).outcome r.storage := by
    rw [outcome_congr h]
    unfold outcome
    rw [save_apply]
    simp only [rack_setRack]
    rcases SettingsStore.save (d.setRack r).currentSettings r.storage with ⟨u, w⟩ | ⟨e, w⟩ <;> rfl
  simp only [after_congr h, after_save]
  exact ⟨rfl, rfl, houtcome, rfl⟩

variable [HostStorage W R] [SettingsStore W] [DriveBay D]

omit [SettingsStore W] [DriveBay D] in
/-- Giving a host another name uses the storage, unmounts the host and moves the cursor at most. -/
theorem renameHost_eq (i : Fin 8) (name : String) (r : Rack W R D) :
    ∃ w cursor, Reached r.storage w ∧
      renameHost i name r = ((r.setStorage w).setHost i (.named name)).setCursor cursor := by
  obtain ⟨w, hw, hr⟩ := Rack.rename_eq i name r
  unfold renameHost Rack.dropCursor
  rw [hr]
  split
  · exact ⟨w, {}, hw, rfl⟩
  · exact ⟨w, r.cursor, hw, rfl⟩

omit [SettingsStore W] [DriveBay D] in
theorem Rack.KindsOfNames.renameHost {r : Rack W R D} (h : r.KindsOfNames) (i : Fin 8)
    (name : String) : (renameHost i name r).KindsOfNames := by
  obtain ⟨w, cursor, -, hr⟩ := renameHost_eq i name r
  rw [hr]
  exact setHost (r := r.setStorage w) h i (.named name)

/-- Mounting an image fills the slots first; the settings are saved only if the image is mounted. -/
theorem after_mountImage {slot : UInt8} {i : Fin 8} (hi : Rack.diskIndex slot = .ok i)
    (mode : AccessMode) (d : Device W R D) :
    (Device.mountImage slot mode).after d =
      match Rack.mountImage slot mode (d.rack.fill d.settings) with
      | .ok _ r => save.after ({ d with bootConfig := false }.setRack r)
      | .error _ r => d.setRack r := by
  unfold Device.mountImage refillSlots
  rw [hi, after_lift_ok, after_bind, modify_apply]
  show (onRack (Rack.mountImage slot mode) >>= fun media => _).after
    (d.setRack (d.rack.fill d.settings)) = _
  rw [after_bind]
  rcases hm : Rack.mountImage slot mode (d.rack.fill d.settings) with ⟨media, r⟩ | ⟨e, r⟩
  · rw [onRack_apply (d := d.setRack (d.rack.fill d.settings)) hm]
    simp only
    rw [after_bind, modify_apply]
    exact after_bind_pure save (fun _ => media) _
  · rw [onRack_error (d := d.setRack (d.rack.fill d.settings)) hm]
    rfl

theorem after_mountImage_of_error {slot : UInt8} {e : Error} (hi : Rack.diskIndex slot = .error e)
    (mode : AccessMode) (d : Device W R D) : (Device.mountImage slot mode).after d = d := by
  unfold Device.mountImage
  rw [hi]
  rfl

/-- What a predicate bears of an image being opened, whether that succeeds or not: its host is
mounted, and the image is looked for there. -/
structure Bears (P : Device W R D → Prop) : Prop where
  connect : ∀ {d}, P d → ∀ i, P (d.setRack ((Rack.connect i).after d.rack))
  openImage : ∀ {d}, P d → ∀ root path mode,
    P (d.setRack (d.rack.setStorage ((HostStorage.openImage root path mode).after d.rack.storage)))

/-- What a predicate withstands of an image being opened that does not look at how: the storage is
used and a host is mounted. -/
structure Withstands (P : Device W R D → Prop) : Prop where
  storage : ∀ {d w}, P d → Reached d.rack.storage w → P (d.setRack (d.rack.setStorage w))
  mount : ∀ {d i}, P d → (d.rack.hosts.get i).mount = none →
    (d.rack.hosts.get i).kind ≠ .unused → ∀ root,
    P (d.setRack (d.rack.setHost i { d.rack.hosts.get i with mount := some { root } }))

omit [SettingsStore W] [DriveBay D] in
theorem Withstands.bears {P : Device W R D → Prop} (h : Withstands P) : Bears P where
  connect {d} hd i := by
    obtain ⟨w, hw, hc | ⟨hm, hk, root, hc⟩⟩ := Rack.connect_cases i d.rack <;> rw [hc]
    · exact h.storage hd hw
    · exact h.mount (h.storage hd hw) hm hk root
  openImage hd root path mode := h.storage hd (.openImage root path mode .nothing)

/-- **The steps of all operations**, apart from those that digest, fill the slots, write a disk
slot, open images, handle keys, or release, rename or list hosts. -/
structure Calm (I J : Device W R D → Prop) : Prop where
  weaken : ∀ {d}, I d → J d
  connect : ∀ {d}, I d → ∀ i, I (d.setRack ((Rack.connect i).after d.rack))
  aside : ∀ {d}, I d → ∀ radio board, I { d with radio, board }
  wifi : ∀ {d}, J d → ∀ wifi, J { d with settings := { d.settings with wifi } }
  boot : ∀ {d}, J d → ∀ bootConfig bootDevice, J { d with bootConfig, bootDevice }
  switch : ∀ {d}, J d → ∀ active device, J (switchDevice active d device)
  save : ∀ {d}, J d → I (save.after d)

/-- **The steps of all operations**, apart from those that digest, fill the slots, write a disk
slot, handle keys, or release, rename or list hosts. -/
structure Steady (I J : Device W R D → Prop) : Prop extends Calm I J where
  openImage : ∀ {d}, I d → ∀ root path mode,
    I (d.setRack (d.rack.setStorage ((HostStorage.openImage root path mode).after d.rack.storage)))
  during : Bears J
  load : ∀ {d i}, J d → d.rack.Ready i → ∀ mode size, J (d.setRack (d.rack.loaded i mode size))

/-- The rack with the listing closed if it is on this host. -/
def Rack.leave (i : Fin 8) (r : Rack W R D) : Rack W R D :=
  if r.cursor.openOn = some i then r.closeDirectory else r

/-- **The steps of all operations**, apart from those that digest, fill the slots, write a disk
slot, open images or handle keys. -/
structure Hosted (I J : Device W R D → Prop) : Prop extends Calm I J where
  disconnect : ∀ {d}, I d → ∀ i, I (d.setRack ((Rack.disconnect i).after (d.rack.leave i)))
  close : ∀ {d}, I d → I (d.setRack d.rack.closeDirectory)
  follow : ∀ d : Device W R D, Rack.Follows fun r => I (d.setRack r)
  rename : ∀ {d}, J d → ∀ i name, J (d.setRack (renameHost i name d.rack))

/-- **The steps of all operations**, apart from those that digest, fill the slots, write a disk slot
or handle keys. -/
structure Carried (I J : Device W R D → Prop) : Prop where
  weaken : ∀ {d}, I d → J d
  before : Withstands I
  during : Withstands J
  aside : ∀ {d}, I d → ∀ radio board, I { d with radio, board }
  unmount : ∀ {d i}, I d → d.rack.cursor.openOn ≠ some i →
    I (d.setRack (d.rack.setHost i { d.rack.hosts.get i with mount := none }))
  close : ∀ {d}, I d → I (d.setRack d.rack.closeDirectory)
  follow : ∀ d : Device W R D, Rack.Follows fun r => I (d.setRack r)
  rename : ∀ {d}, J d → ∀ i name, J (d.setRack (renameHost i name d.rack))
  load : ∀ {d i}, J d → d.rack.Ready i → ∀ mode size, J (d.setRack (d.rack.loaded i mode size))
  wifi : ∀ {d}, J d → ∀ wifi, J { d with settings := { d.settings with wifi } }
  boot : ∀ {d}, J d → ∀ bootConfig bootDevice, J { d with bootConfig, bootDevice }
  switch : ∀ {d}, J d → ∀ active device, J (switchDevice active d device)
  save : ∀ {d}, J d → I (save.after d)

/-- **The steps of all operations**, apart from those that digest, fill the slots or write a disk
slot. -/
structure Sustained [KeyStorage W] (I J : Device W R D → Prop) : Prop extends Carried I J where
  key : ∀ {d w}, I d → ∀ appKey, Used d.rack.storage w →
    I ({ d with appKey }.setRack (d.rack.setStorage w))

/-- **The steps of all operations.** -/
structure Upheld [KeyStorage W] (I J : Device W R D → Prop) : Prop extends Sustained I J where
  digest : ∀ {d}, I d → ∀ digest, I { d with digest }
  fill : ∀ {d}, I d → I (d.setRack (d.rack.fill d.settings))
  empty : ∀ {d}, J d → ∀ i, J (d.setRack ((d.rack.eject i).setDisk i {}))
  assign : ∀ {d}, J d → ∀ i filename host mode,
    J (d.setRack (d.rack.assign i (.assigned filename host mode)))

/-- Whether the operation fills the slots from the settings before anything else. -/
def Operation.refills : Operation → Bool
  | mountHost slot | mountImage slot _ => slot.toNat < 8
  | _ => false

/-- Whether the operation empties the disk slot or points it at a file. -/
def Operation.writes (slot : UInt8) : Operation → Bool
  | unmountImage s | setFilename s _ _ _ => s == slot
  | replaceDisks _ => true
  | _ => false

/-- Whether the operation opens images. -/
def Operation.opensImages : Operation → Bool
  | mountImage _ _ | mountAll => true
  | _ => false

/-- Whether the operation is about digests. -/
def Operation.digests : Operation → Bool
  | feedDigest _ | computeDigest _ _ | clearDigest => true
  | _ => false

/-- Whether the operation is about keys. -/
def Operation.handlesKeys : Operation → Bool
  | openKey _ | writeKey _ | closeKey => true
  | _ => false

/-- Whether the operation is about mounted hosts: it releases or renames them, or works on their
listings. -/
def Operation.handlesHosts : Operation → Bool
  | unmountHost _ | nameHost _ _ | replaceHostnames _ | openDirectory _ _ _ | readDirectory _ _
  | directoryPosition | seekDirectory _ | closeDirectory => true
  | _ => false

omit [HostStorage W R] [SettingsStore W] [DriveBay D] in
/-- A slot number that is out of range stops an action before it does anything. -/
theorem keeps_refused {α : Type} {P : Device W R D → Prop} (kind : SlotTable) {slot : UInt8}
    (hs : 8 ≤ slot.toNat) {f : Fin 8 → Action (Device W R D) α} :
    Keeps P (liftM (Rack.slotIndex kind slot) >>= f) := by
  rw [Rack.slotIndex_of_le kind hs]
  exact fun d hd => hd

omit [HostStorage W R] [SettingsStore W] [DriveBay D] in
theorem Rack.openOn_leave (i : Fin 8) (r : Rack W R D) : (r.leave i).cursor.openOn ≠ some i := by
  unfold leave
  split
  · exact r.openOn_closeDirectory ▸ nofun
  · next ho => exact ho

omit [HostStorage W R] [SettingsStore W] [DriveBay D] in
theorem Rack.sameButListings_leave (i : Fin 8) (r : Rack W R D) :
    r.SameButListings (r.leave i) := by
  unfold leave
  split
  · exact (SameButListings.refl r).closeDirectory
  · exact .refl r

omit [SettingsStore W] [DriveBay D] in
/-- A host that is to be unmounted is left by the cursor first. -/
theorem after_unmountHost {slot : UInt8} {i : Fin 8} (hi : Rack.hostIndex slot = .ok i)
    (d : Device W R D) : (Device.unmountHost slot).after d =
      d.setRack ((Rack.disconnect i).after (d.rack.leave i)) := by
  unfold Device.unmountHost Rack.unmountHost
  rw [hi, after_lift_ok, after_bind]
  refine (after_on _ _ _ _).trans ?_
  unfold Rack.leave
  by_cases ho : d.rack.cursor.openOn = some i
  · simp only [if_pos ho]
    rfl
  · simp only [if_neg ho]
    rfl

omit [SettingsStore W] [DriveBay D] in
theorem ends_unmountHost {P Q : Device W R D → Prop} {slot : UInt8} (hrefused : ∀ {d}, P d → Q d)
    (h : ∀ {d} i, Rack.hostIndex slot = .ok i → P d →
      Q (d.setRack ((Rack.disconnect i).after (d.rack.leave i)))) :
    Ends P (Device.unmountHost slot) (fun _ => Q) fun _ => Q := by
  refine ends_after.2 fun d hd => ?_
  rcases hi : Rack.hostIndex slot with e | i
  · unfold Device.unmountHost
    rw [hi]
    exact hrefused hd
  · rw [after_unmountHost hi]
    exact h i hi hd

section MountAll

variable {P : List (Fin 8) → Device W R D → Prop} {I : Device W R D → Prop}
  (hmore : ∀ {tried d}, P tried d → ∀ slots, P (tried ++ slots) d)
  (hboot : ∀ {tried d}, P tried d → P tried { d with bootConfig := false })
  (hmount : ∀ tried i mode, Ends (fun d => P tried d ∧ (d.rack.disks.get i).namesImage ∧
    (d.rack.disks.get i).mode = mode) (onRack (Rack.mountImage (Rack.unit i) mode))
      (fun _ => P (tried ++ [i])) fun _ => P (tried ++ [i]))
include hmore hboot hmount

omit [SettingsStore W] in
/-- **Mounting the images of some slots in turn**: what holds of the slots that were tried holds of
one more when its image is mounted, in the mode of the slot, or when there is none. -/
theorem ends_mountInTurn (slots tried : List (Fin 8)) :
    Ends (P tried) (mountInTurn slots) (fun _ => P (tried ++ slots))
      fun _ => P (tried ++ slots) := by
  induction slots generalizing tried with
  | nil => exact ends_pure fun d hd => hmore hd []
  | cons i rest ih =>
    have hrest : Ends (P (tried ++ [i])) (mountInTurn rest) (fun _ => P (tried ++ i :: rest))
        fun _ => P (tried ++ i :: rest) := by
      have hall := ih (tried ++ [i])
      rwa [List.append_assoc] at hall
    have hnow : ∀ {d}, P (tried ++ [i]) d → P (tried ++ i :: rest) d := by
      intro d hd
      have hall := hmore hd rest
      rwa [List.append_assoc] at hall
    unfold mountInTurn
    refine Ends.bind (Q := fun before d => P tried d ∧ d = before) (ends_get fun d hd => ⟨hd, rfl⟩)
      fun before => Ends.ite (fun hn => ?_) fun _ => ?_
    · refine Ends.bind (Q := fun _ => P (tried ++ [i])) ?_ fun _ =>
        Ends.bind (Q := fun _ => P (tried ++ [i])) (ends_modify fun d hd => hboot hd) fun _ => hrest
      refine (hmount tried i _).mono ?_ (fun _ _ hd => hd) fun _ _ hd => hnow hd
      rintro d ⟨hd, rfl⟩
      exact ⟨hd, hn, rfl⟩
    · exact hrest.mono (fun d hd => hmore hd.1 [i]) (fun _ _ hd => hd) fun _ _ hd => hd

/-- **Mounting all images** tries all slots and saves the settings, however that ends. -/
theorem ends_mountAll {Z : Device W R D → Prop} (hsave : ∀ {d}, P (List.finRange 8) d →
    Z (save.after d)) (hstart : ∀ {d}, I d → P [] d) :
    Ends I Device.mountAll (fun _ => Z) fun _ => Z := by
  have hsaved : Ends (P (List.finRange 8)) Device.save (fun _ => Z) fun _ => Z :=
    ends_after.2 fun _ hd => hsave hd
  refine Ends.bind (Q := fun _ => P (List.finRange 8)) (ends_attempt ?_) fun result => ?_
  · exact (ends_mountInTurn hmore hboot hmount (List.finRange 8) []).mono (fun _ hd => hstart hd)
      (fun _ _ hd => hd) fun _ _ hd => hd
  rcases result with e | _
  · exact Ends.bind (Q := fun _ => Z) (ends_attempt hsaved) fun _ => ends_throw fun _ hd => hd
  · exact Ends.bind (Q := fun _ => P (List.finRange 8)) (ends_modify fun d hd => hboot hd)
      fun _ => hsaved

end MountAll

namespace Calm

variable {I J : Device W R D → Prop} (h : Calm I J)
include h

/-! ### Saving and noting -/

theorem ends_save : Ends J Device.save (fun _ => I) fun _ => I := ends_after.2 fun _ hd => h.save hd

theorem keeps_saved {f : Device W R D → Device W R D} (hf : ∀ {d}, J d → J (f d)) :
    Keeps I (modify f >>= fun _ => Device.save) :=
  Ends.bind (ends_modify fun _ hd => hf (h.weaken hd)) fun _ => h.ends_save

theorem keeps_note (e : Event) : Keeps I (note e) :=
  ends_modify fun d hd => h.aside hd d.radio (d.board.note e)

/-! ### Network, boot and bus devices -/

theorem keeps_scan : Keeps I Device.scan :=
  keeps_iff.2 fun d hd => h.aside hd d.radio.scan.2 _

theorem keeps_setCredentials (c : Credentials) (store : Bool) :
    Keeps I (Device.setCredentials c store) := by
  unfold Device.setCredentials
  refine Keeps.guard fun _ => Keeps.guard fun _ => ?_
  refine Keeps.bind (keeps_iff.2 fun d hd => ?_) fun joined => ?_
  · exact h.aside hd (d.radio.join c).2 _
  -- WiFi is restarted whether or not credentials were stored
  have hrest : ∀ u : PUnit, Keeps I (do
      note (.restarted (← get).settings.wifi)
      note (.waited restartPause)
      if !joined then throw .notConnected : Action (Device W R D) Unit) := by
    intro _
    refine Keeps.get.bind fun _ => (h.keeps_note _).bind fun _ => (h.keeps_note _).bind fun _ => ?_
    split
    · exact Keeps.throw _
    · exact Keeps.pure _
  refine Ends.ite (fun _ => ?_) fun _ => hrest ⟨⟩
  refine Ends.bind (Q := fun _ => J) (ends_modify fun d hd => ?_) fun _ =>
    Ends.bind h.ends_save hrest
  exact h.wifi (h.weaken hd) _

theorem keeps_switchDevices (devices : List UInt8) (active : Bool) :
    Keeps I (Device.switchDevices devices active) :=
  h.keeps_saved fun hd => List.foldlRecOn devices _ hd fun _ hd device _ =>
    h.switch hd active device

/-! ### Hosts -/

theorem keeps_connect (i : Fin 8) : Keeps I (onRack (Rack.connect i)) :=
  ends_onRack fun d => keeps_iff.2 fun r hr => h.connect (d := d.setRack r) hr i

theorem ends_mountHost {P : Device W R D → Prop}
    (hfill : ∀ {d}, P d → I (d.setRack (d.rack.fill d.settings))) {slot : UInt8}
    (hs : slot.toNat < 8) : Ends P (Device.mountHost slot) (fun _ => I) fun _ => I := by
  unfold Device.mountHost Rack.mountHost Rack.hostIndex
  rw [Rack.slotIndex_of_lt .host hs]
  show Ends P (refillSlots >>= fun _ => onRack (Rack.connect _)) _ _
  exact Ends.bind (Q := fun _ => I) (ends_modify fun _ hd => hfill hd) fun _ => h.keeps_connect _

/-! ### Disks -/

theorem keeps_unmountImage {slot : UInt8} (hempty : ∀ i, Rack.diskIndex slot = .ok i → ∀ {d}, J d →
    J (d.setRack ((d.rack.eject i).setDisk i {}))) : Keeps I (Device.unmountImage slot) := by
  refine Ends.bind (Q := fun _ => J) (ends_onRack fun d => ?_) fun _ => h.ends_save
  exact Ends.bind (Q := fun i r => I (d.setRack r) ∧ Rack.diskIndex slot = .ok i)
    (ends_lift (fun _ hi _ hr => ⟨hr, hi⟩) fun _ _ _ hr => hr) fun i =>
      ends_modify fun r hr => hempty i hr.2 (h.weaken hr.1)

theorem keeps_setFilename {slot host : UInt8} {mode : AccessMode} {filename : String}
    (hassign : ∀ i h, Rack.diskIndex slot = .ok i → ∀ {d}, J d →
      J (d.setRack (d.rack.assign i (.assigned filename h mode)))) :
    Keeps I (Device.setFilename slot host mode filename) := by
  refine Ends.bind (Q := fun _ => J) (ends_onRack fun d => ?_) fun _ => h.ends_save
  exact Rack.ends_pointDisk fun i host hi _ _ hr => hassign i host hi (h.weaken hr)

theorem keeps_replaceDisks {payload : Bytes} (hassign : ∀ {d}, J d → ∀ i filename host mode,
    J (d.setRack (d.rack.assign i (.assigned filename host mode)))) :
    Keeps I (Device.replaceDisks payload) := by
  intro d hd
  rcases hdecode : DeviceBlock.decode payload with e | records
  · unfold Device.replaceDisks
    rw [hdecode]
    exact hd
  rcases hhosts : (records.mapM fun r => (hostOfByte r.hostSlot).mapM Rack.hostIndex :
    Except Error (List (Option (Fin 8)))) with e | checked
  · unfold Device.replaceDisks
    rw [hdecode, lift_ok_bind, hhosts]
    exact hd
  have hh : ∀ r ∈ records, r.HasHost := fun r hr =>
    let ⟨_, hhost⟩ := exists_ok_of_mapM hhosts r hr
    DeviceRecord.hasHost_of_ok hhost
  rw [replaceDisks_apply hdecode hh]
  refine h.ends_save _ ?_
  exact List.foldlRecOn _ _ (motive := fun r => J (d.setRack r)) (h.weaken hd)
    fun r hr e _ => hassign hr e.1 _ _ _

/-! ### All operations -/

/-- **An operation keeps what is calm**, except perhaps one that is about mounted hosts, keys or
images, if it digests, fills the slots or writes a disk slot only where that is harmless. -/
theorem perform [KeyStorage W] (o : Operation)
    (hother : o.handlesHosts ∨ o.handlesKeys → Keeps I o.perform)
    (himages : o.opensImages → Keeps I o.perform)
    (hdigest : o.digests → ∀ {d}, I d → ∀ digest, I { d with digest })
    (hfill : o.refills → ∀ {d}, I d → I (d.setRack (d.rack.fill d.settings)))
    (hempty : ∀ i, o.writes (Rack.unit i) → ∀ {d}, J d →
      J (d.setRack ((d.rack.eject i).setDisk i {})))
    (hassign : ∀ i, o.writes (Rack.unit i) → ∀ {d}, J d → ∀ filename host mode,
      J (d.setRack (d.rack.assign i (.assigned filename host mode)))) :
    Keeps I o.perform := by
  cases o with
  | save => exact Ends.mono h.ends_save (fun _ => h.weaken) (fun _ _ hd => hd) fun _ _ hd => hd
  | reboot => exact h.keeps_note _
  | scan => exact h.keeps_scan.bind_pure
  | setCredentials c store => exact h.keeps_setCredentials c store
  | switchWifi enabled => exact h.keeps_saved fun hd => h.wifi hd _
  | setConfigBoot enabled => exact h.keeps_saved fun hd => h.boot hd _ _
  | setBootDevice device => exact h.keeps_saved fun hd => h.boot hd _ _
  | switchDevices devices active => exact h.keeps_switchDevices devices active
  | mountHost slot =>
    by_cases hs : slot.toNat < 8
    · exact h.ends_mountHost (hfill (decide_eq_true hs)) hs
    · exact keeps_refused .host (Nat.not_lt.1 hs)
  | unmountImage slot =>
    exact h.keeps_unmountImage fun i hi => hempty i (beq_iff_eq.2 (Rack.eq_unit_of_slotIndex hi))
  | setFilename slot host mode filename =>
    refine h.keeps_setFilename fun i host hi _ hd => ?_
    exact hassign i (beq_iff_eq.2 (Rack.eq_unit_of_slotIndex hi)) hd filename host mode
  | replaceDisks payload => exact h.keeps_replaceDisks fun hd i => hassign i rfl hd
  | feedDigest data => exact keeps_iff.2 fun d hd => hdigest rfl hd _
  | computeDigest algorithm clear => exact keeps_iff.2 fun d hd => hdigest rfl hd _
  | clearDigest => exact keeps_iff.2 fun d hd => hdigest rfl hd _
  | mountImage | mountAll => exact himages rfl
  -- the others are about mounted hosts
  | unmountHost | nameHost | replaceHostnames | openDirectory | readDirectory | directoryPosition
  | seekDirectory | closeDirectory => exact hother (.inl rfl)
  | openKey | writeKey | closeKey => exact hother (.inr rfl)

end Calm

namespace Steady

variable {I J : Device W R D → Prop} (h : Steady I J)
include h

/-! ### Filling the slots first -/

section Refilling

variable {P : Device W R D → Prop} (hfill : ∀ {d}, P d → I (d.setRack (d.rack.fill d.settings)))
include hfill

theorem ends_mountImage {slot : UInt8} (mode : AccessMode) (hs : slot.toNat < 8) :
    Ends P (do let _ ← Device.mountImage slot mode : Action (Device W R D) Unit) (fun _ => I)
      fun _ => I := by
  unfold Device.mountImage
  refine Ends.bind (Ends.bind (Q := fun _ => P) (ends_lift (fun _ _ _ hd => hd) fun e he => ?_)
    fun _ => Ends.bind (Q := fun _ => I) (ends_modify fun _ hd => hfill hd) fun _ => ?_)
    fun _ => Keeps.pure _
  · exact nomatch (Rack.slotIndex_of_lt .device hs).symm.trans he
  refine Ends.bind (Q := fun _ => J) (ends_onRack fun d => ?_) fun media =>
    Ends.bind (Q := fun _ => J) (ends_modify fun d hd => h.boot hd _ _) fun _ =>
      Ends.bind h.ends_save fun _ => Keeps.pure media
  exact Rack.ends_mountImage_of_connect (fun i hr => h.connect hr i)
    (fun root path hr => h.openImage hr root path mode)
    (fun _ size _ hready hr => h.load (h.weaken hr) hready mode size)

/-- **An operation that fills the slots first** leaves what is carried if filling them does. -/
theorem refilling [KeyStorage W] {o : Operation} (ho : o.refills) :
    Ends P o.perform (fun _ => I) fun _ => I := by
  cases o with
  | mountHost slot => exact h.ends_mountHost hfill (of_decide_eq_true ho)
  | mountImage slot mode => exact h.ends_mountImage hfill mode (of_decide_eq_true ho)
  | _ => cases ho

end Refilling

/-! ### Images -/

theorem keeps_mountAll : Keeps I Device.mountAll := by
  refine ends_mountAll (P := fun _ => J) (fun hd _ => hd) (fun hd => h.boot hd _ _)
    (fun _ i mode => ends_onRack fun d => ?_) (fun hd => h.save hd) fun hd => h.weaken hd
  exact (Rack.ends_mountImage_of_connect (fun i hr => h.during.connect hr i)
    (fun root path hr => h.during.openImage hr root path mode)
    fun _ size _ hready hr => h.load hr hready mode size).mono (fun _ hr => hr.1)
      (fun _ _ hr => hr) fun _ _ hr => hr

/-- An operation that opens images keeps what is steady, if it fills the slots only where that is
harmless. -/
theorem keeps_images [KeyStorage W] {o : Operation} (ho : o.opensImages)
    (hfill : o.refills → ∀ {d}, I d → I (d.setRack (d.rack.fill d.settings))) :
    Keeps I o.perform := by
  cases o with
  | mountImage slot mode =>
    by_cases hs : slot.toNat < 8
    · exact h.ends_mountImage (hfill (decide_eq_true hs)) mode hs
    · exact (keeps_refused .device (Nat.not_lt.1 hs)).bind_pure
  | mountAll => exact h.keeps_mountAll
  | _ => cases ho

/-! ### All operations -/

/-- **An operation keeps what is steady**, except perhaps one that is about mounted hosts or keys,
if it digests, fills the slots or writes a disk slot only where that is harmless. -/
theorem perform [KeyStorage W] (o : Operation)
    (hother : o.handlesHosts ∨ o.handlesKeys → Keeps I o.perform)
    (hdigest : o.digests → ∀ {d}, I d → ∀ digest, I { d with digest })
    (hfill : o.refills → ∀ {d}, I d → I (d.setRack (d.rack.fill d.settings)))
    (hempty : ∀ i, o.writes (Rack.unit i) → ∀ {d}, J d →
      J (d.setRack ((d.rack.eject i).setDisk i {})))
    (hassign : ∀ i, o.writes (Rack.unit i) → ∀ {d}, J d → ∀ filename host mode,
      J (d.setRack (d.rack.assign i (.assigned filename host mode)))) :
    Keeps I o.perform :=
  h.toCalm.perform o hother (fun ho => h.keeps_images ho hfill) hdigest hfill hempty hassign

end Steady

namespace Hosted

variable {I J : Device W R D → Prop} (h : Hosted I J)
include h

theorem keeps_nameHost (slot : UInt8) (name : String) : Keeps I (Device.nameHost slot name) :=
  Keeps.bind (Keeps.lift _) fun i => h.keeps_saved fun hd => h.rename hd i name

theorem keeps_replaceHostnames (payload : Bytes) : Keeps I (Device.replaceHostnames payload) := by
  unfold Device.replaceHostnames
  refine Keeps.bind (Keeps.lift _) fun names => h.keeps_saved fun {d} hd => ?_
  refine List.foldlRecOn ((List.finRange 8).zip names) renameIfChanged
    (motive := fun r => J (d.setRack r)) hd fun r hr entry _ => ?_
  unfold renameIfChanged
  split
  · exact hr
  · exact h.rename hr entry.1 entry.2

/-- **An operation on mounted hosts or their listings** keeps what hosts keep, except perhaps one
that opens a listing. -/
theorem keeps_hosts [KeyStorage W] {o : Operation} (ho : o.handlesHosts)
    (hopen : ∀ slot path pattern, o = .openDirectory slot path pattern → Keeps I o.perform) :
    Keeps I o.perform := by
  cases o with
  | unmountHost slot => exact ends_unmountHost id fun i _ hd => h.disconnect hd i
  | nameHost slot name => exact h.keeps_nameHost slot name
  | replaceHostnames payload => exact h.keeps_replaceHostnames payload
  | openDirectory slot path pattern => exact hopen slot path pattern rfl
  | readDirectory limit options =>
    exact Keeps.bind_pure (ends_onRack fun d => (h.follow d).readDirectory limit options)
  | directoryPosition =>
    exact Keeps.bind_pure (ends_onRack fun d => (h.follow d).directoryPosition)
  | seekDirectory position => exact ends_onRack fun d => (h.follow d).seekDirectory position
  | closeDirectory => exact keeps_iff.2 fun d hd => h.close hd
  | _ => cases ho

end Hosted

namespace Carried

variable {I J : Device W R D → Prop} (h : Carried I J)
include h

theorem calm : Calm I J where
  weaken := h.weaken
  connect := h.before.bears.connect
  aside := h.aside
  wifi := h.wifi
  boot := h.boot
  switch := h.switch
  save := h.save

/-- What is carried is steady. -/
theorem steady : Steady I J where
  toCalm := h.calm
  openImage := h.before.bears.openImage
  during := h.during.bears
  load := h.load

/-- What is carried withstands what is done to hosts. -/
theorem hosted : Hosted I J where
  toCalm := h.calm
  disconnect {d} hd i := by
    have hleft : I (d.setRack (d.rack.leave i)) := by
      unfold Rack.leave
      split
      · exact h.close hd
      · exact hd
    obtain ⟨w, hw, hc⟩ := Rack.after_disconnect i (d.rack.leave i)
    rw [hc]
    exact h.unmount (h.before.storage hleft hw) (d.rack.openOn_leave i)
  close := h.close
  follow := h.follow
  rename := h.rename

/-- **An operation that does not handle keys keeps what is carried**, except perhaps one that opens
a listing, if it digests, fills the slots or writes a disk slot only where that is harmless. -/
theorem perform [KeyStorage W] (o : Operation) (hkey : ¬o.handlesKeys)
    (hopen : ∀ slot path pattern, o = .openDirectory slot path pattern → Keeps I o.perform)
    (hdigest : o.digests → ∀ {d}, I d → ∀ digest, I { d with digest })
    (hfill : o.refills → ∀ {d}, I d → I (d.setRack (d.rack.fill d.settings)))
    (hempty : ∀ i, o.writes (Rack.unit i) → ∀ {d}, J d →
      J (d.setRack ((d.rack.eject i).setDisk i {})))
    (hassign : ∀ i, o.writes (Rack.unit i) → ∀ {d}, J d → ∀ filename host mode,
      J (d.setRack (d.rack.assign i (.assigned filename host mode)))) :
    Keeps I o.perform :=
  h.steady.perform o (fun ho => h.hosted.keeps_hosts (ho.resolve_right hkey) hopen) hdigest hfill
    hempty hassign

end Carried

variable [KeyStorage W]

section WriteKey

variable (data : Bytes) (d : Device W R D)

omit [HostStorage W R] [SettingsStore W] [DriveBay D]

/-- **A write ends the key session**, whatever becomes of it, and beyond that touches the storage
alone. -/
theorem writeKey_apply :
    (do let _ ← onKeySession (KeySession.write data) : Action (Device W R D) Unit) d =
      match KeySession.writeFile d.appKey data d.rack.storage with
      | .ok _ w => .ok () ({ d with appKey := d.appKey.closed }.setRack (d.rack.setStorage w))
      | .error e w =>
        .error e ({ d with appKey := d.appKey.closed }.setRack (d.rack.setStorage w)) := by
  have hwrite : KeySession.write data d.keySession =
      Action.on KeySession.card (fun card s => { s with card })
        (KeySession.writeFile d.appKey data) ⟨d.appKey.closed, d.rack.storage⟩ := by
    unfold KeySession.write
    simp only [bind_apply, get_apply, modify_apply]
    rfl
  rw [bind_apply]
  unfold onKeySession Action.on at *
  rw [hwrite]
  rcases KeySession.writeFile d.appKey data d.rack.storage with ⟨n, w⟩ | ⟨e, w⟩ <;> rfl

theorem after_writeKey :
    (do let _ ← onKeySession (KeySession.write data) : Action (Device W R D) Unit).after d =
      { d with appKey := d.appKey.closed }.setRack
        (d.rack.setStorage ((KeySession.writeFile d.appKey data).after d.rack.storage)) := by
  unfold after
  rw [writeKey_apply]
  rcases KeySession.writeFile d.appKey data d.rack.storage with ⟨n, w⟩ | ⟨e, w⟩ <;> rfl

end WriteKey

section Operations

variable {I : Device W R D → Prop}

/-- **An operation on keys** changes which key is open, and beyond that only the storage, when it
writes the file of the key. -/
theorem keeps_keys {o : Operation} (ho : o.handlesKeys)
    (hkey : ∀ {d}, I d → ∀ appKey, I { d with appKey })
    (hwrite : ∀ {d}, I d → ∀ data, I (d.setRack (d.rack.setStorage
      ((KeySession.writeFile d.appKey data).after d.rack.storage)))) : Keeps I o.perform := by
  cases o with
  | openKey key => exact keeps_iff.2 fun d hd => hkey hd key
  | writeKey data =>
    refine keeps_iff.2 fun d hd => ?_
    unfold Operation.perform
    rw [after_writeKey]
    exact hkey (hwrite hd data) d.appKey.closed
  | closeKey => exact keeps_iff.2 fun d hd => hkey hd d.appKey.closed
  | _ => cases ho

/-- Opening a directory keeps a predicate that does not look at listings. -/
theorem keeps_openDirectory
    (h : ∀ {d r}, I d → Rack.SameButListings d.rack r → I (d.setRack r)) (slot : UInt8)
    (path : String) (pattern : Option String) :
    Keeps I (Operation.openDirectory slot path pattern).perform :=
  ends_onRack fun d => keeps_iff.2 fun r hd =>
    h (d := d.setRack r) hd (.openDirectory slot path pattern r)

end Operations

namespace Sustained

variable {I J : Device W R D → Prop} (h : Sustained I J)
include h

/-- **An operation keeps what is sustained**, except perhaps one that opens a listing, if it
digests, fills the slots or writes a disk slot only where that is harmless. -/
theorem perform (o : Operation)
    (hopen : ∀ slot path pattern, o = .openDirectory slot path pattern → Keeps I o.perform)
    (hdigest : o.digests → ∀ {d}, I d → ∀ digest, I { d with digest })
    (hfill : o.refills → ∀ {d}, I d → I (d.setRack (d.rack.fill d.settings)))
    (hempty : ∀ i, o.writes (Rack.unit i) → ∀ {d}, J d →
      J (d.setRack ((d.rack.eject i).setDisk i {})))
    (hassign : ∀ i, o.writes (Rack.unit i) → ∀ {d}, J d → ∀ filename host mode,
      J (d.setRack (d.rack.assign i (.assigned filename host mode)))) :
    Keeps I o.perform := by
  by_cases hkey : o.handlesKeys
  · exact keeps_keys hkey (fun hd key => h.key hd key .nothing) fun {d} hd data =>
      h.key hd d.appKey (used_writeFile d.appKey data d.rack.storage)
  · exact h.toCarried.perform o hkey hopen hdigest hfill hempty hassign

end Sustained

/-- **An operation keeps what is upheld**, except perhaps the one that opens a listing. -/
theorem Upheld.perform {I J : Device W R D → Prop} (h : Upheld I J) (o : Operation)
    (hopen : ∀ slot path pattern, o = .openDirectory slot path pattern → Keeps I o.perform) :
    Keeps I o.perform :=
  h.toSustained.perform o hopen (fun _ _ => h.digest) (fun _ _ => h.fill)
    (fun i _ _ hd => h.empty hd i) fun i _ _ hd => h.assign hd i

end StorageAdapter
