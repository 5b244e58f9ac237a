import StorageAdapter.Proofs.SettingsFile
import StorageAdapter.Proofs.SlotBlocks

/-! # Writing the block of disk slots

A client replaces all disk slots at once. The size of its block and the host byte of every record
are checked before the first slot is touched (`DeviceBlock.Valid`), and every filename is short
enough for its slot, since a field of 36 bytes never holds more than 144 bytes of text. So a block
is refused and nothing happens (`replaceDisks_of_not_valid`), or every slot is pointed at the file
of its record (`replaceDisks_of_valid`), and then only saving the settings may still fail
(`disk_block_all_or_nothing`). -/

namespace StorageAdapter

open StorageAdapter.Action StorageAdapter.Device

/-! ### Errors -/

/-- A command is refused for what it asks. -/
def Error.IsRefusal (e : Error) : Prop :=
  (∃ what, e = .parameter what) ∨ ∃ kind index, e = .slotRange kind index

/-- The action refuses what it is asked in this state. -/
def Action.Refuses {σ α : Type} (act : Action σ α) (s : σ) : Prop :=
  ∃ e, e.IsRefusal ∧ act.outcome s = .error e

/-- Saving only ever fails because the storage does. -/
def FailsInStorage (W : Type) [SettingsStore W] : Prop :=
  ∀ (settings : Settings) (w v : W) (e : Error),
    SettingsStore.save settings w = .error e v → ∃ what, e = .io what

theorem Error.not_isRefusal_io (what : String) : ¬(Error.io what).IsRefusal := by
  rintro (⟨_, h⟩ | ⟨_, _, h⟩) <;> cases h

theorem Memory.failsInStorage : FailsInStorage Memory.Storage := by
  intro settings w v e h
  have h : (Memory.Storage.save settings) w = .error e v := h
  unfold Memory.Storage.save at h
  rw [bind_apply, get_apply] at h
  simp only at h
  split at h <;> cases h
  exact ⟨_, rfl⟩

theorem Folder.failsInStorage : FailsInStorage Folder.Storage := by
  intro settings s v e h
  have h : Folder.Storage.save settings s = .error e v := h
  rw [Folder.Storage.save_eq] at h
  split at h
  · cases h
    exact ⟨_, rfl⟩
  · split at h <;> cases h
    exact ⟨_, rfl⟩

/-! ### Records -/

theorem DeviceRecord.hasHost_iff {r : DeviceRecord} :
    r.HasHost ↔ r.hostSlot.toNat < 8 ∨ r.hostSlot = noHost := by
  constructor
  · intro h
    by_contra hn
    obtain ⟨hlarge, hne⟩ := not_or.1 hn
    unfold HasHost hostOfByte Rack.hostIndex at h
    rw [if_neg hne, Option.mapM_some, Rack.slotIndex_of_le .host (Nat.not_lt.1 hlarge)] at h
    cases h
  · rintro (h | h)
    · have hne : r.hostSlot ≠ noHost := by
        intro hb
        rw [hb] at h
        revert h
        decide
      refine hasHost_of_ok (h := some ⟨r.hostSlot.toNat, h⟩) ?_
      unfold hostOfByte Rack.hostIndex
      rw [if_neg hne, Option.mapM_some, Rack.slotIndex_of_lt .host h]
      rfl
    · refine hasHost_of_ok (h := none) ?_
      unfold hostOfByte
      rw [if_pos h]
      rfl

namespace DeviceBlock

/-- The record of a slot in a block. -/
def record (payload : Bytes) (i : Fin 8) : DeviceRecord :=
  ⟨payload.getD (38 * i) 0, payload.getD (38 * i + 1) 0,
    Text.ofField ((payload.drop (38 * i + 2)).take 36)⟩

/-- The block has its size, and the host byte of every record stands for a host slot or for none. -/
structure Valid (payload : Bytes) : Prop where
  length : payload.length = 304
  host : ∀ i : Fin 8, (payload.getD (38 * i) 0).toNat < 8 ∨ payload.getD (38 * i) 0 = 0xFF

instance (payload : Bytes) : Decidable (Valid payload) :=
  decidable_of_iff (payload.length = 304 ∧
    ∀ i : Fin 8, (payload.getD (38 * i) 0).toNat < 8 ∨ payload.getD (38 * i) 0 = 0xFF)
    ⟨fun h => ⟨h.1, h.2⟩, fun h => ⟨h.length, h.host⟩⟩

theorem decodeRecord_piece (payload : Bytes) (i : Fin 8) :
    decodeRecord ((payload.drop (38 * i)).take 38) = record payload i := by
  have hbyte (n : Nat) (hn : n < 38) :
      ((payload.drop (38 * i)).take 38).getD n 0 = payload.getD (38 * i + n) 0 := by
    simp [List.getD_eq_getElem?_getD, hn]
  unfold decodeRecord record
  rw [hbyte 0 (by omega), hbyte 1 (by omega), List.drop_take, List.drop_drop]
  rfl

theorem decode_of_length {payload : Bytes} (h : payload.length = 304) :
    decode payload = .ok ((List.finRange 8).map (record payload)) := by
  have hpieces : (Bytes.pieces recordSize 8 payload).map decodeRecord =
      (List.finRange 8).map (record payload) := by
    rw [Bytes.pieces_eq, List.map_map]
    exact List.map_congr_left fun i _ => decodeRecord_piece payload i
  rw [← hpieces]
  exact if_pos h

theorem size_filename_record (payload : Bytes) (i : Fin 8) :
    Text.size (record payload i).filename ≤ DiskSlot.filenameLimit := by
  have hsize := Text.size_ofField_le ((payload.drop (38 * i + 2)).take 36)
  have htake := List.length_take_le 36 (payload.drop (38 * i + 2))
  show Text.size (Text.ofField _) ≤ 255
  omega

theorem valid_iff {payload : Bytes} :
    Valid payload ↔ payload.length = 304 ∧ ∀ i, (record payload i).HasHost := by
  constructor
  · exact fun h => ⟨h.length, fun i => DeviceRecord.hasHost_iff.2 (h.host i)⟩
  · exact fun h => ⟨h.1, fun i => DeviceRecord.hasHost_iff.1 (h.2 i)⟩

end DeviceBlock

/-- **A slot that is pointed at the file of a record** has its filename and its mode, and its host
unless the filename is empty. -/
theorem DiskSlot.ofRecord_record (payload : Bytes) (i : Fin 8) :
    let r := DeviceBlock.record payload i
    let s := ofRecord r
    s.filename = r.filename ∧ s.hostSlot = (if r.filename = "" then none else r.host?) ∧
      s.mode = AccessMode.ofByte r.mode ∧ s.image = none :=
  ⟨Text.clip_of_size_le (DeviceBlock.size_filename_record payload i), rfl, rfl, rfl⟩

theorem DeviceRecord.unit_host? {r : DeviceRecord} (h : r.HasHost) :
    r.host?.map Rack.unit = if r.hostSlot = noHost then none else some r.hostSlot := by
  unfold host? hostOfByte
  by_cases hb : r.hostSlot = noHost
  · rw [if_pos hb]
    rfl
  · have hlt : r.hostSlot.toNat < 8 := (hasHost_iff.1 h).resolve_right hb
    have hunit : Rack.unit ⟨r.hostSlot.toNat, hlt⟩ = r.hostSlot := UInt8.ofNat_toNat
    rw [if_neg hb, Option.bind_some, Rack.hostIndex, Rack.slotIndex_of_lt .host hlt]
    exact congrArg some hunit

/-! ### Writing a block -/

variable {W R D : Type} [DriveBay D] [SettingsStore W]

/-- **A valid block** points all slots at the files of their records, and then saves that. -/
theorem replaceDisks_of_valid {payload : Bytes} (h : DeviceBlock.Valid payload)
    (d : Device W R D) : replaceDisks payload d = Device.save (d.setRack (d.rack.assignRecords
      ((List.finRange 8).map fun i => (i, DeviceBlock.record payload i)))) := by
  obtain ⟨hlength, hhost⟩ := DeviceBlock.valid_iff.1 h
  have hrecords : ∀ r ∈ (List.finRange 8).map (DeviceBlock.record payload), r.HasHost := by
    intro r hr
    obtain ⟨i, -, rfl⟩ := List.mem_map.1 hr
    exact hhost i
  rw [replaceDisks_apply (DeviceBlock.decode_of_length hlength) hrecords, Slots.zip_finRange]

/-- **Any other block** is refused before anything happens. -/
theorem replaceDisks_of_not_valid {payload : Bytes} (h : ¬DeviceBlock.Valid payload)
    (d : Device W R D) : ∃ e, e.IsRefusal ∧ replaceDisks payload d = .error e d := by
  unfold replaceDisks
  by_cases hlength : payload.length = 304
  · rw [DeviceBlock.decode_of_length hlength, lift_ok_bind]
    rcases hhosts : (((List.finRange 8).map (DeviceBlock.record payload)).mapM fun r =>
      (hostOfByte r.hostSlot).mapM Rack.hostIndex : Except Error (List (Option (Fin 8)))) with
      e | checked
    · obtain ⟨r, -, hr⟩ := exists_error_of_mapM hhosts
      refine ⟨e, .inr ?_, by rw [hhosts]; rfl⟩
      unfold Rack.hostIndex Rack.slotIndex at hr
      rcases hb : hostOfByte r.hostSlot with _ | b
      · rw [hb] at hr
        cases hr
      · rw [hb, Option.mapM_some] at hr
        split at hr <;> cases hr
        exact ⟨_, _, rfl⟩
    · refine absurd (DeviceBlock.valid_iff.2 ⟨hlength, fun i => ?_⟩) h
      obtain ⟨host, hok⟩ := exists_ok_of_mapM hhosts _ (List.mem_map_of_mem (List.mem_finRange i))
      exact DeviceRecord.hasHost_of_ok hok
  · have hdecode : DeviceBlock.decode payload = .error .payloadSize := if_neg hlength
    rw [hdecode]
    exact ⟨_, .inl ⟨_, rfl⟩, rfl⟩

/-- The device after a valid block: the settings are saved once, and nothing is changed but the
disk slots, the drives, the settings and what saving changes. -/
theorem after_replaceDisks {payload : Bytes} (h : DeviceBlock.Valid payload) (d : Device W R D) :
    let write : Action (Device W R D) Unit := replaceDisks payload
    let e := write.after d
    (∀ i, e.rack.disks.get i = .ofRecord (DeviceBlock.record payload i)) ∧
      e.settings = e.currentSettings ∧
      e.rack.storage = (SettingsStore.save e.settings).after d.rack.storage ∧
      write.outcome d = (SettingsStore.save e.settings).outcome d.rack.storage ∧
      e = { d with settings := e.settings }.setRack { d.rack with
        storage := e.rack.storage, drives := e.rack.drives, disks := e.rack.disks } := by
  have hdisks := d.rack.disks_assignRecords (DeviceBlock.record payload)
  have hrack := d.rack.assignRecords_eq
    ((List.finRange 8).map fun i => (i, DeviceBlock.record payload i))
  obtain ⟨hsettings, hstorage, houtcome, hframe⟩ := saved_once (replaceDisks_of_valid h d)
  generalize d.rack.assignRecords _ = r at *
  obtain ⟨drives, disks, rfl⟩ := hrack
  refine ⟨fun i => ?_, hsettings, hstorage, houtcome, hframe.trans ?_⟩
  · rw [hframe]
    exact hdisks i
  · rw [hframe]
    rfl

/-- **A block of disk slots is written as a whole or not at all.** Whatever the state and the block
are, if the storage fails to save only with its own errors:

If writing the block is refused, nothing changes at all. It is refused if and only if the block does
not have 304 bytes or the host byte of a record is neither below 8 nor `0xFF`.

If it is not refused, every slot is unmounted and has the filename of its record up to the first
NUL, whatever its bytes are, the host of its record unless that is none or the filename is empty,
and the mode of its record, which is for writing only if its byte is 2. The settings are then saved
once, with these slots, and an error can only be the one that saving ends with. Beyond that only the
drives change. -/
theorem disk_block_all_or_nothing (hfails : FailsInStorage W) (payload : Bytes)
    (d : Device W R D) :
    let write : Action (Device W R D) Unit := replaceDisks payload
    let e := write.after d
    (write.Refuses d ↔ ¬DeviceBlock.Valid payload) ∧
    (write.Refuses d → e = d) ∧
    (¬write.Refuses d → DeviceBlock.Valid payload ∧
      (∀ i : Fin 8, let s := e.rack.disks.get i
        s.image = none ∧ s.filename = Text.ofField ((payload.drop (38 * i + 2)).take 36) ∧
        s.hostSlot.map Rack.unit = (if payload.getD (38 * i) 0 = 0xFF ∨ s.filename = "" then none
          else some (payload.getD (38 * i) 0)) ∧
        s.mode = (if payload.getD (38 * i + 1) 0 = 2 then .readWrite else .read)) ∧
      e.settings = e.currentSettings ∧
      e.rack.storage = (SettingsStore.save e.settings).after d.rack.storage ∧
      write.outcome d = (SettingsStore.save e.settings).outcome d.rack.storage ∧
      (∀ err, write.outcome d = .error err → ∃ what, err = .io what) ∧
      e = { d with settings := e.settings }.setRack { d.rack with
        storage := e.rack.storage, drives := e.rack.drives, disks := e.rack.disks }) := by
  intro write e
  by_cases hvalid : DeviceBlock.Valid payload
  · obtain ⟨hdisks, hsettings, hstorage, houtcome, hframe⟩ := after_replaceDisks hvalid d
    have hio : ∀ err, write.outcome d = .error err → ∃ what, err = .io what := by
      intro err herr
      exact hfails _ _ _ _ (eq_error_of_outcome (houtcome.symm.trans herr))
    have haccepted : ¬write.Refuses d := by
      rintro ⟨err, hrefusal, herr⟩
      obtain ⟨what, rfl⟩ := hio err herr
      exact Error.not_isRefusal_io what hrefusal
    refine ⟨⟨fun h => absurd h haccepted, fun h => absurd hvalid h⟩, fun h => absurd h haccepted,
      fun _ => ⟨hvalid, fun i => ?_, hsettings, hstorage, houtcome, hio, hframe⟩⟩
    intro s
    obtain ⟨hfilename, hhost, hmode, himage⟩ := DiskSlot.ofRecord_record payload i
    have hs : s = .ofRecord (DeviceBlock.record payload i) := hdisks i
    rw [hs]
    refine ⟨himage, hfilename, ?_, hmode⟩
    have hunit := DeviceRecord.unit_host? ((DeviceBlock.valid_iff.1 hvalid).2 i)
    rw [hhost, hfilename]
    by_cases hempty : (DeviceBlock.record payload i).filename = ""
    · rw [if_pos hempty, if_pos (.inr hempty)]
      rfl
    · simp only [hempty, or_false]
      exact hunit
  · obtain ⟨err, hrefusal, hwrite⟩ := replaceDisks_of_not_valid hvalid d
    have hrefused : write.Refuses d := by
      refine ⟨err, hrefusal, ?_⟩
      unfold outcome
      rw [show write d = .error err d from hwrite]
    exact ⟨⟨fun _ => hvalid, fun _ => hrefused⟩, fun _ => after_of_error hwrite,
      fun h => absurd hrefused h⟩

/-- A block of seven records with filenames that are no text, and one without a filename that has
this host byte. -/
def noTextBlock (host : UInt8) : Bytes :=
  (List.replicate 7 (3 :: 2 :: List.replicate 36 0xFF)).flatten ++
    host :: 0 :: List.replicate 36 0

/-- A filename of 36 bytes that are no text becomes 108 bytes of text and is kept whole. With a
wrong host byte in the last record, none of the slots is written. -/
theorem disk_block_all_or_nothing_no_text :
    let d : Memory.Adapter := Memory.Surroundings.start {}
    let disks := ((replaceDisks (noTextBlock 0xFF)).after d).rack.disks
    (disks.get 0).filename = String.ofList (List.replicate 36 '\ufffd') ∧
      (disks.get 0).mode = .readWrite ∧ (disks.get 7).hostSlot.map Rack.unit = none ∧
      (replaceDisks (noTextBlock 8)).Refuses d ∧ (replaceDisks (noTextBlock 8)).after d = d := by
  intro d disks
  have hvalid : DeviceBlock.Valid (noTextBlock 0xFF) := by decide +kernel
  have hwrong : ¬DeviceBlock.Valid (noTextBlock 8) := by decide +kernel
  obtain ⟨hiff, -, hwritten⟩ :=
    disk_block_all_or_nothing Memory.failsInStorage (noTextBlock 0xFF) d
  obtain ⟨-, hslots, -⟩ := hwritten fun h => hiff.1 h hvalid
  obtain ⟨-, hfilename, -, hmode⟩ := hslots 0
  obtain ⟨-, -, hhost, -⟩ := hslots 7
  obtain ⟨hiff', hunchanged, -⟩ := disk_block_all_or_nothing Memory.failsInStorage (noTextBlock 8) d
  have hrefused : (replaceDisks (noTextBlock 8)).Refuses d := hiff'.2 hwrong
  have htext : Text.ofField (((noTextBlock 0xFF).drop (38 * (0 : Fin 8) + 2)).take 36) =
      String.ofList (List.replicate 36 '\ufffd') := by
    decide +kernel
  have hbyte : (noTextBlock 0xFF).getD (38 * (0 : Fin 8) + 1) 0 = 2 := by decide +kernel
  have hnone : (noTextBlock 0xFF).getD (38 * (7 : Fin 8)) 0 = 0xFF := by decide +kernel
  rw [htext] at hfilename
  rw [if_pos hbyte] at hmode
  rw [if_pos (.inl hnone)] at hhost
  exact ⟨hfilename, hmode, hhost, hrefused, hunchanged hrefused⟩

end StorageAdapter
