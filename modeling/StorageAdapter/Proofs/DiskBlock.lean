import StorageAdapter.Memory.Adapter
import StorageAdapter.Proofs.FrontEnds
import StorageAdapter.Proofs.SlotTables

/-! # The block of disk slots

All disk slots are read and written as one block of records. A record has room for the first 36
bytes of a path, up to a NUL; so what is read from a block is what it shows of each slot
(`decode_encode`). Writing a block points every slot at the file of its record and saves that
(`replaceDisks_apply`). Together, a client that writes back the block that it has read leaves all
slots as they were whose paths fit their fields, and cuts the other paths (`block_written_back`). -/

namespace StorageAdapter

open StorageAdapter.Action StorageAdapter.Device

/-! ### Fields and pieces -/

namespace Bytes

theorem beforeNul_zeros (n : Nat) : beforeNul (List.replicate n 0) = [] := by
  cases n <;> rfl

theorem beforeNul_append_zeros (xs : Bytes) (n : Nat) :
    beforeNul (xs ++ List.replicate n 0) = xs.beforeNul := by
  induction xs with
  | nil => exact beforeNul_zeros n
  | cons x xs ih =>
    unfold beforeNul at ih ⊢
    rw [List.cons_append, List.takeWhile_cons, List.takeWhile_cons, ih]

/-- What a field is filled up with is not read. -/
theorem ofField_padded (width : Nat) (bs : Bytes) :
    Text.ofField (padded width bs) = Text.ofField (bs.take width) := by
  unfold Text.ofField padded
  rw [beforeNul_append_zeros]

theorem length_flatMap {α : Type} {width : Nat} {f : α → Bytes} (hf : ∀ a, (f a).length = width)
    (l : List α) : (l.flatMap f).length = width * l.length := by
  induction l with
  | nil => rfl
  | cons a l ih =>
    rw [List.flatMap_cons, List.length_append, hf, ih, List.length_cons, Nat.mul_succ]
    omega

/-- **Pieces of one width are told apart again.** -/
theorem pieces_flatMap {α : Type} {width : Nat} {f : α → Bytes} (hf : ∀ a, (f a).length = width)
    (l : List α) : pieces width l.length (l.flatMap f) = l.map f := by
  induction l with
  | nil => rfl
  | cons a l ih =>
    rw [List.flatMap_cons, List.length_cons, pieces, List.take_left' (hf a),
      List.drop_left' (hf a), ih, List.map_cons]

end Bytes

/-! ### Records in a block -/

namespace DeviceRecord

/-- What a block shows of a record: of the filename, the part before a NUL that fits its field. -/
def shown (r : DeviceRecord) : DeviceRecord :=
  { r with filename := Text.ofField ((Text.encode r.filename).take DeviceBlock.filenameWidth) }

@[simp] theorem hostSlot_shown (r : DeviceRecord) : r.shown.hostSlot = r.hostSlot := rfl

theorem host?_shown (r : DeviceRecord) : r.shown.host? = r.host? := by
  unfold host?
  rw [hostSlot_shown]

theorem HasHost.shown {r : DeviceRecord} (h : r.HasHost) : r.shown.HasHost := by
  unfold HasHost at h ⊢
  rw [hostSlot_shown, host?_shown, h]

/-- The filename fits its field and can be told from what that is filled up with. -/
structure Fits (r : DeviceRecord) : Prop where
  size : Text.size r.filename ≤ DeviceBlock.filenameWidth
  nul_notMem : '\x00' ∉ r.filename.toList

/-- **A filename that fits is shown as it is.** -/
theorem Fits.shown_eq {r : DeviceRecord} (h : r.Fits) : r.shown = r := by
  have hnul : 0 ∉ Text.encode r.filename :=
    mt (Text.mem_of_mem_encode (c := '\x00') (by decide)) h.nul_notMem
  unfold shown Text.ofField
  rw [List.take_of_length_le h.size, Text.beforeNul_of_notMem hnul, Text.decodeLossy_encode]

theorem size_shown_le (r : DeviceRecord) : Text.size r.shown.filename ≤ DiskSlot.filenameLimit := by
  have hsize := Text.size_ofField_le ((Text.encode r.filename).take DeviceBlock.filenameWidth)
  have htake := List.length_take_le DeviceBlock.filenameWidth (Text.encode r.filename)
  have hwidth : 4 * DeviceBlock.filenameWidth ≤ DiskSlot.filenameLimit := by decide
  show Text.size (Text.ofField _) ≤ _
  omega

end DeviceRecord

namespace DeviceBlock

theorem length_encodeRecord (r : DeviceRecord) : (encodeRecord r).length = recordSize := by
  unfold encodeRecord
  rw [List.length_cons, List.length_cons, Bytes.length_padded]
  rfl

/-- **A record is read back as it is shown.** -/
theorem decodeRecord_encodeRecord (r : DeviceRecord) : decodeRecord (encodeRecord r) = r.shown := by
  show (⟨r.hostSlot, r.mode, Text.ofField (Bytes.padded filenameWidth (Text.encode r.filename))⟩ :
    DeviceRecord) = _
  rw [Bytes.ofField_padded]
  rfl

theorem length_encode {records : List DeviceRecord} (h : records.length = 8) :
    (encode records).length = size := by
  unfold encode
  rw [List.take_of_length_le (Nat.le_of_eq h), Bytes.length_flatMap length_encodeRecord, h]
  rfl

/-- **A block is read back as it shows its records.** -/
theorem decode_encode {records : List DeviceRecord} (h : records.length = 8) :
    decode (encode records) = .ok (records.map DeviceRecord.shown) := by
  have hpieces := Bytes.pieces_flatMap length_encodeRecord records
  rw [h] at hpieces
  have hread : records.map (decodeRecord ∘ encodeRecord) = records.map DeviceRecord.shown :=
    List.map_congr_left fun r _ => decodeRecord_encodeRecord r
  unfold decode
  rw [if_pos (length_encode h)]
  unfold encode
  rw [List.take_of_length_le (Nat.le_of_eq h), hpieces, List.map_map, hread]

end DeviceBlock

/-! ### Writing a block -/

variable {W R D : Type}

section Assigning

variable [DriveBay D]

/-- With a record for each slot, every slot is pointed at the file of its own. -/
theorem Rack.disks_assignRecords (f : Fin 8 → DeviceRecord) (r : Rack W R D) (i : Fin 8) :
    ((r.assignRecords ((List.finRange 8).map fun i => (i, f i))).disks.get i) =
      .ofRecord (f i) := by
  have hassigned (r : Rack W R D) (i : Fin 8) (d : DiskSlot) :
      (r.assign i d).disks = r.disks.set i d := by
    obtain ⟨drives, hr⟩ := assign_eq i d r
    rw [hr]
  unfold assignRecords
  rw [List.foldl_map]
  -- every slot is written once, and none but its own
  refine Slots.get_foldl_finRange (fun (r : Rack W R D) i => r.disks.get i)
    (fun r i => r.assign i (.ofRecord (f i))) (fun i _ => .ofRecord (f i)) (fun r i => ?_)
    (fun r i j hj => ?_) r i
  · show ((r.assign i _).disks.get i) = _
    rw [hassigned, Slots.get_set_self]
  · show ((r.assign i _).disks.get j) = _
    rw [hassigned, Slots.get_set_of_ne _ hj]

/-- Pointing disk slots at files changes them and the drives. -/
theorem Rack.assignRecords_eq (entries : List (Fin 8 × DeviceRecord)) (r : Rack W R D) :
    ∃ drives disks, r.assignRecords entries = { r with drives, disks } := by
  refine List.foldlRecOn entries _ (motive := fun s : Rack W R D =>
    ∃ drives disks, s = { r with drives, disks }) ⟨r.drives, r.disks, rfl⟩ ?_
  rintro s ⟨drives, disks, rfl⟩ e -
  obtain ⟨drives', hr⟩ := assign_eq e.1 (.ofRecord e.2) { r with drives, disks }
  exact ⟨drives', _, hr⟩

/-- Pointing disk slots at files leaves the storage alone. -/
theorem Rack.storage_assignRecords (entries : List (Fin 8 × DeviceRecord)) (r : Rack W R D) :
    (r.assignRecords entries).storage = r.storage := by
  obtain ⟨drives, disks, hr⟩ := r.assignRecords_eq entries
  rw [hr]

end Assigning

/-! ### Writing back what was read -/

theorem AccessMode.ofByte_toByte (m : AccessMode) : ofByte m.toByte = m := by
  cases m <;> rfl

/-- The host of a slot is read back from its record. -/
theorem DiskSlot.hostIndex_record (s : DiskSlot) :
    (hostOfByte s.record.hostSlot).mapM Rack.hostIndex = (.ok s.hostSlot : Except Error _) := by
  show (hostOfByte s.hostByte).mapM (Rack.slotIndex .host) = _
  unfold hostByte
  rcases s.hostSlot with _ | i
  · rfl
  · have hne : Rack.unit i ≠ DeviceRecord.noHost := by
      intro h
      have hi := Rack.toNat_unit i
      have hnone : DeviceRecord.noHost.toNat = 255 := rfl
      rw [h] at hi
      omega
    show (hostOfByte (Rack.unit i)).mapM (Rack.slotIndex .host) = _
    unfold hostOfByte
    rw [if_neg hne, Option.mapM_some, Rack.slotIndex_unit]
    rfl

theorem DiskSlot.hasHost_record (s : DiskSlot) : s.record.HasHost :=
  DeviceRecord.hasHost_of_ok s.hostIndex_record

theorem DiskSlot.host?_record (s : DiskSlot) : s.record.host? = s.hostSlot :=
  Except.ok.inj (s.hasHost_record.symm.trans s.hostIndex_record)

/-- **A slot that is pointed at the file of what its record shows** keeps its mode, its filename if
that fits, and its host unless nothing is left of the filename. -/
theorem DiskSlot.ofRecord_shown (s : DiskSlot) :
    ofRecord s.record.shown =
      { filename := s.record.shown.filename
        hostSlot := if s.record.shown.filename = "" then none else s.hostSlot
        mode := s.mode } := by
  have hclip := Text.clip_of_size_le s.record.size_shown_le
  have hhost : s.record.shown.host? = s.hostSlot := by
    rw [DeviceRecord.host?_shown, s.host?_record]
  have hmode : AccessMode.ofByte s.record.shown.mode = s.mode := AccessMode.ofByte_toByte s.mode
  unfold ofRecord assigned
  rw [hclip, hhost, hmode]

theorem Slots.toList_eq {α : Type} (xs : Slots α) :
    xs.toList = (List.finRange 8).map xs.get :=
  List.ext_getElem (by simp) fun i _ _ => by simp [Slots.get]

/-- Entries in the order of the slots, each with its slot. -/
theorem Slots.zip_finRange {α : Type} (f : Fin 8 → α) :
    (List.finRange 8).zip ((List.finRange 8).map f) = (List.finRange 8).map fun i => (i, f i) := by
  have hzip := List.zip_map' (f := id) (g := f) (l := List.finRange 8)
  rwa [List.map_id] at hzip

/-- The records that a block shows of the rack, each with its slot. -/
def Rack.shownRecords (r : Rack W R D) : List (Fin 8 × DeviceRecord) :=
  (List.finRange 8).map fun i => (i, (r.disks.get i).record.shown)

theorem Rack.zip_shown (r : Rack W R D) :
    (List.finRange 8).zip (r.records.map DeviceRecord.shown) = r.shownRecords := by
  have hrecords : r.records.map DeviceRecord.shown =
      (List.finRange 8).map fun i => (r.disks.get i).record.shown := by
    unfold records
    rw [Slots.toList_eq, List.map_map, List.map_map]
    rfl
  rw [hrecords]
  exact Slots.zip_finRange _

section WritingBack

variable [DriveBay D] [SettingsStore W]

/-- **Writing back its own block** points every slot at the file of what its record shows. -/
theorem replaceDisks_diskBlock (d : Device W R D) : replaceDisks d.diskBlock d =
    Device.save (d.setRack (d.rack.assignRecords d.rack.shownRecords)) := by
  have hlength : d.rack.records.length = 8 := by simp [Rack.records]
  have hhosts : ∀ r ∈ d.rack.records.map DeviceRecord.shown, r.HasHost := by
    intro r hr
    obtain ⟨record, hrecord, rfl⟩ := List.mem_map.1 hr
    obtain ⟨s, -, rfl⟩ := List.mem_map.1 hrecord
    exact s.hasHost_record.shown
  have hwrite := replaceDisks_apply (DeviceBlock.decode_encode hlength) hhosts d
  rwa [Rack.zip_shown] at hwrite

/-- Writing back its own block leaves a device with the slots as they are shown, and succeeds
unless its settings cannot be saved. -/
theorem outcome_writeBack (d : Device W R D) :
    let x := d.opcodeOutcome (silently (replaceDisks d.diskBlock))
    (∀ i, x.2.rack.disks.get i = .ofRecord (d.rack.disks.get i).record.shown) ∧
      match SettingsStore.save x.2.settings d.rack.storage with
      | .ok _ _ => x.1.status.code = Error.successCode
      | .error e _ => x.1.status.code = e.code ∧ x.1.status.message = e.message := by
  have hdisks := d.rack.disks_assignRecords fun i => (d.rack.disks.get i).record.shown
  have hstorage := d.rack.storage_assignRecords d.rack.shownRecords
  have happly := save_apply (d.setRack (d.rack.assignRecords d.rack.shownRecords))
  rw [← replaceDisks_diskBlock, Device.rack_setRack, hstorage] at happly
  unfold opcodeOutcome silently
  rw [bind_apply, happly]
  rcases hsave : SettingsStore.save (d.setRack (d.rack.assignRecords
    d.rack.shownRecords)).currentSettings d.rack.storage with ⟨u, w⟩ | ⟨e, w⟩
  · refine ⟨hdisks, ?_⟩
    show match SettingsStore.save (d.setRack _).currentSettings d.rack.storage with
      | .ok _ _ => _
      | .error e _ => _
    rw [hsave]
    rfl
  · refine ⟨hdisks, ?_⟩
    show match SettingsStore.save (d.setRack _).currentSettings d.rack.storage with
      | .ok _ _ => _
      | .error e _ => _
    rw [hsave]
    exact ⟨rfl, rfl⟩

end WritingBack

section Frames

variable [HostStorage W R] [SettingsStore W] [KeyStorage W] [DriveBay D] {d : Device W R D}

theorem receive_readBlock (hd : d.pending = .idle) :
    receive (ClientCommand.openFrame .readDeviceSlots) d =
      d.answered .raw d.diskBlock (d.status.succeed "") := by
  have hact : answerOpcode .readDeviceSlots (ClientCommand.openFrame .readDeviceSlots) =
      some (answering diskBlock : Action (Device W R D) Bytes) := rfl
  rw [receive_opcode hact (by decide) (answerOpcode_withNotes (by decide) hact) hd]
  rfl

theorem receive_writeBack (hd : d.pending = .idle) :
    receive d.diskBlock (receive (ClientCommand.openFrame .writeDeviceSlots) d).2 =
      d.opcodeOutcome (silently (replaceDisks d.diskBlock)) := by
  have hlength : d.diskBlock.length = DeviceBlock.size :=
    DeviceBlock.length_encode (by simp [Rack.records])
  have hne : d.diskBlock ≠ [] := fun h => nomatch hlength.symm.trans (congrArg List.length h)
  exact receive_opcodeWithData rfl hne rfl hd

/-- Reads the block of disk slots and writes the same bytes back. -/
def Device.writeBack (d : Device W R D) : Reply × Device W R D :=
  let read := receive (ClientCommand.openFrame .readDeviceSlots) d
  receive read.1.data (receive (ClientCommand.openFrame .writeDeviceSlots) read.2).2

/-- With no command pending, the device writes back its own block. -/
theorem writeBack_eq (hd : d.pending = .idle) : ∃ status, d.writeBack =
    (d.withNotes .idle {} status).opcodeOutcome (silently (replaceDisks d.diskBlock)) := by
  have hread := receive_readBlock hd
  refine ⟨{ d.status.succeed "" with connected := d.radio.connected }, ?_⟩
  unfold writeBack
  simp only [hread]
  exact receive_writeBack (d := d.withNotes .idle {} _) rfl

/-- **Reading the block of disk slots and writing it back loses only what the block does not show.**
In every state of every run of a device that has started, with no command pending, let a client read
the block and write the same bytes back. Every slot keeps its mode. Its filename is cut to its first
36 bytes and ends at a NUL, and it keeps its host unless nothing is left of the filename. So slots
with a filename of at most 36 bytes without a NUL are left as they were. The command succeeds unless
the settings cannot be saved, and then it ends with that error. -/
theorem block_written_back (storage : W) (drives : D) (radio : Radio) (board : Board)
    (digester : Digester) (moves : List (Move W D)) :
    let d : Device W R D := (Device.start storage drives radio board digester).run moves
    d.pending = .idle →
    (∀ i, let s := d.rack.disks.get i
      let t := d.writeBack.2.rack.disks.get i
      t.filename = Text.ofField ((Text.encode s.filename).take 36) ∧ t.mode = s.mode ∧
      t.hostSlot = (if t.filename = "" then none else s.hostSlot) ∧
      (Text.size s.filename ≤ 36 → '\x00' ∉ s.filename.toList →
        t.filename = s.filename ∧ t.hostSlot = s.hostSlot)) ∧
    match SettingsStore.save d.writeBack.2.settings d.rack.storage with
      | .ok _ _ => d.writeBack.1.status.code = Error.successCode
      | .error e _ =>
        d.writeBack.1.status.code = e.code ∧ d.writeBack.1.status.message = e.message := by
  intro d hd
  have hwell : d.rack.WellFormed := wellFormed_run storage drives radio board digester moves
  obtain ⟨status, hback⟩ := writeBack_eq hd
  obtain ⟨hdisks, hsaved⟩ := outcome_writeBack (d.withNotes .idle {} status)
  rw [show (d.withNotes .idle {} status).diskBlock = d.diskBlock from rfl, ← hback] at hdisks hsaved
  refine ⟨fun i => ?_, hsaved⟩
  intro s t
  have ht : t = _ := (hdisks i).trans s.ofRecord_shown
  have hshown : s.record.shown.filename = Text.ofField ((Text.encode s.filename).take 36) := rfl
  refine ⟨by rw [ht, hshown], by rw [ht], by rw [ht], fun hsize hnul => ?_⟩
  have hfits : s.record.Fits := ⟨hsize, hnul⟩
  -- a slot without a filename has no host that could be lost
  have hempty : s.filename = "" → s.hostSlot = none := (hwell.disk i).hostSlot
  rw [ht, hfits.shown_eq]
  refine ⟨rfl, ?_⟩
  show (if s.filename = "" then none else s.hostSlot) = s.hostSlot
  split
  · next h => exact (hempty h).symm
  · rfl

end Frames

/-- A filename that fits its field is kept, and one that does not is cut. -/
theorem block_written_back_two_slots :
    let moves : List (Move Memory.Storage Memory.Drives) :=
      [.frame (Text.encode "SETDRIVEFILENAME:0,3,2,/games/élite.d64"),
        .frame (Text.encode "SETDRIVEFILENAME:7,1,1,/games/01234567890123456789012345.d64")]
    let d : Memory.Adapter := (Memory.Surroundings.start {}).run moves
    d.pending = .idle ∧
      (d.writeBack.2.rack.disks.get 0).filename = "/games/élite.d64" ∧
      (d.writeBack.2.rack.disks.get 0).hostSlot = some 3 ∧
      (d.writeBack.2.rack.disks.get 7).filename = "/games/01234567890123456789012345.d6" := by
  intro moves d
  have hset : d.pending = .idle ∧ (d.rack.disks.get 0).filename = "/games/élite.d64" ∧
      (d.rack.disks.get 0).hostSlot = some 3 ∧
      (d.rack.disks.get 7).filename = "/games/01234567890123456789012345.d64" := by
    decide +kernel
  obtain ⟨hidle, hfirst, hhost, hlast⟩ := hset
  have hslots := (block_written_back ({} : Memory.Storage) ({} : Memory.Drives) {}
    { version := "dummy-0.1.0" } DigestAlgorithm.digest moves hidle).1
  have hkept : Text.size (d.rack.disks.get 0).filename ≤ 36 →
      '\x00' ∉ (d.rack.disks.get 0).filename.toList →
      (d.writeBack.2.rack.disks.get 0).filename = (d.rack.disks.get 0).filename ∧
        (d.writeBack.2.rack.disks.get 0).hostSlot = (d.rack.disks.get 0).hostSlot :=
    (hslots 0).2.2.2
  rw [hfirst, hhost] at hkept
  obtain ⟨hname, hslot⟩ := hkept (by decide +kernel) (by decide +kernel)
  have hcut : (d.writeBack.2.rack.disks.get 7).filename =
    Text.ofField ((Text.encode (d.rack.disks.get 7).filename).take 36) := (hslots 7).1
  rw [hlast] at hcut
  refine ⟨hidle, hname, hslot, hcut.trans ?_⟩
  decide +kernel

/-- A filename of 37 bytes loses its last byte, one that begins with a NUL is lost with its host,
and a block is not written without an error if the settings cannot be saved. -/
theorem block_not_written_back :
    let started : Memory.Adapter := Memory.Surroundings.start {}
    let long := started.move (.frame
      (Text.encode "SETDRIVEFILENAME:0,0,1,/games/01234567890123456789012345.d64"))
    let hidden := started.move (.frame (Text.encode "SETDRIVEFILENAME:0,0,1,\x00a"))
    let failing := started.move
      (.outside (fun w => { w with faults := { w.faults with save := true } }) id id)
    (long.rack.disks.get 0).filename = "/games/01234567890123456789012345.d64" ∧
      (long.writeBack.2.rack.disks.get 0).filename = "/games/01234567890123456789012345.d6" ∧
      (hidden.rack.disks.get 0).filename = "\x00a" ∧
      (hidden.rack.disks.get 0).hostSlot = some 0 ∧
      (hidden.writeBack.2.rack.disks.get 0).filename = "" ∧
      (hidden.writeBack.2.rack.disks.get 0).hostSlot = none ∧
      failing.writeBack.1.status.code = (Error.io "config write failed").code := by
  decide +kernel

end StorageAdapter
