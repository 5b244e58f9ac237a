import StorageAdapter.Memory.Adapter
import StorageAdapter.Proofs.FrontEnds

/-! # Files of disk slots

A disk slot that was pointed at a file keeps it until the slot is written again, whatever else is
done, since every change of the slots is saved and they are only filled from what was saved
(`Points.run`). A file without a host is not saved, though: mounting any host or image makes its
slot forget it (`filename_kept_unless_refilled`). -/

namespace StorageAdapter

open StorageAdapter.Action StorageAdapter.Device

/-! ### Files -/

/-- What a disk slot is pointed at: a filename and the host slot, if any. -/
structure SlotFile where
  name : String
  host : Option (Fin 8)
deriving DecidableEq, Repr

namespace SlotFile

/-- What is left of a file when its slot is saved and filled again. -/
def kept (f : SlotFile) : SlotFile := if f.host ≠ none ∧ f.name ≠ "" then f else ⟨"", none⟩

theorem kept_kept (f : SlotFile) : f.kept.kept = f.kept := by
  by_cases h : f.host ≠ none ∧ f.name ≠ ""
  · have hf : f.kept = f := if_pos h
    rw [hf, hf]
  · have hf : f.kept = ⟨"", none⟩ := if_neg h
    rw [hf]
    exact if_neg fun h => h.1 rfl

end SlotFile

namespace DiskSlot

/-- The file that a disk slot is pointed at. -/
def file (d : DiskSlot) : SlotFile := ⟨d.filename, d.hostSlot⟩

theorem file_filled_toSettings (d : DiskSlot) : (d.filled d.toSettings).file = d.file.kept := by
  by_cases hn : d.namesImage
  · rw [filled_of_agrees (agrees_toSettings hn)]
    exact (if_pos (namesImage_iff.1 hn)).symm
  · rw [filled_toSettings_of_not_namesImage hn]
    exact (if_neg (mt namesImage_iff.2 hn)).symm

end DiskSlot

variable {W R D : Type}

/-! ### What keeps the file of a slot -/

/-- The slot is pointed at the file, and filling the slots leaves of it what is kept. -/
structure Device.Points (i : Fin 8) (f : SlotFile) (d : Device W R D) : Prop where
  now : (d.rack.disks.get i).file = f
  refilled : ((d.rack.disks.get i).filled (d.settings.mounts.get i)).file = f.kept

section Points

variable {i : Fin 8} {f : SlotFile} {d : Device W R D}

theorem Device.Points.of_disks (h : d.Points i f) {r : Rack W R D} (hr : r.disks = d.rack.disks) :
    (d.setRack r).Points i f := by
  refine ⟨?_, ?_⟩ <;> rw [rack_setRack, hr]
  · exact h.now
  · exact h.refilled

theorem ignoresNotes_points : IgnoresNotes (Device.Points i f : Device W R D → Prop) :=
  fun h _ _ _ => ⟨h.now, h.refilled⟩

variable [HostStorage W R] [SettingsStore W] [KeyStorage W] [DriveBay D]

omit [HostStorage W R] [KeyStorage W] [DriveBay D] in
/-- Saving writes the file into the settings as far as it is kept. -/
theorem points_save (h : (d.rack.disks.get i).file = f) : (Device.save.after d).Points i f := by
  rw [after_save]
  refine ⟨h, ?_⟩
  show (DiskSlot.filled (Slots.get (d.rack.disks.map DiskSlot.toSettings) i) _).file = _
  rw [Slots.get_map, ← h]
  exact DiskSlot.file_filled_toSettings _

omit [SettingsStore W] [KeyStorage W] in
/-- Filling the slots leaves what is kept, and does so every time. -/
theorem Device.Points.fill (h : d.Points i f) :
    (d.setRack (d.rack.fill d.settings)).Points i f.kept := by
  refine ⟨?_, ?_⟩ <;> rw [rack_setRack, Rack.disks_fill]
  · exact h.refilled
  · rw [f.kept_kept]
    show (DiskSlot.filled (d.settings.mounts.get i) _).file = _
    rw [DiskSlot.filled_filled]
    exact h.refilled

theorem sustained_points (i : Fin 8) (f : SlotFile) :
    Sustained (Device.Points i f : Device W R D → Prop)
      fun d => (d.rack.disks.get i).file = f where
  weaken h := h.now
  before := ⟨fun h _ => h.of_disks rfl, fun h _ _ _ => h.of_disks rfl⟩
  during := ⟨fun h _ => h, fun h _ _ _ => h⟩
  aside h _ _ := ⟨h.now, h.refilled⟩
  key h _ _ := ⟨h.now, h.refilled⟩
  unmount h _ := h.of_disks rfl
  close {d} h := h.of_disks (Rack.SameButListings.refl d.rack).closeDirectory.disks
  follow d := ⟨fun {r} h _ => h.of_disks (d := d.setRack r) rfl,
    fun {r _ _ _} h _ _ _ _ => h.of_disks (d := d.setRack r) rfl,
    fun {r} h _ => h.of_disks (d := d.setRack r) rfl⟩
  rename {d} h j name := by
    obtain ⟨w, cursor, -, hr⟩ := renameHost_eq j name d.rack
    rw [hr]
    exact h
  load {d j} h _ mode size := by
    show (Slots.get (d.rack.disks.set j _) i).file = f
    rw [Slots.get_set]
    split
    · next hj =>
      subst hj
      exact h
    · exact h
  wifi h _ := h
  boot h _ _ := h
  switch h _ _ := h
  save h := points_save h

/-! ### All moves that do not write the slot -/

/-- Whether serving the request fills the slots from the settings. -/
def Request.refills : Request → Bool
  | .ok (some o) => o.refills
  | _ => false

/-- Whether serving the request may empty the disk slot or point it at a file. -/
def Request.writes (slot : UInt8) : Request → Bool
  | .ok (some o) => o.writes slot
  | _ => false

/-- An operation keeps the file of a slot that it does not write, if it does not fill the slots. -/
theorem keeps_points {o : Operation} (hr : ¬o.refills) (hw : ¬o.writes (Rack.unit i)) :
    Keeps (Device.Points i f : Device W R D → Prop) o.perform := by
  have hne : ∀ j, o.writes (Rack.unit j) → i ≠ j := by
    rintro j hj rfl
    exact hw hj
  refine (sustained_points i f).perform o (fun slot path pattern ho => ?_)
    (fun _ d hd _ => ⟨hd.now, hd.refilled⟩) (fun h => absurd h hr)
    (fun j hj d hd => ?_) fun j hj d hd filename host mode => ?_
  · subst ho
    exact keeps_openDirectory (fun hd hl => hd.of_disks hl.disks) slot path pattern
  · show (Slots.get (d.rack.disks.set j _) i).file = f
    rw [Slots.get_set_of_ne _ (hne j hj)]
    exact hd
  · obtain ⟨drives, hr⟩ := Rack.assign_eq j (.assigned filename host mode) d.rack
    rw [rack_setRack, hr]
    show (Slots.get (d.rack.disks.set j _) i).file = f
    rw [Slots.get_set_of_ne _ (hne j hj)]
    exact hd

/-- **A move that does not write the slot** keeps its file, as far as that is kept. -/
theorem Device.Points.move (h : d.Points i f) {m : Move W D}
    (hw : ¬(m.request d).writes (Rack.unit i)) :
    (d.move m).Points i (if (m.request d).refills then f.kept else f) := by
  by_cases hr : (m.request d).refills
  · rw [if_pos hr]
    rcases hm : m.request d with e | _ | o <;> rw [hm] at hr
    · cases hr
    · cases hr
    · exact ends_move ignoresNotes_points ignoresNotes_points hm
        ((sustained_points i f.kept).steady.refilling (fun hd => hd.fill) hr) h
  · rw [if_neg hr]
    refine (sustained_points i f).move ignoresNotes_points m (fun o hm => ?_)
      (fun storage drives radio hm hd => ?_) h
    · rw [hm] at hr hw
      exact keeps_points hr hw
    · subst hm
      exact ⟨hd.now, hd.refilled⟩

/-- **A run that does not write the slot** keeps its file, as far as that is kept. -/
theorem Device.Points.run (h : d.Points i f) {moves : List (Move W D)}
    (hw : ∀ r ∈ d.requests moves, ¬r.writes (Rack.unit i)) :
    (d.run moves).Points i (if (d.requests moves).any Request.refills then f.kept else f) := by
  induction moves generalizing d f with
  | nil => exact h
  | cons m moves ih =>
    have hm := h.move (hw _ List.mem_cons_self)
    have hrun := ih hm fun r hr => hw r (List.mem_cons_of_mem _ hr)
    show ((d.move m).run moves).Points i
      (if (m.request d).refills || ((d.move m).requests moves).any Request.refills then f.kept
        else f)
    -- once the slots were filled, filling them again changes nothing
    by_cases hr : (m.request d).refills
    · rw [if_pos hr, f.kept_kept, ite_self] at hrun
      rw [hr, Bool.true_or, if_pos rfl]
      exact hrun
    · rw [if_neg hr] at hrun
      rw [Bool.not_eq_true _ |>.mp hr, Bool.false_or]
      exact hrun

/-! ### Being pointed at a file, and telling it -/

omit [HostStorage W R] [SettingsStore W] [KeyStorage W] [DriveBay D] in
theorem hostOfByte_eq_none_iff {b : UInt8} {h : Option (Fin 8)}
    (hh : (hostOfByte b).mapM Rack.hostIndex = Except.ok h) :
    h = none ↔ b = DeviceRecord.noHost := by
  unfold hostOfByte at hh
  by_cases hb : b = DeviceRecord.noHost
  · rw [if_pos hb] at hh
    exact iff_of_true (Except.ok.inj hh).symm hb
  · rw [if_neg hb] at hh
    -- any other byte stands for a host slot
    refine iff_of_false ?_ hb
    rintro rfl
    rcases hi : Rack.hostIndex b with e | i <;> rw [Option.mapM_some, hi] at hh <;> cases hh

omit [HostStorage W R] [SettingsStore W] [KeyStorage W] in
theorem file_assign {name : String} (hname : name ≠ "")
    (hs : Text.size name ≤ DiskSlot.filenameLimit) (h : Option (Fin 8)) (mode : AccessMode)
    (r : Rack W R D) : ((r.assign i (.assigned name h mode)).disks.get i).file = ⟨name, h⟩ := by
  obtain ⟨drives, hr⟩ := Rack.assign_eq i (.assigned name h mode) r
  rw [hr]
  show (Slots.get (r.disks.set i _) i).file = _
  rw [Slots.get_set_self]
  show SlotFile.mk (Text.clip _ name) (if name = "" then none else h) = _
  rw [Text.clip_of_size_le hs, if_neg hname]

omit [HostStorage W R] [KeyStorage W] in
/-- A slot is pointed at a file whose name fits, with a host unless none was asked for. -/
theorem ends_setFilename {name : String} (hname : name ≠ "") (slot host : UInt8)
    (mode : AccessMode) : Ends (fun _ : Device W R D => True) (setFilename slot host mode name)
      (fun _ d => ∃ i h, slot = Rack.unit i ∧ (h = none ↔ host = DeviceRecord.noHost) ∧
        d.Points i ⟨name, h⟩) fun _ _ => True := by
  refine Ends.bind (Q := fun _ d => ∃ i h, slot = Rack.unit i ∧
    (h = none ↔ host = DeviceRecord.noHost) ∧ (d.rack.disks.get i).file = ⟨name, h⟩)
    (ends_onRack fun d => ?_) fun _ => ?_
  · exact Rack.ends_pointDisk fun {r} i h hi hh hs _ => ⟨i, h, Rack.eq_unit_of_slotIndex hi,
      hostOfByte_eq_none_iff hh, file_assign hname hs h mode r⟩
  · refine Ends.mono (ends_after.2 fun d hd => ?_) (fun _ hd => hd) (fun _ _ hd => hd)
      fun _ _ _ => trivial
    obtain ⟨i, h, hslot, hh, hf⟩ := hd
    exact ⟨i, h, hslot, hh, points_save hf⟩

/-- A frame that asks for a slot to be pointed at a file, and is answered without an error, does
that. -/
theorem points_of_answered {payload : Bytes} {slot host : UInt8} {mode : AccessMode}
    {name : String} (ha : asked payload d = .ok (some (.setFilename slot host mode name)))
    (hname : name ≠ "") (hc : (receive payload d).1.status.code = Error.successCode) :
    ∃ i h, slot = Rack.unit i ∧ (h = none ↔ host = DeviceRecord.noHost) ∧
      (receive payload d).2.Points i ⟨name, h⟩ := by
  obtain ⟨e, he, pending, response, status, hr⟩ := receive_ok ha hc
  obtain ⟨i, h, hslot, hh, hp⟩ := (ends_setFilename hname slot host mode).ok trivial he
  rw [hr]
  exact ⟨i, h, hslot, hh, ignoresNotes_points hp _ _ _⟩

omit [HostStorage W R] [SettingsStore W] [KeyStorage W] [DriveBay D] in
theorem filename_unit (d : Device W R D) (i : Fin 8) :
    d.filename (Rack.unit i) = .ok (d.rack.disks.get i).filename := by
  unfold Device.filename Rack.disk Rack.diskIndex
  rw [Rack.slotIndex_unit]
  rfl

theorem reply_getDeviceFullpath (hd : d.pending = .idle) (i : Fin 8) :
    let reply := (receive [Rack.unit i]
      (receive (ClientCommand.openFrame .getDeviceFullpath) d).2).1
    reply.status.succeeded ∧ reply.data = filenameBytes (d.rack.disks.get i).filename := by
  intro reply
  obtain ⟨act, hact, ha⟩ : ∃ act : Action (Device W R D) Bytes,
      answerOpcodeWithData .getDeviceFullpath [Rack.unit i] = some act ∧
        act d = .ok (filenameBytes (d.rack.disks.get i).filename) d := by
    refine ⟨_, rfl, ?_⟩
    show ((liftM (d.filename (Rack.unit i)) : Action (Device W R D) String) >>= _) d = _
    rw [filename_unit]
    rfl
  have hreply : reply = (d.answered .raw (filenameBytes (d.rack.disks.get i).filename)
      (d.status.succeed "")).1 := by
    have h := receive_opcodeWithData rfl (List.cons_ne_nil _ _) hact hd
    unfold opcodeOutcome at h
    rw [ha] at h
    exact congrArg Prod.fst h
  rw [hreply]
  exact ⟨rfl, rfl⟩

/-- **A filename that was accepted is told until its slot is written again**, whatever is asked for
in between and whatever fails, unless it has no host and the slots were filled from the settings:
then it is forgotten. -/
theorem filename_kept_unless_refilled {payload : Bytes} {slot host : UInt8} {mode : AccessMode}
    {name : String} (ha : asked payload d = .ok (some (.setFilename slot host mode name)))
    (hname : name ≠ "") (hc : (receive payload d).1.status.code = Error.successCode)
    {moves : List (Move W D)} (hw : ∀ r ∈ (receive payload d).2.requests moves, ¬r.writes slot)
    (hidle : ((receive payload d).2.run moves).pending = .idle) :
    let refilled := ((receive payload d).2.requests moves).any Request.refills
    let reply := (receive [slot] (receive (ClientCommand.openFrame .getDeviceFullpath)
      ((receive payload d).2.run moves)).2).1
    reply.status.succeeded ∧ reply.data =
      if host = DeviceRecord.noHost ∧ refilled then [0] else Text.encode name := by
  intro refilled reply
  obtain ⟨i, h, rfl, hh, hp⟩ := points_of_answered ha hname hc
  obtain ⟨hs, hdata⟩ := reply_getDeviceFullpath hidle i
  refine ⟨hs, hdata.trans ?_⟩
  have hfile : (((receive payload d).2.run moves).rack.disks.get i).filename =
      (if refilled then SlotFile.kept ⟨name, h⟩ else ⟨name, h⟩).name :=
    congrArg SlotFile.name (hp.run hw).now
  rw [hfile]
  unfold SlotFile.kept filenameBytes
  by_cases hr : refilled <;> by_cases hn : host = DeviceRecord.noHost <;>
    simp [hr, hn, hh, hname]

end Points

/-- A slot is pointed at a file, its host is mounted, and mounting another slot fails. -/
theorem filename_kept_while_mounting :
    let d : Memory.Adapter := (receive (ClientCommand.openFrame .setDeviceFullpath)
      (Memory.Surroundings.start { storage := {
        hosts := ({} : Memory.Hosts).withHost "h"
        config.stored := some {
          hosts := Slots.set (Vector.replicate 8 {}) 0 ⟨"h", .tnfs⟩ } } })).2
    let payload : Bytes := 1 :: 0 :: 1 :: Text.encode "/a.d64"
    let moves : List (Move Memory.Storage Memory.Drives) :=
      [.frame (ClientCommand.openFrame .mountHost), .frame [0],
        .frame (ClientCommand.openFrame .mountImage), .frame [2, 1], .resetBus]
    asked payload d = .ok (some (.setFilename 1 0 .read "/a.d64")) ∧ "/a.d64" ≠ "" ∧
      (receive payload d).1.status.code = Error.successCode ∧
      (∀ r ∈ (receive payload d).2.requests moves, ¬r.writes 1) ∧
      ((receive payload d).2.run moves).pending = .idle ∧
      (receive [1] (receive (ClientCommand.openFrame .getDeviceFullpath)
        ((receive payload d).2.run moves)).2).1.data = Text.encode "/a.d64" := by
  intro d payload moves
  have ha : asked payload d = .ok (some (.setFilename 1 0 .read "/a.d64")) := by decide +kernel
  have hc : (receive payload d).1.status.code = Error.successCode := by decide +kernel
  have hw : ∀ r ∈ (receive payload d).2.requests moves, ¬r.writes 1 := by decide +kernel
  have hidle : ((receive payload d).2.run moves).pending = .idle := by decide +kernel
  refine ⟨ha, by decide, hc, hw, hidle, ?_⟩
  exact (filename_kept_unless_refilled ha (by decide) hc hw hidle).2

/-- A slot is pointed at a file without a host, and a host is mounted: the slot forgets the file. -/
theorem filename_lost_when_refilled :
    let d : Memory.Adapter := (receive (ClientCommand.openFrame .setDeviceFullpath)
      (Memory.Surroundings.start {})).2
    let payload : Bytes := 0 :: DeviceRecord.noHost :: 1 :: Text.encode "a"
    let moves : List (Move Memory.Storage Memory.Drives) :=
      [.frame (ClientCommand.openFrame .mountHost), .frame [0]]
    asked payload d = .ok (some (.setFilename 0 DeviceRecord.noHost .read "a")) ∧
      (receive payload d).1.status.code = Error.successCode ∧
      (∀ r ∈ (receive payload d).2.requests moves, ¬r.writes 0) ∧
      (receive [0] (receive (ClientCommand.openFrame .getDeviceFullpath)
        ((receive payload d).2.run moves)).2).1.data ≠ Text.encode "a" := by
  decide +kernel

end StorageAdapter
