import StorageAdapter.Proofs.FrontEnds
import StorageAdapter.Proofs.Restart

/-! # Switches

Which bus devices are on is kept twice: by the drives under the numbers of the devices, and by the
settings under the numbers of the switches. Both tables tell the same of every device in all states
that a device on fresh drives can come to, however often it starts again (`switches_agree`). A line
with a device number that cannot be read changes neither. -/

namespace StorageAdapter

open StorageAdapter.Action StorageAdapter.Device

/-! ### What is relied on -/

/-- Drives that ignore the switching of devices that they do not have. -/
class LawfulSwitches (D : Type) [DriveBay D] : Prop extends LawfulDrives D where
  switch_unknown {device : UInt8} (h : isDriveDevice device = false) (active : Bool) (drives : D) :
    (DriveBay.switch device active drives).2 = drives

instance : LawfulSwitches Memory.Drives where
  switch_unknown {device} h active drives := by
    show (Memory.Drives.switch device active drives).2 = drives
    unfold Memory.Drives.switch
    rw [if_neg (by simp [h])]

instance : LawfulSwitches TrackedDrives where
  switch_unknown {device} h active drives := by
    show (TrackedDrives.switch device active drives).2 = drives
    unfold TrackedDrives.switch
    rw [if_neg (by simp [h])]

/-! ### The two tables -/

theorem isDriveDevice_eq_false_iff {device : UInt8} :
    isDriveDevice device = false ↔ device.toNat < 8 ∨ 16 ≤ device.toNat := by
  unfold isDriveDevice Settings.switch?
  split
  · next h => simp; omega
  · next h => simp; omega

namespace Settings

variable {s t : Settings}

theorem isSwitchedOn_driveDevice (s : Settings) (i : Fin 8) :
    s.isSwitchedOn (driveDevice i) = s.switches.get i := by
  unfold isSwitchedOn
  rw [switch?_eq_some_iff.2 rfl]

theorem isSwitchedOn_of_unknown {device : UInt8} (h : isDriveDevice device = false)
    (s : Settings) : s.isSwitchedOn device = true := by
  have hnone : switch? device = none := Option.not_isSome_iff_eq_none.1 (Bool.eq_false_iff.1 h)
  unfold isSwitchedOn
  rw [hnone]

theorem isSwitchedOn_congr (h : t.switches = s.switches) (device : UInt8) :
    t.isSwitchedOn device = s.isSwitchedOn device := by
  unfold isSwitchedOn
  rw [h]

end Settings

variable {W R D : Type} [DriveBay D]

/-- The drives and the settings tell the same of every bus device. -/
def Device.SwitchedAsKept (d : Device W R D) : Prop :=
  ∀ device, DriveBay.isOn d.rack.drives device = d.settings.isSwitchedOn device

/-- It is enough to know of the eight devices with a switch, and that the others are on. -/
theorem Device.switchedAsKept_iff {d : Device W R D} :
    d.SwitchedAsKept ↔ SwitchesAgree d.settings d.rack.drives ∧
      ∀ device, isDriveDevice device = false → DriveBay.isOn d.rack.drives device = true := by
  constructor
  · refine fun h => ⟨fun i => ?_, fun device hd => ?_⟩
    · rw [h, Settings.isSwitchedOn_driveDevice]
    · rw [h, Settings.isSwitchedOn_of_unknown hd]
  · rintro ⟨hagree, hothers⟩ device
    by_cases hd : isDriveDevice device
    · obtain ⟨i, rfl⟩ := isDriveDevice_iff.1 hd
      rw [hagree, Settings.isSwitchedOn_driveDevice]
    · have hd : isDriveDevice device = false := Bool.eq_false_iff.2 hd
      rw [hothers device hd, Settings.isSwitchedOn_of_unknown hd]

/-- What leaves the switches of both tables alone leaves them in agreement. -/
theorem Device.SwitchedAsKept.of_eq {d e : Device W R D} (h : d.SwitchedAsKept)
    (hs : e.settings.switches = d.settings.switches)
    (hon : ∀ device, DriveBay.isOn e.rack.drives device = DriveBay.isOn d.rack.drives device) :
    e.SwitchedAsKept := fun device => by
  rw [hon, h, Settings.isSwitchedOn_congr hs]

/-- **Switching a device switches it in both tables**, or in neither if there is no such device. -/
theorem Device.SwitchedAsKept.switchDevice [LawfulSwitches D] {d : Device W R D}
    (h : d.SwitchedAsKept) (active : Bool) (device : UInt8) :
    (switchDevice active d device).SwitchedAsKept := by
  obtain ⟨hagree, hothers⟩ := switchedAsKept_iff.1 h
  refine switchedAsKept_iff.2 ⟨hagree.switchDevice active device, fun other hother => ?_⟩
  show DriveBay.isOn (DriveBay.switch device active d.rack.drives).2 other = true
  -- the drives ignore what they do not have, as the settings do
  by_cases hd : isDriveDevice device
  · have hne : other ≠ device := by
      rintro rfl
      exact Bool.false_ne_true (hother.symm.trans hd)
    rw [LawfulDrives.isOn_switch_of_ne hne]
    exact hothers other hother
  · rw [LawfulSwitches.switch_unknown (Bool.eq_false_iff.2 hd)]
    exact hothers other hother

/-! ### All states -/

section Runs

variable [HostStorage W R] [SettingsStore W] [LawfulSwitches D]

/-- **A device that starts switches its drives as its settings say**, if the others were on. -/
theorem switchedAsKept_start {drives : D}
    (h : ∀ device, isDriveDevice device = false → DriveBay.isOn drives device = true)
    (storage : W) (radio : Radio) (board : Board) (digester : Digester) :
    (Device.start storage drives radio board digester : Device W R D).SwitchedAsKept := by
  have hrack := rack_start (R := R) storage drives radio board digester
  refine Device.switchedAsKept_iff.2 ⟨?_, fun device hd => ?_⟩
  · rw [hrack]
    exact switchesAgree_applySwitches _ _
  · have hne : ∀ i, device ≠ Settings.driveDevice i := fun i hi =>
      Bool.false_ne_true (hd.symm.trans (isDriveDevice_iff.2 ⟨i, hi⟩))
    rw [hrack]
    show DriveBay.isOn (applySwitches _ (Rack.fill _ _).drives) device = true
    rw [isOn_applySwitches hne, isOn_fill]
    exact h device hd

variable [KeyStorage W]

/-- The steps of all operations leave the two tables in agreement. -/
theorem upheld_switchedAsKept : Upheld (fun d : Device W R D => d.SwitchedAsKept)
    fun d => d.SwitchedAsKept where
  weaken h := h
  before := ⟨fun h _ => h.of_eq rfl fun _ => rfl, fun h _ _ _ => h.of_eq rfl fun _ => rfl⟩
  during := ⟨fun h _ => h.of_eq rfl fun _ => rfl, fun h _ _ _ => h.of_eq rfl fun _ => rfl⟩
  aside h _ _ := h
  digest h _ := h
  key h _ _ := h
  fill {d} h := h.of_eq rfl (isOn_fill d.settings d.rack)
  unmount h _ := h
  close {d} h := by
    have hdrives := ((Rack.SameButListings.refl d.rack).closeDirectory).drives
    exact h.of_eq rfl fun device => congrArg (DriveBay.isOn · device) hdrives
  follow _ := ⟨fun h _ => h, fun h _ _ _ _ => h, fun h _ => h⟩
  rename {d} h i name := by
    obtain ⟨w, cursor, -, hr⟩ := renameHost_eq i name d.rack
    rw [hr]
    exact h
  load h _ _ _ := h.of_eq rfl (LawfulDrives.isOn_insert _ _ _)
  empty h _ := h.of_eq rfl (LawfulDrives.isOn_eject _ _)
  assign {d} h i filename host mode := h.of_eq rfl (isOn_assign i _ d.rack)
  wifi h _ := h
  boot h _ _ := h
  switch h active device := h.switchDevice active device
  save h := by
    rw [after_save]
    exact h.of_eq rfl fun _ => rfl

/-- What happens outside leaves the switches of the drives alone. -/
def Move.LeavesSwitches (m : Move W D) : Prop :=
  ∀ storage drives radio, m = .outside storage drives radio →
    ∀ bay device, DriveBay.isOn (drives bay) device = DriveBay.isOn bay device

/-- **The states of a device that first started on fresh drives**, with all devices on. Between
moves it may start again, on fresh drives or on its own, and from any storage; what happens outside
may do anything to the storage, so that settings may fail to be saved or loaded at any time. -/
inductive Device.Arises : Device W R D → Prop
  | fresh (storage : W) {drives : D} (hdrives : ∀ device, DriveBay.isOn drives device = true)
      (radio : Radio) (board : Board) (digester : Digester) :
      Arises (Device.start storage drives radio board digester)
  | again {d : Device W R D} (hd : Arises d) (storage : W) (radio : Radio) (board : Board)
      (digester : Digester) : Arises (Device.start storage d.rack.drives radio board digester)
  | move {d : Device W R D} (hd : Arises d) {m : Move W D} (hm : m.LeavesSwitches) :
      Arises (d.move m)

theorem Device.SwitchedAsKept.move {d : Device W R D} (h : d.SwitchedAsKept) {m : Move W D}
    (hm : m.LeavesSwitches) : (d.move m).SwitchedAsKept := by
  refine upheld_switchedAsKept.move (fun h _ _ _ => h) m (fun slot path pattern _ => ?_)
    (fun storage drives radio hout h => ?_) h
  · refine keeps_openDirectory (fun h hl => ?_) slot path pattern
    exact h.of_eq rfl fun device => congrArg (DriveBay.isOn · device) hl.drives
  · subst hout
    exact h.of_eq rfl (hm storage drives radio rfl _)

/-- **The two tables agree in all states.** -/
theorem Device.Arises.switchedAsKept {d : Device W R D} (h : Arises d) : d.SwitchedAsKept := by
  induction h with
  | fresh storage hdrives radio board digester =>
    exact switchedAsKept_start (fun device _ => hdrives device) storage radio board digester
  | again _ storage radio board digester ih =>
    exact switchedAsKept_start (switchedAsKept_iff.1 ih).2 storage radio board digester
  | move _ hm ih => exact ih.move hm

end Runs

/-! ### Device numbers that cannot be read -/

theorem byteArgument_cases (what token : String) :
    Text.byteArgument what token = .error (.parameter what) ∨
      ∃ b, Text.byteArgument what token = .ok b := by
  unfold Text.byteArgument
  rcases Text.decimal? 255 token with _ | n
  · exact .inl rfl
  · exact .inr ⟨_, rfl⟩

theorem devicesOf_eq_error {l : Line} {p : String} (hp : p ∈ l.params)
    (hblank : Text.trim p.toList ≠ []) (hread : Text.decimal? 255 p = none) :
    devicesOf l = .error (.parameter "invalid device id") := by
  refine mapM_eq_error (byteArgument_cases "invalid device id")
    (List.mem_filter.2 ⟨hp, by simpa using hblank⟩) ?_
  unfold Text.byteArgument
  rw [hread]

section Lines

variable [HostStorage W R] [SettingsStore W] [KeyStorage W]

/-- **A line with a device number that cannot be read** is refused before anything is switched. -/
theorem receive_unreadable_device {payload : Bytes} (hl : (ClientCommand.line payload).WellFormed)
    {active : Bool} (hc : (Line.parse payload).command =
      some (if active then .enableDevice else .disableDevice))
    {p : String} (hp : p ∈ (Line.parse payload).params) (hblank : Text.trim p.toList ≠ [])
    (hread : Text.decimal? 255 p = none) {d : Device W R D} (hd : d.pending = .idle) :
    receive payload d = d.answered .basic (Text.encode "invalid device id")
      (d.status.fail (.parameter "invalid device id")) := by
  have hdevices := devicesOf_eq_error hp hblank hread
  have hrun : (answerLine (if active then .enableDevice else .disableDevice) (Line.parse payload) :
      Action (Device W R D) Answer) d = .error (.parameter "invalid device id") d := by
    cases active
    · show replying "ok" (liftM (devicesOf _) >>= fun l => switchDevices l false) d = _
      rw [hdevices]
      rfl
    · show replying "ok" (liftM (devicesOf _) >>= fun l => switchDevices l true) d = _
      rw [hdevices]
      rfl
  have hstatus : (if active then Command.enableDevice else .disableDevice) ≠ .status := by
    cases active <;> decide
  rw [receive_command hl hc hstatus hd]
  unfold lineOutcome
  rw [hrun]
  rfl

variable [LawfulSwitches D]

/-- **The drives and the settings agree on every bus device.** In all states of a device that first
started on fresh drives, whatever lists of devices were switched on and off, by opcodes or by lines,
whether or not the settings could be saved and loaded, and however often it started again on its own
drives or on fresh ones: each of the 256 devices is on if and only if the settings say so, and those
without a switch are always on. A line that switches devices and has a number that cannot be read
among them is answered with an error and leaves the device as it is. -/
theorem switches_agree {d : Device W R D} (h : d.Arises) :
    (∀ device, DriveBay.isOn d.rack.drives device = d.settings.isSwitchedOn device) ∧
    (∀ device : UInt8, device.toNat < 8 ∨ 16 ≤ device.toNat →
      DriveBay.isOn d.rack.drives device = true) ∧
    ∀ (payload : Bytes) (active : Bool) (p : String), d.pending = .idle →
      (ClientCommand.line payload).WellFormed →
      (Line.parse payload).command = some (if active then .enableDevice else .disableDevice) →
      p ∈ (Line.parse payload).params → Text.trim p.toList ≠ [] → Text.decimal? 255 p = none →
        receive payload d = d.answered .basic (Text.encode "invalid device id")
          (d.status.fail (.parameter "invalid device id")) := by
  have hkept := h.switchedAsKept
  refine ⟨hkept, fun device hd => ?_, fun payload active p hd hl hc hp hblank hread => ?_⟩
  · exact (switchedAsKept_iff.1 hkept).2 device (isDriveDevice_eq_false_iff.2 hd)
  · exact receive_unreadable_device hl hc hp hblank hread hd

end Lines

/-- Devices are switched off by an opcode while settings cannot be saved; the device starts again
without them, and a line switches others off. -/
theorem switches_agree_after_failed_save :
    let failing : Move Memory.Storage Memory.Drives :=
      .outside (fun w => { w with faults := { w.faults with save := true } }) id id
    let started : Memory.Adapter := Memory.Surroundings.start {}
    let off := ((started.move failing).move (.frame [0x01, 0xD4])).move (.frame [9, 200, 9, 15])
    let again : Memory.Adapter := off.restart
    let d := again.move (.frame (Text.encode "DISABLE:10, ,11"))
    d.Arises ∧
      (DriveBay.isOn off.rack.drives 9 = false ∧ DriveBay.isOn again.rack.drives 9 = true) ∧
      (DriveBay.isOn d.rack.drives 10 = false ∧ d.settings.isSwitchedOn 10 = false ∧
        DriveBay.isOn d.rack.drives 200 = true) ∧
      receive (Text.encode "ENABLE:10,256") d = d.answered .basic (Text.encode "invalid device id")
        (d.status.fail (.parameter "invalid device id")) := by
  intro failing started off again d
  have hfailing : failing.LeavesSwitches := by
    rintro storage drives radio h
    obtain ⟨-, rfl, -⟩ := Move.outside.inj h
    exact fun _ _ => rfl
  have hframe (payload : Bytes) :
      (Move.frame payload : Move Memory.Storage Memory.Drives).LeavesSwitches := nofun
  have hstarted : started.Arises := .fresh _ (fun _ => rfl) _ _ _
  have hoff : off.Arises := ((hstarted.move hfailing).move (hframe _)).move (hframe _)
  have h : d.Arises := (hoff.again _ _ _ _).move (hframe _)
  obtain ⟨hagree, hothers, hrefused⟩ := switches_agree h
  have h10 : DriveBay.isOn d.rack.drives 10 = false := by decide +kernel
  have hlength : (Text.encode "ENABLE:10,256").length = 13 := by decide +kernel
  have hline : (ClientCommand.line (Text.encode "ENABLE:10,256")).WellFormed :=
    ⟨by decide +kernel, fun _ h => nomatch hlength.symm.trans (congrArg List.length h)⟩
  refine ⟨h, by decide +kernel, ⟨h10, (hagree 10).symm.trans h10, hothers 200 (by decide)⟩, ?_⟩
  exact hrefused _ true "256" (by decide +kernel) hline (by decide +kernel) (by decide +kernel)
    (by decide +kernel) (by decide +kernel)

end StorageAdapter
