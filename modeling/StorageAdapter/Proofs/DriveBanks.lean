import StorageAdapter.Proofs.Drives
import StorageAdapter.Proofs.LastStatus

/-! # One bank for another

Drives that are tracked, seen as two tables (`TrackedDrives.view`), are drives in memory: the view
carries every call over (`bankMap_view`). So no calls tell the two banks apart, nor does a device on
them: in every run it answers alike, and what it leaves on the one bank is what it leaves on the
other, seen through the view (`drive_banks_interchangeable`). -/

namespace StorageAdapter

open StorageAdapter.Action StorageAdapter.Device

/-! ### Calls -/

/-- A call of a bank. -/
inductive DriveCall where
  | insert (unit : UInt8) (image : InsertedImage)
  | eject (unit : UInt8)
  | switch (device : UInt8) (active : Bool)
deriving DecidableEq, Repr

namespace DriveCall

/-- What a call yields. -/
inductive Answer where
  | media (media : MediaType)
  | nothing
  | known (known : Bool)
deriving DecidableEq, Repr

variable {D D' : Type} [DriveBay D] [DriveBay D']

/-- What a call yields, and the bank after it. -/
def serve (drives : D) : DriveCall → Answer × D
  | insert unit image => (DriveBay.insert unit image drives).map .media id
  | eject unit => (.nothing, DriveBay.eject unit drives)
  | switch device active => (DriveBay.switch device active drives).map .known id

/-- What calls yield in turn, and the bank after them. -/
def serveAll (drives : D) : List DriveCall → List Answer × D
  | [] => ([], drives)
  | call :: calls => (serveAll (call.serve drives).2 calls).map ((call.serve drives).1 :: ·) id

variable {f : D → D'} (hf : BankMap f)
include hf

/-- **One call** yields on the image of a bank what it yields on the bank, and leaves the image of
what it leaves there. -/
theorem serve_map (call : DriveCall) (drives : D) :
    call.serve (f drives) = (call.serve drives).map id f := by
  cases call with
  | insert unit image => exact congrArg (Prod.map Answer.media id) (hf.insert unit image drives)
  | eject unit => exact congrArg (Prod.mk Answer.nothing) (hf.eject unit drives)
  | switch device active =>
    exact congrArg (Prod.map Answer.known id) (hf.switch device active drives)

/-- **Any calls** yield on the image of a bank what they yield on the bank, and leave the image of
what they leave there. -/
theorem serveAll_map (calls : List DriveCall) (drives : D) :
    serveAll (f drives) calls = (serveAll drives calls).map id f := by
  induction calls generalizing drives with
  | nil => rfl
  | cons call calls ih =>
    unfold serveAll
    rw [serve_map hf]
    exact congrArg (Prod.map ((call.serve drives).1 :: ·) id) (ih (call.serve drives).2)

end DriveCall

/-- The banks hold the same images, and the same devices are on. -/
structure SameDrives {D D' : Type} [DriveBay D] [DriveBay D'] (b : D) (c : D') : Prop where
  image? (unit : UInt8) : DriveBay.image? b unit = DriveBay.image? c unit
  isOn (device : UInt8) : DriveBay.isOn b device = DriveBay.isOn c device

theorem BankMap.sameDrives {D D' : Type} [DriveBay D] [DriveBay D'] {f : D → D'} (hf : BankMap f)
    (drives : D) : SameDrives (f drives) drives := ⟨hf.image? drives, hf.isOn drives⟩

/-! ### Tracked drives as tables -/

/-- The drives as two tables. -/
def TrackedDrives.view (drives : TrackedDrives) : Memory.Drives where
  inserted := drives.units.get?
  active device := !drives.disabled.contains device

/-- Drives in memory are told by what they hold and what they settle on. -/
theorem Memory.Drives.eq_of_same {b c : Memory.Drives} (h : SameDrives b c)
    (hsettles : b.settlesOn = c.settlesOn) : b = c := by
  obtain ⟨inserted, active, settlesOn⟩ := b
  obtain rfl : inserted = c.inserted := funext h.image?
  obtain rfl : active = c.active := funext h.isOn
  obtain rfl : settlesOn = c.settlesOn := hsettles
  rfl

/-- **The view carries every call over.** Both banks behave as tables, so what a call leaves can be
told unit by unit and device by device. -/
theorem bankMap_view : BankMap TrackedDrives.view where
  image? _ _ := rfl
  isOn _ _ := rfl
  insert unit image drives := by
    refine Prod.ext rfl (Memory.Drives.eq_of_same ⟨fun u => ?_, fun _ => rfl⟩ rfl)
    by_cases hu : u = unit
    · subst hu
      exact (LawfulDrives.image?_insert_self u image drives.view).trans
        (LawfulDrives.image?_insert_self u image drives).symm
    · exact (LawfulDrives.image?_insert_of_ne hu image drives.view).trans
        (LawfulDrives.image?_insert_of_ne hu image drives).symm
  eject unit drives := by
    refine Memory.Drives.eq_of_same ⟨fun u => ?_, fun _ => rfl⟩ rfl
    by_cases hu : u = unit
    · subst hu
      exact (LawfulDrives.image?_eject_self u drives.view).trans
        (LawfulDrives.image?_eject_self u drives).symm
    · exact (LawfulDrives.image?_eject_of_ne hu drives.view).trans
        (LawfulDrives.image?_eject_of_ne hu drives).symm
  switch device active drives := by
    by_cases hdevice : isDriveDevice device
    · have hsettles : (DriveBay.switch device active drives.view).2.settlesOn = none := by
        show (Memory.Drives.switch device active drives.view).2.settlesOn = none
        unfold Memory.Drives.switch
        rw [if_pos hdevice]
        rfl
      refine Prod.ext ?_ (Memory.Drives.eq_of_same ⟨fun u => ?_, fun d => ?_⟩ hsettles)
      · exact (LawfulDrives.known_switch device active drives.view).trans
          (LawfulDrives.known_switch device active drives).symm
      · exact (LawfulDrives.image?_switch device active drives.view u).trans
          (LawfulDrives.image?_switch device active drives u).symm
      · by_cases hd : d = device
        · subst hd
          exact (LawfulDrives.isOn_switch_self hdevice active drives.view).trans
            (LawfulDrives.isOn_switch_self hdevice active drives).symm
        · exact (LawfulDrives.isOn_switch_of_ne hd active drives.view).trans
            (LawfulDrives.isOn_switch_of_ne hd active drives).symm
    · -- neither bank knows the device, and both stay as they are
      show Memory.Drives.switch device active drives.view =
        (TrackedDrives.switch device active drives).map id TrackedDrives.view
      unfold Memory.Drives.switch TrackedDrives.switch
      rw [if_neg hdevice, if_neg hdevice]
      rfl

theorem view_empty : ({} : TrackedDrives).view = {} := rfl

/-! ### Devices on both banks -/

/-- The move on a bank that the world outside leaves alone. -/
def Move.onBank {W D : Type} : Move W Unit → Move W D
  | .frame payload => .frame payload
  | .resetBus => .resetBus
  | .call o => .call o
  | .outside storage _ radio => .outside storage id radio

section Device

variable {W R D D' : Type} [HostStorage W R] [SettingsStore W] [KeyStorage W] [DriveBay D]
  [DriveBay D'] {f : D → D'}

omit [HostStorage W R] [SettingsStore W] [KeyStorage W] [DriveBay D] [DriveBay D'] in
theorem noteOpcode_onBank {x : Action (Device W R D) Bytes} {y : Action (Device W R D') Bytes}
    (h : Shadows (onBank f) x y) (op : Opcode) (d : Device W R D) :
    noteOpcode op y (d.onBank f) = (noteOpcode op x d).onBank f := by
  unfold noteOpcode
  rw [h d]
  rcases x d with ⟨data, e⟩ | ⟨err, e⟩ <;> rfl

omit [HostStorage W R] [SettingsStore W] [KeyStorage W] [DriveBay D] [DriveBay D'] in
theorem noteLine_onBank {x : Action (Device W R D) Answer} {y : Action (Device W R D') Answer}
    (h : Shadows (onBank f) x y) (d : Device W R D) :
    noteLine y (d.onBank f) = (noteLine x d).onBank f := by
  unfold noteLine
  rw [h d]
  rcases x d with ⟨answer, e⟩ | ⟨err, e⟩ <;> rfl

omit [HostStorage W R] [SettingsStore W] [KeyStorage W] [DriveBay D] [DriveBay D'] in
theorem onBank_resetBus (d : Device W R D) : (d.onBank f).resetBus = d.resetBus.onBank f := by
  have hrack : (d.onBank f).rack.closeDirectory = d.rack.closeDirectory.onBank f :=
    Rack.onBank_closeDirectory d.rack
  unfold resetBus
  rw [hrack]
  rfl

variable (hf : BankMap f)
include hf

/-- An operation does on the image of the drives what it does on the drives. -/
theorem shadows_perform (o : Operation) :
    Shadows (onBank f) (o.perform : Action (Device W R D) Unit) o.perform :=
  perform_onto hf (a := {}) o fun _ => rfl

theorem answerFrame_onBank (payload : Bytes) (frame : Frame) (d : Device W R D) :
    answerFrame payload frame (d.onBank f) = (answerFrame payload frame d).map id (onBank f) := by
  cases frame with
  | empty => rfl
  | unknown code => rfl
  | opened op =>
    simp only [answerFrame]
    have hop : Option.Rel (Shadows (onBank f))
        (answerOpcode op payload : Option (Action (Device W R D) Bytes))
        (answerOpcode op payload) :=
      answerOpcode_onto hf (a := {}) (fun _ => rfl) (fun _ => rfl) payload
    obtain ⟨hx, hy⟩ | ⟨x, y, hx, hy, h⟩ := rel_cases hop
    · simp only [hx, hy]
      rfl
    · simp only [hx, hy, noteOpcode_onBank h]
      rfl
  | data op data =>
    simp only [answerFrame]
    have hop : Option.Rel (Shadows (onBank f))
        (answerOpcodeWithData op data : Option (Action (Device W R D) Bytes))
        (answerOpcodeWithData op data) :=
      answerOpcodeWithData_onto hf (a := {}) (fun _ => rfl) data
    obtain ⟨hx, hy⟩ | ⟨x, y, hx, hy, h⟩ := rel_cases hop
    · simp only [hx, hy]
      rfl
    · simp only [hx, hy, noteOpcode_onBank h]
      rfl
  | line l =>
    simp only [answerFrame]
    rcases l.command with _ | command
    · rfl
    · exact congrArg (Prod.mk BusFormat.basic) (noteLine_onBank
        (answerLine_onto hf (a := {}) (fun _ => rfl) (fun _ => rfl) l) d)

/-- **A frame** is answered on the image of the drives as it is on the drives. -/
theorem receive_onBank (payload : Bytes) (d : Device W R D) :
    receive payload (d.onBank f) = (receive payload d).map id (onBank f) := by
  have hrun : (d.onBank f).handled payload = (d.handled payload).map id (onBank f) := by
    rw [handled_eq_answerFrame, handled_eq_answerFrame]
    exact answerFrame_onBank hf payload (d.pending.decode payload).1
      { d with response := {}, pending := (d.pending.decode payload).2 }
  rw [receive_eq_settle, receive_eq_settle, hrun]
  rfl

/-- **One move** is answered on the image of the drives as it is on the drives, and leaves the image
of what it leaves there. -/
theorem move_onBank (m : Move W Unit) (d : Device W R D) :
    m.onBank.reply? (d.onBank f) = m.onBank.reply? d ∧
      (d.onBank f).move m.onBank = (d.move m.onBank).onBank f := by
  cases m with
  | frame payload =>
    have h := receive_onBank hf payload d
    exact ⟨congrArg (some ∘ Prod.fst) h, congrArg Prod.snd h⟩
  | resetBus => exact ⟨rfl, onBank_resetBus d⟩
  | call o => exact ⟨rfl, (shadows_perform hf o).after_eq d⟩
  | outside storage drives radio => exact ⟨rfl, rfl⟩

/-- **A run** is answered on the image of the drives as it is on the drives, and leaves the image of
what it leaves there. -/
theorem run_onBank (moves : List (Move W Unit)) (d : Device W R D) :
    (d.onBank f).replies (moves.map Move.onBank) = d.replies (moves.map Move.onBank) ∧
      (d.onBank f).run (moves.map Move.onBank) = (d.run (moves.map Move.onBank)).onBank f := by
  induction moves generalizing d with
  | nil => exact ⟨rfl, rfl⟩
  | cons m moves ih =>
    obtain ⟨hreply, hmove⟩ := move_onBank hf m d
    obtain ⟨hreplies, hrun⟩ := ih (d.move m.onBank)
    rw [← hmove] at hreplies hrun
    refine ⟨?_, hrun⟩
    show (m.onBank.reply? (d.onBank f)).toList ++ ((d.onBank f).move m.onBank).replies _ = _
    rw [hreply, hreplies]
    rfl

end Device

/-! ### The two banks -/

/-- Whatever is called on an empty bank in memory and on an empty bank that keeps track, every call
yields the same on both, and afterwards every unit holds the same in both, and every device is on in
both or off in both. So what a device does on the one bank it does on the other: from the same
storage and machine, whatever the hosts, the settings, the radio and the world around the drives do,
a run is answered alike on both; it leaves devices that differ in the bank alone, on banks that hold
the same; and every operation ends on both in the same way. -/
theorem drive_banks_interchangeable :
    (∀ calls : List DriveCall,
      (DriveCall.serveAll ({} : Memory.Drives) calls).1 =
          (DriveCall.serveAll ({} : TrackedDrives) calls).1 ∧
        SameDrives (DriveCall.serveAll ({} : Memory.Drives) calls).2
          (DriveCall.serveAll ({} : TrackedDrives) calls).2) ∧
    ∀ (W R : Type) [HostStorage W R] [SettingsStore W] [KeyStorage W] (storage : W) (radio : Radio)
      (board : Board) (digester : Digester) (moves : List (Move W Unit)),
      let start : Device W R Memory.Drives := Device.start storage {} radio board digester
      let start' : Device W R TrackedDrives := Device.start storage {} radio board digester
      let d := start.run (moves.map Move.onBank)
      let e := start'.run (moves.map Move.onBank)
      start.replies (moves.map Move.onBank) = start'.replies (moves.map Move.onBank) ∧
        (d = e.onBank TrackedDrives.view ∧ SameDrives d.rack.drives e.rack.drives) ∧
          ∀ o : Operation, o.perform.outcome d = o.perform.outcome e := by
  constructor
  · intro calls
    have hserved := DriveCall.serveAll_map bankMap_view calls {}
    rw [view_empty] at hserved
    rw [hserved]
    exact ⟨rfl, bankMap_view.sameDrives _⟩
  · intro W R _ _ _ storage radio board digester moves start start' d e
    have hstart : start = start'.onBank TrackedDrives.view :=
      onBank_start bankMap_view storage {} radio board digester
    obtain ⟨hreplies, hrun⟩ := run_onBank bankMap_view moves start'
    rw [← hstart] at hreplies hrun
    have hd : d = e.onBank TrackedDrives.view := hrun
    refine ⟨hreplies, ⟨hd, ?_⟩, fun o => ?_⟩
    · rw [hd]
      exact bankMap_view.sameDrives e.rack.drives
    · rw [hd]
      exact (shadows_perform bankMap_view o).outcome_eq e

end StorageAdapter
