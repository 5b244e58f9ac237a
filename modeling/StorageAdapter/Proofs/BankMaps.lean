import StorageAdapter.Proofs.Action
import StorageAdapter.Device.Operations

/-! # Maps between banks

A map between banks of drives that carries every call over (`BankMap`) carries over whatever is done
on a bank: what a rack does on its drives it does on their image, and there is one such lemma for
each of its actions (`Shadows (Rack.onBank f)`). -/

namespace StorageAdapter

open StorageAdapter.Action

variable {W R D D' : Type}

/-- **A map that carries calls over**: on the image of a bank every call yields what it yields on
the bank, and leaves the image of what it leaves there. -/
structure BankMap [DriveBay D] [DriveBay D'] (f : D → D') : Prop where
  insert (unit : UInt8) (image : InsertedImage) (drives : D) :
    DriveBay.insert unit image (f drives) = (DriveBay.insert unit image drives).map id f
  eject (unit : UInt8) (drives : D) :
    DriveBay.eject unit (f drives) = f (DriveBay.eject unit drives)
  switch (device : UInt8) (active : Bool) (drives : D) :
    DriveBay.switch device active (f drives) = (DriveBay.switch device active drives).map id f
  image? (drives : D) (unit : UInt8) :
    DriveBay.image? (f drives) unit = DriveBay.image? drives unit
  isOn (drives : D) (device : UInt8) : DriveBay.isOn (f drives) device = DriveBay.isOn drives device

theorem BankMap.refl [DriveBay D] : BankMap (id : D → D) where
  insert _ _ _ := rfl
  eject _ _ := rfl
  switch _ _ _ := rfl
  image? _ _ := rfl
  isOn _ _ := rfl

namespace Rack

/-- The rack on the image of its drives. -/
def onBank (f : D → D') (r : Rack W R D) : Rack W R D' := { r with drives := f r.drives }

@[simp] theorem storage_onBank (f : D → D') (r : Rack W R D) : (r.onBank f).storage = r.storage :=
  rfl

@[simp] theorem hosts_onBank (f : D → D') (r : Rack W R D) : (r.onBank f).hosts = r.hosts := rfl

@[simp] theorem disks_onBank (f : D → D') (r : Rack W R D) : (r.onBank f).disks = r.disks := rfl

@[simp] theorem cursor_onBank (f : D → D') (r : Rack W R D) : (r.onBank f).cursor = r.cursor := rfl

section Shadows

variable {f : D → D'}

/-! ### Hosts -/

theorem shadows_onStorage {α : Type} (act : Action W α) :
    Shadows (onBank f) (onStorage act : Action (Rack W R D) α) (onStorage act) :=
  shadows_on (.refl act) (fun _ => rfl) fun _ _ => rfl

section Hosts

variable [HostStorage W R]

theorem shadows_connect (i : Fin 8) :
    Shadows (onBank f) (connect i : Action (Rack W R D) Unit) (connect i) := by
  refine shadows_get_bind fun r => .ite (.pure _) (.guard ?_)
  exact (shadows_onStorage _).bind fun _ => shadows_modify fun _ => rfl

theorem shadows_disconnect (i : Fin 8) :
    Shadows (onBank f) (disconnect i : Action (Rack W R D) Unit) (disconnect i) := by
  refine shadows_get_bind fun r => ?_
  rw [hosts_onBank]
  rcases hm : (r.hosts.get i).mount with _ | mounted <;> simp only [hm]
  · exact .pure _
  · exact .bind (shadows_modify fun _ => rfl) fun _ => shadows_onStorage _

theorem onBank_rename (i : Fin 8) (name : String) (r : Rack W R D) :
    (r.onBank f).rename i name = (r.rename i name).onBank f := by
  unfold rename
  rw [(shadows_disconnect i).after_eq]
  rfl

theorem shadows_mountHost (slot : UInt8) :
    Shadows (onBank f) (mountHost slot : Action (Rack W R D) Unit) (mountHost slot) :=
  .argument shadows_connect

theorem shadows_unmountHost (slot : UInt8) :
    Shadows (onBank f) (unmountHost slot : Action (Rack W R D) Unit) (unmountHost slot) :=
  .argument shadows_disconnect

end Hosts

/-! ### The directory cursor -/

theorem onBank_closeDirectory (r : Rack W R D) :
    (r.onBank f).closeDirectory = r.closeDirectory.onBank f := by
  unfold closeDirectory
  rw [cursor_onBank]
  rcases r.cursor.openOn with _ | i <;> rfl

theorem onBank_dropCursor (i : Fin 8) (r : Rack W R D) :
    (r.onBank f).dropCursor i = (r.dropCursor i).onBank f := by
  unfold dropCursor
  rw [cursor_onBank, apply_ite (onBank f)]
  rfl

theorem shadows_openDirectory [HostStorage W R] (slot : UInt8) (path : String)
    (pattern : Option String) :
    Shadows (onBank f) (openDirectory slot path pattern : Action (Rack W R D) Unit)
      (openDirectory slot path pattern) := by
  refine .argument fun i => .bind (shadows_modify fun r => ?_) fun _ => shadows_get_bind fun r => ?_
  · rw [cursor_onBank, onBank_closeDirectory, apply_ite (onBank f)]
  · rw [hosts_onBank]
    rcases (r.hosts.get i).mount with _ | mounted
    · exact .throw _
    · refine .bind ?_ fun _ => shadows_modify fun _ => rfl
      exact shadows_on (.refl _) (fun _ => rfl) fun _ _ => rfl

theorem shadows_reading :
    Shadows (onBank f) (reading : Action (Rack W R D) (Fin 8 × Mounted R)) reading := by
  refine shadows_get_bind fun r => ?_
  rw [cursor_onBank, hosts_onBank]
  rcases r.cursor.openOn with _ | i
  · exact .throw _
  · dsimp only
    rcases (r.hosts.get i).mount with _ | mounted
    · exact fun _ => rfl
    · exact .pure _

theorem shadows_readDirectory (limit options : UInt8) :
    Shadows (onBank f) (readDirectory limit options : Action (Rack W R D) Bytes)
      (readDirectory limit options) := by
  refine shadows_reading.bind fun (i, mounted) => shadows_get_bind fun r => .ite (.pure _) ?_
  rcases mounted.next with ⟨_ | entry, mounted'⟩
  · exact .bind (shadows_modify fun _ => rfl) fun _ => .pure _
  · exact .bind (shadows_modify fun _ => rfl) fun _ => .pure _

theorem shadows_directoryPosition [HostStorage W R] :
    Shadows (onBank f) (directoryPosition : Action (Rack W R D) UInt16) directoryPosition :=
  shadows_reading.bind fun _ => shadows_get_bind fun _ => .pure _

theorem shadows_seekDirectory [HostStorage W R] (position : UInt16) :
    Shadows (onBank f) (seekDirectory position : Action (Rack W R D) Unit)
      (seekDirectory position) := by
  refine shadows_reading.bind fun (i, mounted) => shadows_get_bind fun r => ?_
  rw [storage_onBank]
  rcases mounted.seek? r.storage position with _ | mounted'
  · exact .throw _
  · exact shadows_modify fun _ => rfl

/-! ### Disks -/

section Disks

variable [DriveBay D] [DriveBay D'] (hf : BankMap f)
include hf

theorem onBank_eject (i : Fin 8) (r : Rack W R D) :
    (r.onBank f).eject i = (r.eject i).onBank f := by
  unfold eject onBank
  rw [hf.eject]

theorem onBank_assign (i : Fin 8) (d : DiskSlot) (r : Rack W R D) :
    (r.onBank f).assign i d = (r.assign i d).onBank f := by
  unfold assign
  rw [disks_onBank, onBank_eject hf, ← apply_ite (onBank f)]
  rfl

theorem shadows_insert (i : Fin 8) (image : InsertedImage) :
    Shadows (onBank f) (insert i image : Action (Rack W R D) MediaType) (insert i image) := by
  refine shadows_get_bind fun r => ?_
  have hinsert : DriveBay.insert (unit i) image (r.onBank f).drives =
      (DriveBay.insert (unit i) image r.drives).map id f := hf.insert _ _ _
  rw [hinsert]
  exact fun _ => rfl

theorem shadows_mountImage [HostStorage W R] (slot : UInt8) (mode : AccessMode) :
    Shadows (onBank f) (mountImage slot mode : Action (Rack W R D) MediaType)
      (mountImage slot mode) := by
  refine .argument fun i => shadows_get_bind fun r => ?_
  rw [disks_onBank]
  rcases hh : (r.disks.get i).hostSlot with _ | h <;> simp only [hh]
  · exact .throw _
  refine .guard ((shadows_connect h).bind fun _ => shadows_get_bind fun r => ?_)
  rw [hosts_onBank]
  rcases (r.hosts.get h).mount with _ | mounted
  · exact .throw _
  · exact (shadows_onStorage _).bind fun size => (shadows_insert hf i _).bind fun media =>
      .bind (shadows_modify fun _ => rfl) fun _ => .pure media

theorem shadows_unmountImage (slot : UInt8) :
    Shadows (onBank f) (unmountImage slot : Action (Rack W R D) Unit) (unmountImage slot) := by
  refine .argument fun i => shadows_modify fun r => ?_
  rw [onBank_eject hf]
  rfl

theorem shadows_pointDisk (slot : UInt8) (host : Option UInt8) (mode : AccessMode)
    (filename : String) : Shadows (onBank f)
      (pointDisk slot host mode filename : Action (Rack W R D) Unit)
      (pointDisk slot host mode filename) :=
  .argument fun _ => .argument fun _ => .guard (shadows_modify (onBank_assign hf _ _))

variable [HostStorage W R]

/-- Slots are filled on the image as they are on the bank. -/
theorem onBank_fill (settings : Settings) (r : Rack W R D) :
    (r.onBank f).fill settings = (r.fill settings).onBank f := by
  have hhost (r : Rack W R D) (i : Fin 8) :
      (r.onBank f).fillHost settings i = (r.fillHost settings i).onBank f := by
    unfold fillHost
    simp only [hosts_onBank, onBank_rename, apply_ite (onBank f)]
  have hdisk (r : Rack W R D) (i : Fin 8) :
      (r.onBank f).fillDisk settings i = (r.fillDisk settings i).onBank f := by
    unfold fillDisk
    simp only [disks_onBank, onBank_assign hf, apply_ite (onBank f)]
  unfold fill
  rw [List.foldl_hom (onBank f) hhost, List.foldl_hom (onBank f) hdisk]

end Disks

end Shadows

end Rack

/-! ### The device -/

namespace Device

/-- The device on the image of its drives. -/
def onBank (f : D → D') (d : Device W R D) : Device W R D' := { d with rack := d.rack.onBank f }

variable {f : D → D'}

section Hosts

variable [HostStorage W R]

theorem onBank_renameHost (i : Fin 8) (name : String) (r : Rack W R D) :
    renameHost i name (r.onBank f) = (renameHost i name r).onBank f := by
  unfold renameHost
  rw [Rack.onBank_rename, Rack.onBank_dropCursor]

theorem onBank_renameIfChanged (r : Rack W R D) (entry : Fin 8 × String) :
    renameIfChanged (r.onBank f) entry = (renameIfChanged r entry).onBank f := by
  unfold renameIfChanged
  rw [Rack.hosts_onBank, onBank_renameHost, apply_ite (Rack.onBank f)]

end Hosts

variable [DriveBay D] [DriveBay D'] (hf : BankMap f)
include hf

theorem shadows_assignRecords (entries : List (Fin 8 × DeviceRecord)) :
    Shadows (Rack.onBank f) (entries.forM assignRecord : Action (Rack W R D) Unit)
      (entries.forM assignRecord) := by
  induction entries with
  | nil => exact .pure _
  | cons entry entries ih => exact (Rack.shadows_pointDisk hf _ _ _ _).bind fun _ => ih

theorem onBank_switchDevice (active : Bool) (d : Device W R D) (device : UInt8) :
    switchDevice active (d.onBank f) device = (switchDevice active d device).onBank f := by
  have hswitch : DriveBay.switch device active (d.onBank f).rack.drives =
      (DriveBay.switch device active d.rack.drives).map id f := hf.switch _ _ _
  unfold switchDevice
  rw [hswitch]
  rfl

theorem applySwitches_map (settings : Settings) (drives : D) :
    applySwitches settings (f drives) = f (applySwitches settings drives) := by
  unfold applySwitches
  refine List.foldl_hom f fun drives i => ?_
  rw [hf.switch]
  rfl

/-- A device starts on the image as it starts on the bank. -/
theorem onBank_start [HostStorage W R] [SettingsStore W] (storage : W) (drives : D) (radio : Radio)
    (board : Board) (digester : Digester) :
    (start storage (f drives) radio board digester : Device W R D') =
      (start storage drives radio board digester : Device W R D).onBank f := by
  have hfill (settings : Settings) :
      Rack.fill settings ({ storage, drives := f drives } : Rack W R D') =
        (Rack.fill settings ({ storage, drives } : Rack W R D)).onBank f :=
    Rack.onBank_fill hf settings { storage, drives }
  unfold start
  simp only [hfill]
  unfold Rack.onBank onBank
  simp only [applySwitches_map hf]
  rfl

end Device

end StorageAdapter
