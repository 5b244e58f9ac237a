import StorageAdapter.Proofs.Rack

/-! # Runs of a rack

What may be done to a rack, each move in any order and with any arguments. Along every run, whatever
fails, a host has the kind of its name, one that is mounted has a name, and an image is only in a
slot that names it (`Rack.Sound`). -/

namespace StorageAdapter

open StorageAdapter.Action

/-- What may be done to a rack over storage `W` with hosts `R` and drives `D`. -/
inductive RackMove (W R D : Type) where
  | rename (i : Fin 8) (name : String)
  | mountHost (slot : UInt8)
  | unmountHost (slot : UInt8)
  | pointDisk (slot : UInt8) (host : Option UInt8) (mode : AccessMode) (filename : String)
  | mountImage (slot : UInt8) (mode : AccessMode)
  | unmountImage (slot : UInt8)
  | fill (settings : Settings)
  /-- A mounted host is used, as the directory cursor does. -/
  | useHost (i : Fin 8) (f : Mounted R → Mounted R)
  /-- The world around the slots changes. -/
  | outside (storage : W → W) (drives : D → D) (cursor : Cursor → Cursor)

variable {W R D : Type}

/-! ### What holds of the slots -/

/-- The kind is that of the name, and a host that is mounted has a name. -/
structure HostSlot.Sound (h : HostSlot R) : Prop where
  kind : h.KindOfName
  named : h.mount ≠ none → h.hostname ≠ ""

/-- An image is in a slot that names it. -/
def DiskSlot.Sound (d : DiskSlot) : Prop := d.image ≠ none → d.namesImage

theorem HostSlot.sound_empty : ({} : HostSlot R).Sound := ⟨.empty, fun hm => absurd rfl hm⟩

theorem HostSlot.sound_named (name : String) : (named name : HostSlot R).Sound :=
  ⟨.named name, fun hm => absurd rfl hm⟩

theorem DiskSlot.sound_of_none {d : DiskSlot} (h : d.image = none) : d.Sound := fun hd =>
  absurd h hd

namespace Rack

/-- All slots are sound. -/
structure Sound (r : Rack W R D) : Prop where
  host : ∀ i, (r.hosts.get i).Sound
  disk : ∀ i, (r.disks.get i).Sound

/-- A rack with nothing in its slots. -/
theorem sound_empty (storage : W) (drives : D) : ({ storage, drives } : Rack W R D).Sound where
  host i := by
    show (Slots.get (Vector.replicate 8 ({} : HostSlot R)) i).Sound
    rw [Slots.get_replicate]
    exact HostSlot.sound_empty
  disk i := by
    show (Slots.get (Vector.replicate 8 ({} : DiskSlot)) i).Sound
    rw [Slots.get_replicate]
    exact DiskSlot.sound_of_none rfl

section Parts

variable {r : Rack W R D} (h : r.Sound)
include h

theorem Sound.setStorage (w : W) : (r.setStorage w).Sound := ⟨h.host, h.disk⟩

theorem Sound.setDrives (drives : D) : ({ r with drives } : Rack W R D).Sound := ⟨h.host, h.disk⟩

theorem Sound.setHost {i : Fin 8} {host : HostSlot R} (hh : host.Sound) :
    (r.setHost i host).Sound where
  host j := by
    show ((r.hosts.set i host).get j).Sound
    rw [Slots.get_set]
    split
    · exact hh
    · exact h.host j
  disk := h.disk

theorem Sound.setDisk {i : Fin 8} {d : DiskSlot} (hd : d.Sound) : (r.setDisk i d).Sound where
  host := h.host
  disk j := by
    show ((r.disks.set i d).get j).Sound
    rw [Slots.get_set]
    split
    · exact hd
    · exact h.disk j

theorem Sound.mount {i : Fin 8} (hk : (r.hosts.get i).kind ≠ .unused) (m : Mounted R) :
    (r.setHost i { r.hosts.get i with mount := some m }).Sound :=
  h.setHost ⟨(h.host i).kind, fun _ => mt (h.host i).kind.kind_eq_unused_iff.2 hk⟩

theorem Sound.unmount (i : Fin 8) : (r.setHost i { r.hosts.get i with mount := none }).Sound :=
  h.setHost ⟨(h.host i).kind, fun hm => absurd rfl hm⟩

variable [DriveBay D]

theorem Sound.assign (i : Fin 8) {d : DiskSlot} (hd : d.image = none) : (r.assign i d).Sound := by
  obtain ⟨drives, hr⟩ := assign_eq i d r
  rw [hr]
  exact (h.setDrives drives).setDisk (DiskSlot.sound_of_none hd)

/-- A slot that is ready names the image that is loaded into it. -/
theorem Sound.load {i : Fin 8} (hr : r.Ready i) (mode : AccessMode) (size : Nat) :
    (r.loaded i mode size).Sound := by
  obtain ⟨hf, host, -, hh, -⟩ := hr
  refine (h.setDrives _).setDisk fun _ => ?_
  unfold DiskSlot.namesImage
  simp only [hh, Option.isSome_some, Bool.true_and, bne_iff_ne]
  exact hf

theorem Sound.fill [HostStorage W R] (settings : Settings) :
    (r.fill settings).Sound where
  host i := by
    rw [hosts_fill]
    unfold HostSlot.filled
    split
    · exact h.host i
    · exact HostSlot.sound_named _
  disk i := by
    rw [disks_fill]
    unfold DiskSlot.filled
    split
    · exact h.disk i
    · exact DiskSlot.sound_of_none rfl

end Parts

/-! ### Moves -/

variable [HostStorage W R] [DriveBay D]

/-- The rack after a move. -/
def move (r : Rack W R D) : RackMove W R D → Rack W R D
  | .rename i name => r.rename i name
  | .mountHost slot => (mountHost slot).after r
  | .unmountHost slot => (unmountHost slot).after r
  | .pointDisk slot host mode filename => (pointDisk slot host mode filename).after r
  | .mountImage slot mode => (mountImage slot mode).after r
  | .unmountImage slot => (unmountImage slot).after r
  | .fill settings => r.fill settings
  | .useHost i f => r.setHost i { r.hosts.get i with mount := (r.hosts.get i).mount.map f }
  | .outside storage drives cursor =>
    { r with
      storage := storage r.storage
      drives := drives r.drives
      cursor := cursor r.cursor }

/-- The rack after a run of moves. -/
def run (r : Rack W R D) (moves : List (RackMove W R D)) : Rack W R D := moves.foldl move r

omit [DriveBay D] in
theorem after_mountHost {slot : UInt8} {i : Fin 8} (hi : hostIndex slot = .ok i)
    (r : Rack W R D) : (mountHost slot).after r = (connect i).after r := by
  unfold mountHost
  rw [hi, after_lift_ok]

omit [DriveBay D] in
/-- What using the storage and mounting a host with a name leave, mounting any host leaves. -/
theorem keeps_mountHost {P : Rack W R D → Prop}
    (hstorage : ∀ {r w}, P r → Reached r.storage w → P (r.setStorage w))
    (hmount : ∀ {r} i root, P r → (r.hosts.get i).kind ≠ .unused →
      P (r.setHost i { r.hosts.get i with mount := some { root } })) (slot : UInt8) :
    Keeps P (mountHost slot) := by
  refine keeps_iff.2 fun r hr => ?_
  rcases hi : hostIndex slot with e | i
  · unfold mountHost
    rw [hi]
    exact hr
  rw [after_mountHost hi]
  obtain ⟨w, hw, hc | ⟨-, hk, root, hc⟩⟩ := connect_cases i r <;> rw [hc]
  · exact hstorage hr hw
  · exact hmount i root (hstorage hr hw) hk

/-- **A move keeps all slots sound.** -/
theorem Sound.move {r : Rack W R D} (h : r.Sound) (m : RackMove W R D) : (r.move m).Sound := by
  cases m with
  | rename i name =>
    obtain ⟨w, -, hr⟩ := rename_eq i name r
    show (r.rename i name).Sound
    rw [hr]
    exact (h.setStorage w).setHost (HostSlot.sound_named name)
  | mountHost slot =>
    exact keeps_iff.1 (keeps_mountHost (fun hr _ => hr.setStorage _)
      (fun i root hr hk => hr.mount hk { root }) slot) r h
  | unmountHost slot =>
    show ((unmountHost slot).after r).Sound
    unfold unmountHost
    rcases hostIndex slot with e | i
    · exact h
    · obtain ⟨w, -, hr⟩ := after_disconnect i r
      rw [after_lift_ok, hr]
      exact (h.setStorage w).unmount i
  | pointDisk slot host mode filename =>
    show ((pointDisk slot host mode filename).after r).Sound
    exact (keeps_iff (P := Sound)).1 (ends_pointDisk fun i _ _ _ _ hr => Sound.assign hr i rfl) r h
  | mountImage slot mode =>
    show ((mountImage slot mode).after r).Sound
    exact (keeps_iff (P := Sound)).1 (ends_mountImage (fun hr _ => Sound.setStorage hr _)
      (fun i root hr _ hk => Sound.mount hr hk { root })
      fun i size _ hready hr => Sound.load hr hready mode size) r h
  | unmountImage slot =>
    show ((unmountImage slot).after r).Sound
    unfold unmountImage
    rcases diskIndex slot with e | i
    · exact h
    · exact (h.setDrives _).setDisk (DiskSlot.sound_of_none rfl)
  | fill settings => exact h.fill settings
  | useHost i f =>
    refine h.setHost ⟨(h.host i).kind, fun hm => (h.host i).named ?_⟩
    exact fun hn => hm (congrArg (Option.map f) hn)
  | outside storage drives cursor => exact ⟨h.host, h.disk⟩

/-- **All slots are sound along every run.** -/
theorem Sound.run {r : Rack W R D} (h : r.Sound) (moves : List (RackMove W R D)) :
    (r.run moves).Sound :=
  List.foldlRecOn moves Rack.move h fun _ hs m _ => hs.move m

end Rack

end StorageAdapter
