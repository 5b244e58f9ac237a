import StorageAdapter.Proofs.Action
import StorageAdapter.Proofs.Text
import StorageAdapter.KeySession
import StorageAdapter.Rack.Configured
import StorageAdapter.Rack.Directory

/-! # What is done to the rack

Each action on the rack comes down to three things: some use of the hosts (`Reached`), another entry
in a slot, and another state of the drives. The lemmas here say which, so that what holds of a rack
is carried over without opening an action again. What the directory cursor does touches nothing but
the cursor and the listings of the hosts (`SameButListings`). -/

namespace StorageAdapter

open StorageAdapter.Action

namespace Slots

variable {α : Type}

theorem get_set (xs : Slots α) (i j : Fin 8) (a : α) :
    (xs.set i a).get j = if j = i then a else xs.get j := by
  by_cases h : j = i
  · rw [if_pos h, h, get_set_self]
  · rw [if_neg h, get_set_of_ne xs h]

@[simp] theorem set_get (xs : Slots α) (i : Fin 8) : xs.set i (xs.get i) = xs := by
  simp [get, set]

@[simp] theorem set_set (xs : Slots α) (i : Fin 8) (a b : α) :
    (xs.set i a).set i b = xs.set i b := by
  simp [set]

@[simp] theorem get_replicate (a : α) (i : Fin 8) : Slots.get (Vector.replicate 8 a) i = a := by
  simp [get]

@[simp] theorem get_map {β : Type} (xs : Slots α) (f : α → β) (i : Fin 8) :
    Slots.get (xs.map f) i = f (xs.get i) := by
  simp [get]

end Slots

theorem Mounted.next_cases {R : Type} (m : Mounted R) :
    m.next = (none, m) ∨ ∃ entry l, m.listing = some l ∧
      m.next = (some entry, { m with listing := some { l with position := l.position + 1 } }) := by
  unfold Mounted.next
  rcases hl : m.listing with _ | l
  · exact .inl rfl
  · rcases he : l.entries[l.position]? with _ | entry
    · refine .inl ?_
      simp only [Listing.next, he]
      rw [← hl]
    · exact .inr ⟨entry, l, rfl, by simp only [Listing.next, he]⟩

variable {W R D : Type} [HostStorage W R]

/-! ### Use of the storage -/

/-- The storage after any use of its hosts. -/
inductive Reached (w : W) : W → Prop where
  | nothing : Reached w w
  | connect {v : W} (name : String) (kind : HostKind) :
    Reached w v → Reached w ((HostStorage.connect name kind).after v)
  | openImage {v : W} (root : R) (path : String) (mode : AccessMode) :
    Reached w v → Reached w ((HostStorage.openImage root path mode).after v)
  | release {v : W} (root : R) : Reached w v → Reached w ((HostStorage.release root).after v)

theorem Reached.trans {u v w : W} (h : Reached u v) (h' : Reached v w) : Reached u w := by
  induction h' with
  | nothing => exact h
  | connect name kind _ ih => exact .connect name kind ih
  | openImage root path mode _ ih => exact .openImage root path mode ih
  | release root _ ih => exact .release root ih

section Used

variable [KeyStorage W]

/-- The storage after any use except saving settings. -/
inductive Used (w : W) : W → Prop where
  | nothing : Used w w
  | connect {v : W} (name : String) (kind : HostKind) :
    Used w v → Used w ((HostStorage.connect name kind).after v)
  | openImage {v : W} (root : R) (path : String) (mode : AccessMode) :
    Used w v → Used w ((HostStorage.openImage root path mode).after v)
  | release {v : W} (root : R) : Used w v → Used w ((HostStorage.release root).after v)
  | createDir {v : W} (path : String) : Used w v → Used w ((KeyStorage.createDir path).after v)
  | write {v : W} (path : String) (data : Bytes) :
    Used w v → Used w ((KeyStorage.write path data).after v)

theorem Reached.used {w v : W} (h : Reached w v) : Used w v := by
  induction h with
  | nothing => exact .nothing
  | connect name kind _ ih => exact .connect name kind ih
  | openImage root path mode _ ih => exact .openImage root path mode ih
  | release root _ ih => exact .release root ih

/-- Writing the file of a key makes its directory, at most, and then the file. -/
theorem keeps_writeFile {W : Type} [KeyStorage W] {P : W → Prop}
    (hdir : ∀ path, Keeps P (KeyStorage.createDir path))
    (hwrite : ∀ path data, Keeps P (KeyStorage.write path data)) (k : AppKey) (data : Bytes) :
    Keeps P (KeySession.writeFile k data) := by
  unfold KeySession.writeFile
  refine Keeps.guard fun _ => Keeps.get.bind fun _ => Keeps.guard fun _ => ?_
  exact (hdir _).bind fun _ => (hwrite _ _).bind fun _ => Keeps.guard fun _ => Keeps.pure _

theorem used_writeFile (k : AppKey) (data : Bytes) (w : W) :
    Used w ((KeySession.writeFile k data).after w) := by
  have h : Keeps (Used w) (KeySession.writeFile k data) :=
    keeps_writeFile (fun path => keeps_iff.2 fun v h => .createDir path h)
      (fun path data => keeps_iff.2 fun v h => .write path data h) k data
  exact keeps_iff.1 h w .nothing

end Used

namespace Rack

/-! ### Slot numbers -/

theorem slotIndex_of_lt (kind : SlotTable) {slot : UInt8} (h : slot.toNat < 8) :
    slotIndex kind slot = .ok ⟨slot.toNat, h⟩ := dif_pos h

theorem slotIndex_of_le (kind : SlotTable) {slot : UInt8} (h : 8 ≤ slot.toNat) :
    slotIndex kind slot = .error (.slotRange kind slot) := dif_neg (Nat.not_lt.2 h)

theorem toNat_unit (i : Fin 8) : (unit i).toNat = i := by
  unfold unit
  rw [UInt8.toNat_ofNat']
  omega

theorem slotIndex_unit (kind : SlotTable) (i : Fin 8) : slotIndex kind (unit i) = .ok i := by
  have h := toNat_unit i
  rw [slotIndex_of_lt kind (by omega)]
  exact congrArg Except.ok (Fin.ext h)

theorem unit_inj {i j : Fin 8} (h : unit i = unit j) : i = j := by
  have hi := slotIndex_unit .device i
  rw [h, slotIndex_unit] at hi
  exact (Except.ok.inj hi).symm

theorem eq_unit_of_slotIndex {kind : SlotTable} {slot : UInt8} {i : Fin 8}
    (h : slotIndex kind slot = .ok i) : slot = unit i := by
  unfold slotIndex at h
  split at h
  · rw [← Except.ok.inj h]
    exact (UInt8.ofNat_toNat).symm
  · cases h

/-- The rack with its storage replaced. -/
def setStorage (r : Rack W R D) (storage : W) : Rack W R D := { r with storage }

omit [HostStorage W R] in
theorem onStorage_ok {α : Type} {act : Action W α} {r : Rack W R D} {a : α} {w : W}
    (h : act r.storage = .ok a w) : onStorage act r = .ok a (r.setStorage w) := by
  unfold onStorage Action.on
  rw [h]
  rfl

/-! ### Hosts -/

/-- Mounting a host leaves the rack alone if the host is mounted or has no name. If not, it asks the
storage for the host. -/
theorem connect_eq (i : Fin 8) (r : Rack W R D) :
    (connect i).after r = r ∨ (r.hosts.get i).mount = none ∧ (r.hosts.get i).kind ≠ .unused ∧
      (connect i).after r =
        match HostStorage.connect (r.hosts.get i).hostname (r.hosts.get i).kind r.storage with
        | .ok root w => (r.setStorage w).setHost i { r.hosts.get i with mount := some { root } }
        | .error _ w => r.setStorage w := by
  unfold connect
  rw [after_get_bind]
  by_cases hm : (r.hosts.get i).isMounted
  · rw [if_pos hm]
    exact .inl rfl
  rw [if_neg hm]
  have hm : (r.hosts.get i).mount = none := by simpa [HostSlot.isMounted] using hm
  by_cases hk : (r.hosts.get i).kind = .unused
  · rw [if_pos hk]
    exact .inl rfl
  refine .inr ⟨hm, hk, ?_⟩
  rw [if_neg hk, after_bind]
  unfold onStorage Action.on
  rcases HostStorage.connect (r.hosts.get i).hostname (r.hosts.get i).kind r.storage with
    ⟨root, w⟩ | ⟨e, w⟩ <;> rfl

/-- Mounting a host uses the storage and, at most, mounts a host that was not mounted and that has a
name. -/
theorem connect_cases (i : Fin 8) (r : Rack W R D) :
    ∃ w, Reached r.storage w ∧ ((connect i).after r = r.setStorage w ∨
      (r.hosts.get i).mount = none ∧ (r.hosts.get i).kind ≠ .unused ∧ ∃ root, (connect i).after r =
        (r.setStorage w).setHost i { r.hosts.get i with mount := some { root } }) := by
  obtain h | ⟨hm, hk, h⟩ := connect_eq i r <;> rw [h]
  · exact ⟨r.storage, .nothing, .inl rfl⟩
  refine ⟨_, .connect (r.hosts.get i).hostname (r.hosts.get i).kind .nothing, ?_⟩
  unfold after
  rcases HostStorage.connect (r.hosts.get i).hostname (r.hosts.get i).kind r.storage with
    ⟨root, w⟩ | ⟨e, w⟩
  · exact .inr ⟨hm, hk, root, rfl⟩
  · exact .inl rfl

section Connect

variable {i : Fin 8} {r : Rack W R D} (hm : (r.hosts.get i).mount = none)
  (hk : (r.hosts.get i).kind ≠ .unused) {root : R} {w : W}
  (hc : HostStorage.connect (r.hosts.get i).hostname (r.hosts.get i).kind r.storage = .ok root w)

include hm hk hc

theorem connect_ok : connect i r =
    .ok () ((r.setStorage w).setHost i { r.hosts.get i with mount := some { root } }) := by
  have hn : ¬(r.hosts.get i).isMounted := by
    unfold HostSlot.isMounted
    rw [hm]
    exact Bool.false_ne_true
  unfold connect
  rw [bind_apply, get_apply]
  simp only
  rw [if_neg hn, if_neg hk, bind_apply, onStorage_ok hc]
  rfl

theorem after_connect : (connect i).after r =
    (r.setStorage w).setHost i { r.hosts.get i with mount := some { root } } := by
  unfold after
  rw [connect_ok hm hk hc]

end Connect

/-- There is nothing to unmount in a slot whose host is not mounted. -/
theorem after_disconnect_none {i : Fin 8} {r : Rack W R D} (hm : (r.hosts.get i).mount = none) :
    (disconnect i).after r = r := by
  unfold disconnect
  rw [after_get_bind]
  simp only [hm]
  rfl

/-- A host that is unmounted is let go. -/
theorem after_disconnect_some {i : Fin 8} {r : Rack W R D} {m : Mounted R}
    (hm : (r.hosts.get i).mount = some m) : (disconnect i).after r =
      (r.setStorage ((HostStorage.release m.root).after r.storage)).setHost i
        { r.hosts.get i with mount := none } := by
  unfold disconnect
  rw [after_get_bind]
  simp only [hm]
  unfold onStorage
  rw [after_bind]
  exact after_on _ _ _ _

/-- Unmounting a host uses the storage and leaves the host unmounted. -/
theorem after_disconnect (i : Fin 8) (r : Rack W R D) :
    ∃ w, Reached r.storage w ∧ (disconnect i).after r =
      (r.setStorage w).setHost i { r.hosts.get i with mount := none } := by
  rcases hm : (r.hosts.get i).mount with _ | m
  · refine ⟨r.storage, .nothing, ?_⟩
    rw [after_disconnect_none hm]
    show r = { r with hosts := r.hosts.set i { r.hosts.get i with mount := none } }
    rw [← hm, Slots.set_get]
  · exact ⟨_, .release m.root .nothing, after_disconnect_some hm⟩

theorem rename_eq (i : Fin 8) (name : String) (r : Rack W R D) :
    ∃ w, Reached r.storage w ∧ r.rename i name =
      (r.setStorage w).setHost i (.named name) := by
  obtain ⟨w, hw, h⟩ := after_disconnect i r
  refine ⟨w, hw, ?_⟩
  unfold rename
  rw [h]
  unfold setHost
  rw [Slots.set_set]

/-! ### Disks -/

variable [DriveBay D]

/-- The rack after an image of some size was put into the drive of a disk slot. -/
def loaded (i : Fin 8) (mode : AccessMode) (size : Nat) (r : Rack W R D) : Rack W R D :=
  let disk := r.disks.get i
  let answer := DriveBay.insert (unit i)
    ⟨disk.filename, size, MediaType.ofFilename disk.filename⟩ r.drives
  ({ r with drives := answer.2 }).setDisk i { disk with mode, image := some ⟨size, answer.1⟩ }

omit [HostStorage W R] in
theorem disks_loaded (i : Fin 8) (mode : AccessMode) (size : Nat) (r : Rack W R D) :
    ∃ image, (r.loaded i mode size).disks.get i =
      { r.disks.get i with mode, image := some image } := ⟨_, Slots.get_set_self _ _ _⟩

/-- A disk slot is ready for its image: it names a file, and the host of the file is mounted. -/
def Ready (r : Rack W R D) (i : Fin 8) : Prop :=
  (r.disks.get i).filename ≠ "" ∧ ∃ host mounted,
    (r.disks.get i).hostSlot = some host ∧ (r.hosts.get host).mount = some mounted

/-- Where a disk slot takes its image from: the root of its mounted host, and the path. -/
def source? (r : Rack W R D) (i : Fin 8) : Option (R × String) :=
  (r.disks.get i).hostSlot.bind fun host =>
    (r.hosts.get host).mount.map fun mounted => (mounted.root, (r.disks.get i).filename)

omit [DriveBay D] in
theorem disks_connect (i : Fin 8) (r : Rack W R D) : ((connect i).after r).disks = r.disks := by
  obtain ⟨w, -, h | ⟨-, -, root, h⟩⟩ := connect_cases i r <;> rw [h] <;> rfl

/-- **Mounting an image** mounts its host, opens it where the slot, which is then ready, takes it
from and, if that succeeds, loads it into the slot. What mounting the host keeps, `P`, is there at
the end if the image was not asked for, and what opening it leaves, `O`, if it could not be
opened. -/
theorem ends_mountImage_of_opening {P O Q : Rack W R D → Prop} {slot : UInt8} {mode : AccessMode}
    (hconnect : ∀ {r} i, P r → P ((connect i).after r))
    (hopen : ∀ {r} i root, diskIndex slot = .ok i → r.Ready i →
      r.source? i = some (root, (r.disks.get i).filename) → P r →
        O (r.setStorage
          ((HostStorage.openImage root (r.disks.get i).filename mode).after r.storage)))
    (hload : ∀ {r} i size, diskIndex slot = .ok i → r.Ready i → O r → Q (r.loaded i mode size)) :
    Ends P (mountImage slot mode) (fun _ => Q) fun _ r => P r ∨ O r := by
  unfold mountImage
  refine Ends.bind (Q := fun i r => P r ∧ diskIndex slot = .ok i)
    (ends_lift (fun _ hi _ hr => ⟨hr, hi⟩) fun _ _ _ hr => .inl hr) fun i => ?_
  -- the slot is read at the beginning and must still be there when the image is loaded
  refine Ends.bind (Q := fun before r => P r ∧ diskIndex slot = .ok i ∧ r.disks = before.disks)
    (ends_get fun r hr => ⟨hr.1, hr.2, rfl⟩) fun before => ?_
  rcases hh : (before.disks.get i).hostSlot with _ | host
  · simp only [hh]
    exact ends_throw fun _ h => .inl h.1
  simp only [hh]
  refine Ends.guard (fun _ _ h => .inl h.1) fun hf => ?_
  refine Ends.bind (Q := fun _ r => P r ∧ diskIndex slot = .ok i ∧ r.disks = before.disks)
    ?_ fun _ => ?_
  · refine Ends.mono (E := fun _ r => P r ∧ diskIndex slot = .ok i ∧ r.disks = before.disks)
      (keeps_iff.2 fun r hr => ?_) (fun _ h => h) (fun _ _ h => h) fun _ _ h => .inl h.1
    exact ⟨hconnect host hr.1, hr.2.1, (disks_connect host r).trans hr.2.2⟩
  refine Ends.bind (Q := fun found r => P r ∧ diskIndex slot = .ok i ∧ r.disks = before.disks ∧
    r.hosts = found.hosts) (ends_get fun r hr => ⟨hr.1, hr.2.1, hr.2.2, rfl⟩) fun found => ?_
  rcases hm : (found.hosts.get host).mount with _ | mounted
  · simp only
    exact ends_throw fun _ h => .inl h.1
  simp only
  have hready : ∀ {r : Rack W R D}, r.disks = before.disks → r.hosts = found.hosts →
      r.Ready i := by
    intro r hd hhosts
    exact ⟨by rw [hd]; exact hf, host, mounted, by rw [hd]; exact hh, by rw [hhosts]; exact hm⟩
  refine Ends.bind (Q := fun _ r => O r ∧ diskIndex slot = .ok i ∧ r.disks = before.disks ∧
    r.hosts = found.hosts) ?_ fun size => ?_
  · refine Ends.mono (E := fun _ r => O r ∧ diskIndex slot = .ok i ∧ r.disks = before.disks ∧
      r.hosts = found.hosts) (ends_after.2 fun r hr => ?_) (fun _ h => h) (fun _ _ h => h)
      fun _ _ h => .inr h.1
    obtain ⟨hr, hi, hd, hhosts⟩ := hr
    have hsource : r.source? i = some (mounted.root, (r.disks.get i).filename) := by
      unfold source?
      rw [hd, hhosts, hh, Option.bind_some, hm]
      rfl
    have ho := hopen i mounted.root hi (hready hd hhosts) hsource hr
    unfold onStorage
    rw [after_on, ← hd]
    exact ⟨ho, hi, rfl, hhosts⟩
  · rintro r ⟨hr, hi, hd, hhosts⟩
    rw [← hh, ← hd]
    exact hload i size hi (hready hd hhosts) hr

/-- **Mounting an image** mounts its host, opens it there and, if that succeeds, loads it into the
slot, which is then ready. What the first two keep, `P`, is there at the end if it fails. -/
theorem ends_mountImage_of_connect {P Q : Rack W R D → Prop} {slot : UInt8} {mode : AccessMode}
    (hconnect : ∀ {r} i, P r → P ((connect i).after r))
    (hopen : ∀ {r} root path, P r →
      P (r.setStorage ((HostStorage.openImage root path mode).after r.storage)))
    (hload : ∀ {r} i size, diskIndex slot = .ok i → r.Ready i → P r → Q (r.loaded i mode size)) :
    Ends P (mountImage slot mode) (fun _ => Q) fun _ => P :=
  (ends_mountImage_of_opening hconnect (fun _ root _ _ _ hr => hopen root _ hr) hload).mono
    (fun _ hr => hr) (fun _ _ hr => hr) fun _ _ hr => hr.elim id id

/-- Mounting an image uses the storage, mounts a host that was not mounted, and loads the image. -/
theorem ends_mountImage {P Q : Rack W R D → Prop} {slot : UInt8} {mode : AccessMode}
    (hstorage : ∀ {r w}, P r → Reached r.storage w → P (r.setStorage w))
    (hmount : ∀ {r} i root, P r → (r.hosts.get i).mount = none → (r.hosts.get i).kind ≠ .unused →
      P (r.setHost i { r.hosts.get i with mount := some { root } }))
    (hload : ∀ {r} i size, diskIndex slot = .ok i → r.Ready i → P r → Q (r.loaded i mode size)) :
    Ends P (mountImage slot mode) (fun _ => Q) fun _ => P := by
  refine ends_mountImage_of_connect (fun {r} i hr => ?_)
    (fun root path hr => hstorage hr (.openImage root path mode .nothing)) hload
  obtain ⟨w, hw, h | ⟨hm, hk, root, h⟩⟩ := connect_cases i r <;> rw [h]
  · exact hstorage hr hw
  · exact hmount i root (hstorage hr hw) hm hk

/-- An image is loaded if its host is mounted and has the file. -/
theorem after_mountImage {slot : UInt8} {mode : AccessMode} {i host : Fin 8} {r s : Rack W R D}
    {mounted : Mounted R} {size : Nat} {w : W} (hi : diskIndex slot = .ok i)
    (hh : (r.disks.get i).hostSlot = some host) (hf : (r.disks.get i).filename ≠ "")
    (hc : connect host r = .ok () s) (hd : s.disks = r.disks)
    (hm : (s.hosts.get host).mount = some mounted)
    (ho : HostStorage.openImage mounted.root (r.disks.get i).filename mode s.storage =
      .ok size w) : (mountImage slot mode).after r = (s.setStorage w).loaded i mode size := by
  unfold mountImage
  rw [hi, after_lift_ok, after_get_bind]
  simp only [hh]
  rw [if_neg hf, after_bind, hc]
  simp only
  rw [after_get_bind]
  simp only [hm]
  rw [after_bind, onStorage_ok ho, ← hh, ← hd]
  rfl

omit [HostStorage W R] in
/-- Pointing a disk slot at a file either fails or assigns the slot. -/
theorem ends_pointDisk {P Q : Rack W R D → Prop} {slot : UInt8} {host : Option UInt8}
    {mode : AccessMode} {filename : String} (hassign : ∀ {r} i h, diskIndex slot = .ok i →
      host.mapM hostIndex = Except.ok h → Text.size filename ≤ DiskSlot.filenameLimit → P r →
        Q (r.assign i (.assigned filename h mode))) :
    Ends P (pointDisk slot host mode filename) (fun _ => Q) fun _ => P := by
  unfold pointDisk
  refine Ends.bind (Q := fun i r => P r ∧ diskIndex slot = .ok i)
    (ends_lift (fun _ hi _ hr => ⟨hr, hi⟩) fun _ _ _ hr => hr) fun i => ?_
  refine Ends.bind
    (Q := fun h r => P r ∧ diskIndex slot = .ok i ∧ host.mapM hostIndex = Except.ok h)
    (ends_lift (fun _ hh _ hr => ⟨hr.1, hr.2, hh⟩) fun _ _ _ hr => hr.1) fun h => ?_
  refine Ends.guard (fun _ _ hr => hr.1) fun hn => ends_modify fun r hr => ?_
  exact hassign i h hr.2.1 hr.2.2 (Nat.not_lt.1 hn) hr.1

end Rack

/-! ### Filling the slots -/

section Pass

variable {σ α : Type} (view : σ → Fin 8 → α) (visit : σ → Fin 8 → σ) (f : Fin 8 → α → α)

/-- A pass over some slots, each visited once, where a visit changes no other slot. -/
theorem Slots.get_foldl (hself : ∀ s i, view (visit s i) i = f i (view s i))
    (hother : ∀ s i j, j ≠ i → view (visit s i) j = view s j) (s : σ) (j : Fin 8) :
    ∀ l : List (Fin 8), l.Nodup → (j ∈ l → view (l.foldl visit s) j = f j (view s j)) ∧
      (j ∉ l → view (l.foldl visit s) j = view s j) := by
  intro l
  induction l generalizing s with
  | nil => exact fun _ => ⟨fun h => absurd h List.not_mem_nil, fun _ => rfl⟩
  | cons i l ih =>
    intro hl
    rw [List.nodup_cons] at hl
    obtain ⟨hin, hout⟩ := ih (visit s i) hl.2
    rw [List.foldl_cons, List.mem_cons]
    by_cases hji : j = i
    · subst hji
      refine ⟨fun _ => ?_, fun hj => absurd (.inl rfl) hj⟩
      rw [hout hl.1, hself]
    · refine ⟨fun hj => ?_, fun hj => ?_⟩
      · rw [hin (hj.resolve_left hji), hother s i j hji]
      · rw [hout fun h => hj (.inr h), hother s i j hji]

/-- A pass over all slots. -/
theorem Slots.get_foldl_finRange (hself : ∀ s i, view (visit s i) i = f i (view s i))
    (hother : ∀ s i j, j ≠ i → view (visit s i) j = view s j) (s : σ) (j : Fin 8) :
    view ((List.finRange 8).foldl visit s) j = f j (view s j) := by
  obtain ⟨hin, -⟩ := Slots.get_foldl view visit f hself hother s j _ (List.nodup_finRange 8)
  exact hin (List.mem_finRange j)

end Pass

/-- The host slot when it was filled: it keeps its host only if it has the name in the settings. -/
def HostSlot.filled (s : HostSettings) (h : HostSlot R) : HostSlot R :=
  if h.hostname = s.hostname then h else named s.hostname

theorem HostKind.ofHostname_eq_unused_iff {name : String} :
    ofHostname name = .unused ↔ name = "" := by
  unfold ofHostname
  constructor
  · intro hk
    by_contra hn
    rw [if_neg hn] at hk
    split at hk <;> cases hk
  · intro hn
    exact if_pos hn

omit [HostStorage W R] in
@[simp] theorem HostSlot.mount_named (name : String) : (named name : HostSlot R).mount = none := rfl

/-- The kind in the slot is that of its name. -/
def HostSlot.KindOfName (h : HostSlot R) : Prop := h.kind = HostKind.ofHostname h.hostname

namespace HostSlot.KindOfName

theorem empty : ({} : HostSlot R).KindOfName := rfl

theorem named (name : String) : (HostSlot.named name : HostSlot R).KindOfName := rfl

variable {h : HostSlot R}

theorem kind_eq_unused_iff (hh : h.KindOfName) : h.kind = .unused ↔ h.hostname = "" := by
  rw [hh, HostKind.ofHostname_eq_unused_iff]

theorem filled (hh : h.KindOfName) (s : HostSettings) : (h.filled s).KindOfName := by
  unfold HostSlot.filled
  split
  · exact hh
  · exact named s.hostname

end HostSlot.KindOfName

omit [HostStorage W R] in
theorem HostSlot.hostname_filled {h : HostSlot R}
    (hs : Text.size h.hostname ≤ nameLimit) (s : HostSettings) :
    (h.filled s).hostname = Text.clip nameLimit s.hostname := by
  unfold filled
  split
  · next he => rw [← he, Text.clip_of_size_le hs]
  · rfl

omit [HostStorage W R] in
theorem HostSlot.hostname_toSettings {h : HostSlot R} (hh : h.KindOfName) :
    h.toSettings.hostname = h.hostname := by
  unfold toSettings HostSettings.hostname
  by_cases hn : h.hostname = ""
  · rw [if_pos hn, hn]
    rfl
  · rw [if_neg hn]
    exact if_neg (mt hh.kind_eq_unused_iff.1 hn)

/-- An unmounted disk slot as the settings say. -/
def DiskSlot.ofSettings (s : DiskSettings) : DiskSlot := assigned s.filename s.host? s.mode

/-- The disk slot when it was filled: it keeps its image only if it is as the settings say. -/
def DiskSlot.filled (s : DiskSettings) (d : DiskSlot) : DiskSlot :=
  if d.agrees s then d else ofSettings s

namespace DiskSlot

variable {d : DiskSlot} {s : DiskSettings}

theorem agrees_iff :
    d.agrees s ↔ d.filename = s.filename ∧ d.hostSlot = s.host? ∧ d.mode = s.mode := by
  unfold agrees
  simp only [Bool.and_eq_true, beq_iff_eq, and_assoc]

theorem namesImage_iff : d.namesImage ↔ d.hostSlot ≠ none ∧ d.filename ≠ "" := by
  unfold namesImage
  rw [Bool.and_eq_true, bne_iff_ne, Option.isSome_iff_ne_none]

theorem filled_of_agrees (h : d.agrees s) : d.filled s = d := if_pos h

theorem filled_of_not_agrees (h : ¬d.agrees s) : d.filled s = ofSettings s := if_neg h

theorem filled_filled (d : DiskSlot) (s : DiskSettings) : (d.filled s).filled s = d.filled s := by
  by_cases h : d.agrees s
  · rw [filled_of_agrees h, filled_of_agrees h]
  · rw [filled_of_not_agrees h]
    exact ite_self _

theorem host?_toSettings (h : d.namesImage) : d.toSettings.host? = d.hostSlot := by
  obtain ⟨host, hh⟩ := Option.ne_none_iff_exists'.1 (namesImage_iff.1 h).1
  unfold toSettings DiskSettings.host? Rack.hostIndex
  rw [if_pos h, hh]
  simp only [Option.map_some, Option.bind_some, Rack.slotIndex_unit]
  rfl

/-- A slot that names an image is as it is saved. -/
theorem agrees_toSettings (h : d.namesImage) : d.agrees d.toSettings := by
  have hs : d.toSettings = ⟨d.hostSlot.map Rack.unit, d.filename, d.mode⟩ := if_pos h
  refine agrees_iff.2 ⟨?_, (host?_toSettings h).symm, by rw [hs]⟩
  unfold DiskSettings.filename
  rw [host?_toSettings h, if_pos (Option.isSome_iff_ne_none.2 (namesImage_iff.1 h).1), hs]

theorem filled_toSettings_of_not_namesImage (hn : ¬d.namesImage) :
    d.filled d.toSettings = { image := if d.agrees {} then d.image else none } := by
  have hs : d.toSettings = {} := if_neg hn
  rw [hs]
  by_cases ha : d.agrees {}
  · rw [filled_of_agrees ha, if_pos ha]
    obtain ⟨hf, hh, hm⟩ := agrees_iff.1 ha
    rcases d with ⟨filename, host, mode, image⟩
    obtain rfl : filename = "" := hf
    obtain rfl : host = none := hh
    obtain rfl : mode = .read := hm
    rfl
  · rw [filled_of_not_agrees ha, if_neg ha]
    rfl

end DiskSlot

namespace Rack

theorem fillHost_eq (settings : Settings) (r : Rack W R D) (i : Fin 8) :
    ∃ w, Reached r.storage w ∧ r.fillHost settings i =
      (r.setStorage w).setHost i ((r.hosts.get i).filled (settings.hosts.get i)) := by
  unfold fillHost HostSlot.filled
  by_cases h : (r.hosts.get i).hostname = (settings.hosts.get i).hostname
  · refine ⟨r.storage, .nothing, ?_⟩
    rw [if_pos h, if_pos h]
    show r = { r with hosts := r.hosts.set i (r.hosts.get i) }
    rw [Slots.set_get]
  · rw [if_neg h, if_neg h]
    exact rename_eq i _ r

/-- Filling the host slots changes them, and the storage is used for that. -/
theorem fillHosts_eq (settings : Settings) (r : Rack W R D) :
    ∃ w hosts, Reached r.storage w ∧ (List.finRange 8).foldl (fillHost settings) r =
      { r with storage := w, hosts } := by
  refine List.foldlRecOn (List.finRange 8) (fillHost settings)
    (motive := fun s => ∃ w hosts, Reached r.storage w ∧ s = { r with storage := w, hosts })
    ⟨r.storage, r.hosts, .nothing, rfl⟩ ?_
  rintro s ⟨w, hosts, hw, rfl⟩ i -
  obtain ⟨v, hv, h⟩ := fillHost_eq settings { r with storage := w, hosts } i
  exact ⟨v, _, hw.trans hv, h⟩

variable [DriveBay D]

section Assign

omit [HostStorage W R]

theorem assign_eq (i : Fin 8) (d : DiskSlot) (r : Rack W R D) :
    ∃ drives, r.assign i d = { r with drives, disks := r.disks.set i d } := by
  unfold assign
  split <;> exact ⟨_, rfl⟩

theorem fillDisk_eq (settings : Settings) (r : Rack W R D) (i : Fin 8) :
    ∃ drives, r.fillDisk settings i = { r with
      drives, disks := r.disks.set i ((r.disks.get i).filled (settings.mounts.get i)) } := by
  unfold fillDisk DiskSlot.filled
  by_cases h : (r.disks.get i).agrees (settings.mounts.get i)
  · refine ⟨r.drives, ?_⟩
    rw [if_pos h, if_pos h, Slots.set_get]
  · rw [if_neg h, if_neg h]
    exact assign_eq i _ r

/-- Filling the disk slots changes them and the drives. -/
theorem fillDisks_eq (settings : Settings) (r : Rack W R D) :
    ∃ drives disks, (List.finRange 8).foldl (fillDisk settings) r = { r with drives, disks } := by
  refine List.foldlRecOn (List.finRange 8) (fillDisk settings)
    (motive := fun s => ∃ drives disks, s = { r with drives, disks }) ⟨r.drives, r.disks, rfl⟩ ?_
  rintro s ⟨drives, disks, rfl⟩ i -
  obtain ⟨v, h⟩ := fillDisk_eq settings { r with drives, disks } i
  exact ⟨v, _, h⟩

theorem hosts_fillDisks (settings : Settings) (r : Rack W R D) :
    ((List.finRange 8).foldl (fillDisk settings) r).hosts = r.hosts := by
  obtain ⟨drives, disks, h⟩ := fillDisks_eq settings r
  rw [h]

end Assign

@[simp] theorem hosts_fill (settings : Settings) (r : Rack W R D) (i : Fin 8) :
    (r.fill settings).hosts.get i = (r.hosts.get i).filled (settings.hosts.get i) := by
  unfold fill
  rw [hosts_fillDisks]
  refine Slots.get_foldl_finRange (fun s : Rack W R D => s.hosts.get) (fillHost settings)
    (fun i h => h.filled (settings.hosts.get i)) (fun s i => ?_) (fun s i j hj => ?_) r i
  · obtain ⟨w, -, hs⟩ := fillHost_eq settings s i
    rw [hs]
    exact Slots.get_set_self _ _ _
  · obtain ⟨w, -, hs⟩ := fillHost_eq settings s i
    rw [hs]
    exact Slots.get_set_of_ne _ hj _

@[simp] theorem disks_fill (settings : Settings) (r : Rack W R D) (i : Fin 8) :
    (r.fill settings).disks.get i = (r.disks.get i).filled (settings.mounts.get i) := by
  unfold fill
  obtain ⟨w, hosts, -, h⟩ := fillHosts_eq settings r
  rw [h]
  refine Slots.get_foldl_finRange (fun s : Rack W R D => s.disks.get) (fillDisk settings)
    (fun i d => d.filled (settings.mounts.get i)) (fun s i => ?_) (fun s i j hj => ?_) _ i
  · obtain ⟨drives, hs⟩ := fillDisk_eq settings s i
    rw [hs]
    exact Slots.get_set_self _ _ _
  · obtain ⟨drives, hs⟩ := fillDisk_eq settings s i
    rw [hs]
    exact Slots.get_set_of_ne _ hj _

/-- What every assignment of a disk slot keeps of the drives and the disk slots is kept when the
slots are filled. -/
theorem drives_fill {P : D → Slots DiskSlot → Prop} (hassign : ∀ (r : Rack W R D) i s,
      P r.drives r.disks → P (r.assign i (.ofSettings s)).drives (r.assign i (.ofSettings s)).disks)
    (settings : Settings) {r : Rack W R D} (h : P r.drives r.disks) :
    P (r.fill settings).drives (r.fill settings).disks := by
  unfold fill
  obtain ⟨w, hosts, -, hr⟩ := fillHosts_eq settings r
  rw [hr]
  refine List.foldlRecOn (List.finRange 8) (fillDisk settings)
    (motive := fun s : Rack W R D => P s.drives s.disks) h ?_
  intro s hs i _
  unfold fillDisk
  by_cases ha : (s.disks.get i).agrees (settings.mounts.get i)
  · rw [if_pos ha]
    exact hs
  · rw [if_neg ha]
    exact hassign s i _ hs

/-- What is kept when a host gets another name and when the disk slots and the drives are changed is
kept when the slots are filled. -/
theorem keeps_fill {P : Rack W R D → Prop} (hrename : ∀ {r} i name, P r → P (r.rename i name))
    (hdisks : ∀ {r} drives disks, P r → P { r with drives, disks }) (settings : Settings)
    {r : Rack W R D} (h : P r) : P (r.fill settings) := by
  have hhosts : P ((List.finRange 8).foldl (fillHost settings) r) := by
    refine List.foldlRecOn (List.finRange 8) (fillHost settings) (motive := P) h fun s hs i _ => ?_
    unfold fillHost
    by_cases hn : (s.hosts.get i).hostname = (settings.hosts.get i).hostname
    · rw [if_pos hn]
      exact hs
    · rw [if_neg hn]
      exact hrename i _ hs
  unfold fill
  obtain ⟨drives, disks, hd⟩ :=
    fillDisks_eq settings ((List.finRange 8).foldl (fillHost settings) r)
  rw [hd]
  exact hdisks drives disks hhosts

/-- Filling the slots uses the storage and does not move the cursor. -/
theorem fill_reached (settings : Settings) (r : Rack W R D) :
    Reached r.storage (r.fill settings).storage ∧ (r.fill settings).cursor = r.cursor := by
  unfold fill
  obtain ⟨w, hosts, hw, h⟩ := fillHosts_eq settings r
  obtain ⟨drives, disks, h'⟩ := fillDisks_eq settings { r with storage := w, hosts }
  rw [h, h']
  exact ⟨hw, rfl⟩

/-! ### The directory cursor -/

/-- The same rack, apart from the cursor and the listings of the mounted hosts. -/
structure SameButListings (r s : Rack W R D) : Prop where
  storage : s.storage = r.storage
  drives : s.drives = r.drives
  disks : s.disks = r.disks
  hostname : ∀ i, (s.hosts.get i).hostname = (r.hosts.get i).hostname
  kind : ∀ i, (s.hosts.get i).kind = (r.hosts.get i).kind

section Directory

variable {r s : Rack W R D}

omit [HostStorage W R] [DriveBay D]

theorem SameButListings.setCursor (h : SameButListings r s) (c : Cursor) :
    SameButListings r (s.setCursor c) :=
  ⟨h.storage, h.drives, h.disks, h.hostname, h.kind⟩

theorem SameButListings.setMount (h : SameButListings r s) (i : Fin 8) (m : Option (Mounted R)) :
    SameButListings r (s.setHost i { s.hosts.get i with mount := m }) := by
  have hget (j : Fin 8) : ((s.hosts.set i { s.hosts.get i with mount := m }).get j).hostname =
      (s.hosts.get j).hostname ∧
      ((s.hosts.set i { s.hosts.get i with mount := m }).get j).kind = (s.hosts.get j).kind := by
    rw [Slots.get_set]
    split
    · next hj => subst hj; exact ⟨rfl, rfl⟩
    · exact ⟨rfl, rfl⟩
  exact ⟨h.storage, h.drives, h.disks, fun j => (hget j).1.trans (h.hostname j),
    fun j => (hget j).2.trans (h.kind j)⟩

theorem SameButListings.closeDirectory (h : SameButListings r s) :
    SameButListings r s.closeDirectory := by
  unfold Rack.closeDirectory
  rcases s.cursor.openOn with _ | i
  · exact h.setCursor {}
  · exact (h.setMount i _).setCursor {}

theorem openOn_closeDirectory (r : Rack W R D) : r.closeDirectory.cursor.openOn = none := by
  unfold Rack.closeDirectory
  rcases r.cursor.openOn with _ | i <;> rfl

/-- There is no host under the cursor. -/
def Adrift (r : Rack W R D) : Prop := ∀ i, r.cursor.openOn = some i → (r.hosts.get i).mount = none

/-- Looking for the open listing finds it on a mounted host, or closes the cursor. -/
theorem ends_reading {P : Rack W R D → Prop} {E : Error → Rack W R D → Prop}
    (hlost : ∀ {r e}, P r → r.Adrift → E e (r.setCursor { r.cursor with openOn := none })) :
    Ends P reading (fun found r => P r ∧ r.cursor.openOn = some found.1 ∧
      (r.hosts.get found.1).mount = some found.2) E := by
  unfold reading
  refine Ends.bind (Q := fun found r => P r ∧ found = r) (ends_get fun r hr => ⟨hr, rfl⟩)
    fun found => ?_
  rcases ho : found.cursor.openOn with _ | i
  · refine ends_throw ?_
    rintro r ⟨hr, rfl⟩
    have h := hlost (e := .noDirectory) hr fun i hi => nomatch ho.symm.trans hi
    rw [← ho] at h
    exact h
  · simp only
    rcases hm : (found.hosts.get i).mount with _ | mounted
    · refine Ends.bind (Q := fun _ => E .noDirectory) ?_ fun _ => ends_throw fun _ h => h
      rintro r ⟨hr, rfl⟩
      refine hlost hr fun j hj => ?_
      obtain rfl := Option.some.inj (ho.symm.trans hj)
      exact hm
    · refine ends_pure ?_
      rintro r ⟨hr, rfl⟩
      exact ⟨hr, ho, hm⟩

theorem keeps_directoryPosition [HostStorage W R] {P : Rack W R D → Prop}
    (hlost : ∀ {r}, P r → r.Adrift → P (r.setCursor { r.cursor with openOn := none })) :
    Keeps P (directoryPosition : Action (Rack W R D) UInt16) :=
  Ends.bind (ends_reading hlost) fun _ => Ends.bind (Q := fun _ => P)
    (ends_get fun _ hr => hr.1) fun _ => ends_pure fun _ h => h

/-- What the three commands on the open listing keep: that a cursor without a host is closed, that
the listing is moved to some place, and that its end is marked or forgotten. -/
structure Follows (P : Rack W R D → Prop) : Prop where
  lost : ∀ {r}, P r → r.Adrift → P (r.setCursor { r.cursor with openOn := none })
  moved : ∀ {r i m l}, P r → r.cursor.openOn = some i → (r.hosts.get i).mount = some m →
    m.listing = some l → ∀ position,
      P (setMounted i { m with listing := some { l with position } } r)
  marked : ∀ {r}, P r → ∀ exhausted, P (r.setCursor { r.cursor with exhausted })

section Follows

variable {P : Rack W R D → Prop} (hP : Follows P)
include hP

theorem Follows.readDirectory (limit options : UInt8) : Keeps P (readDirectory limit options) := by
  unfold Rack.readDirectory
  refine Ends.bind (ends_reading hP.lost) fun found => ?_
  obtain ⟨i, m⟩ := found
  refine Ends.bind (Q := fun _ r => P r ∧ r.cursor.openOn = some i ∧
    (r.hosts.get i).mount = some m) (ends_get fun r hr => hr) fun before => ?_
  have hend : Ends (fun r => P r ∧ r.cursor.openOn = some i ∧ (r.hosts.get i).mount = some m)
      (do modify fun r : Rack W R D => r.setCursor { r.cursor with exhausted := true }
          return DirectoryEntry.endMark) (fun _ => P) fun _ => P :=
    Ends.bind (ends_modify fun r hr => hP.marked hr.1 true) fun _ => ends_pure fun _ h => h
  split
  · exact ends_pure fun r hr => hr.1
  obtain hn | ⟨entry, l, hl, hn⟩ := m.next_cases <;> rw [hn]
  · exact hend
  · exact Ends.bind (ends_modify fun r hr => hP.moved hr.1 hr.2.1 hr.2.2 hl (l.position + 1))
      fun _ => ends_pure fun _ h => h

theorem Follows.directoryPosition [HostStorage W R] :
    Keeps P (directoryPosition : Action (Rack W R D) UInt16) := keeps_directoryPosition hP.lost

theorem Follows.seekDirectory [HostStorage W R] (position : UInt16) :
    Keeps P (seekDirectory position : Action (Rack W R D) Unit) := by
  unfold Rack.seekDirectory
  refine Ends.bind (ends_reading hP.lost) fun found => ?_
  obtain ⟨i, m⟩ := found
  refine Ends.bind (Q := fun _ r => P r ∧ r.cursor.openOn = some i ∧
    (r.hosts.get i).mount = some m) (ends_get fun r hr => hr) fun before => ?_
  unfold Mounted.seek?
  by_cases hs : HostStorage.canSeek before.storage
  · rw [if_pos hs]
    rcases hl : m.listing with _ | l
    · exact ends_throw fun r hr => hr.1
    simp only [Option.bind_some]
    unfold Listing.seek?
    by_cases hp : position.toNat ≤ l.entries.length
    · rw [if_pos hp]
      exact ends_modify fun r hr => hP.marked (hP.moved hr.1 hr.2.1 hr.2.2 hl _) false
    · rw [if_neg hp]
      exact ends_throw fun r hr => hr.1
  · rw [if_neg hs]
    exact ends_throw fun r hr => hr.1

end Follows

/-- The rack that a listing is opened on: the one that was open is closed. -/
def readyToOpen (r : Rack W R D) : Rack W R D :=
  if r.cursor.openOn.isSome then r.closeDirectory else r

/-- The rack with a listing open on a host that is mounted. -/
def openedOn (i : Fin 8) (m : Mounted R) (entries : List DirectoryEntry) (r : Rack W R D) :
    Rack W R D :=
  (setMounted i { m with listing := some { entries } } r).setCursor { openOn := some i }

/-- Once the slot is known and its host is mounted, only the listing decides. -/
theorem openDirectory_mounted [HostStorage W R] {slot : UInt8} {i : Fin 8} {r : Rack W R D}
    {m : Mounted R} (hi : hostIndex slot = .ok i) (hm : (r.readyToOpen.hosts.get i).mount = some m)
    (path : String) (pattern : Option String) : openDirectory slot path pattern r =
      (Action.on (fun _ => m) (setMounted i)
          (Mounted.openListing r.readyToOpen.storage path (pattern.filter (· != ""))) >>=
        fun _ => modify (·.setCursor { openOn := some i })) r.readyToOpen := by
  unfold openDirectory
  rw [hi]
  conv_lhs => simp only [bind_apply, lift_ok_apply, modify_apply, get_apply]
  rw [← readyToOpen, hm]

theorem setMounted_self {i : Fin 8} {r : Rack W R D} {m : Mounted R}
    (hm : (r.hosts.get i).mount = some m) : setMounted i m r = r := by
  unfold setMounted setHost
  rw [← hm, Slots.set_get]

theorem openDirectory_ok [HostStorage W R] {slot : UInt8} {path : String} {pattern : Option String}
    {r : Rack W R D} {i : Fin 8} {m : Mounted R} {entries : List DirectoryEntry}
    (hi : hostIndex slot = .ok i) (hm : (r.readyToOpen.hosts.get i).mount = some m)
    (hl : HostStorage.list m.root path (pattern.filter (· != "")) r.readyToOpen.storage =
      .ok entries) :
    openDirectory slot path pattern r = .ok () (openedOn i m entries r.readyToOpen) := by
  rw [openDirectory_mounted hi hm]
  unfold Mounted.openListing Action.on
  simp only [bind_apply, get_apply]
  rw [hl]
  rfl

/-- **Opening a listing** fails on a bad slot number, on a host that is not mounted and on a path
that cannot be listed, which may cost the host its listing, or it succeeds with the entries that the
host lists. -/
theorem openDirectory_cases [HostStorage W R] (slot : UInt8) (path : String)
    (pattern : Option String) (r : Rack W R D) :
    (∃ e, hostIndex slot = .error e ∧ openDirectory slot path pattern r = .error e r) ∨
    (∃ e, openDirectory slot path pattern r = .error e r.readyToOpen) ∨
    (∃ e i m, (r.readyToOpen.hosts.get i).mount = some m ∧
      openDirectory slot path pattern r = .error e (setMounted i m.closed r.readyToOpen)) ∨
    ∃ i m entries, hostIndex slot = .ok i ∧ (r.readyToOpen.hosts.get i).mount = some m ∧
      HostStorage.list m.root path (pattern.filter (· != "")) r.readyToOpen.storage = .ok entries ∧
      openDirectory slot path pattern r = .ok () (openedOn i m entries r.readyToOpen) := by
  rcases hi : hostIndex slot with e | i
  · refine .inl ⟨e, rfl, ?_⟩
    unfold openDirectory
    rw [hi]
    rfl
  refine .inr ?_
  rcases hm : (r.readyToOpen.hosts.get i).mount with _ | m
  · refine .inl ⟨.hostNotMounted, ?_⟩
    unfold openDirectory
    rw [hi]
    simp only [bind_apply, lift_ok_apply, modify_apply, get_apply]
    rw [← readyToOpen, hm]
    rfl
  rcases hl : HostStorage.list m.root path (pattern.filter (· != "")) r.readyToOpen.storage with
    e | entries
  · rw [openDirectory_mounted hi hm]
    unfold Mounted.openListing Action.on
    simp only [bind_apply, get_apply]
    rw [hl]
    by_cases hk : HostStorage.failureKeepsListing W
    · refine .inl ⟨e, ?_⟩
      rw [hk]
      exact congrArg (EStateM.Result.error e) (setMounted_self hm)
    · refine .inr (.inl ⟨e, i, m, hm, ?_⟩)
      rw [Bool.not_eq_true _ |>.mp hk]
      rfl
  · exact .inr (.inr ⟨i, m, entries, rfl, hm, hl, openDirectory_ok hi hm hl⟩)

theorem SameButListings.refl (r : Rack W R D) : SameButListings r r :=
  ⟨rfl, rfl, rfl, fun _ => rfl, fun _ => rfl⟩

theorem SameButListings.openDirectory [HostStorage W R] (slot : UInt8) (path : String)
    (pattern : Option String) (r : Rack W R D) :
    SameButListings r ((openDirectory slot path pattern).after r) := by
  have h : SameButListings r r.readyToOpen := by
    unfold readyToOpen
    split
    · exact (SameButListings.refl r).closeDirectory
    · exact .refl r
  unfold after
  obtain ⟨e, -, ho⟩ | ⟨e, ho⟩ | ⟨e, i, m, -, ho⟩ | ⟨i, m, entries, -, -, -, ho⟩ :=
    openDirectory_cases slot path pattern r <;> rw [ho]
  · exact .refl r
  · exact h
  · exact h.setMount i _
  · exact (h.setMount i _).setCursor _

end Directory

/-! ### Kinds and names -/

/-- Every host slot has the kind of its name. -/
def KindsOfNames (r : Rack W R D) : Prop := ∀ i, (r.hosts.get i).KindOfName

namespace KindsOfNames

omit [HostStorage W R] [DriveBay D]

theorem empty (storage : W) (drives : D) : ({ storage, drives } : Rack W R D).KindsOfNames := by
  intro i
  show (Slots.get (Vector.replicate 8 ({} : HostSlot R)) i).KindOfName
  rw [Slots.get_replicate]
  exact .empty

variable {r s : Rack W R D} (h : r.KindsOfNames)
include h

theorem setHost (i : Fin 8) {host : HostSlot R} (hh : host.KindOfName) :
    (r.setHost i host).KindsOfNames := by
  intro j
  show ((r.hosts.set i host).get j).KindOfName
  rw [Slots.get_set]
  split
  · exact hh
  · exact h j

theorem listings (hs : r.SameButListings s) : s.KindsOfNames := by
  intro i
  have hi := h i
  unfold HostSlot.KindOfName at hi ⊢
  rw [hs.kind, hs.hostname, hi]

theorem setMount (i : Fin 8) (m : Option (Mounted R)) :
    (r.setHost i { r.hosts.get i with mount := m }).KindsOfNames := h.setHost i (h i)

theorem fill [HostStorage W R] [DriveBay D] (settings : Settings) :
    (r.fill settings).KindsOfNames := by
  intro i
  rw [hosts_fill]
  exact (h i).filled _

end KindsOfNames

end Rack

end StorageAdapter
