import StorageAdapter.Proofs.Memory
import StorageAdapter.Proofs.Cursor

/-! # Live mounts

Storage in memory counts the live mounts of every host. The count of a name is the number of host
slots that are mounted and have that name (`Rack.Counted`), in every state of every run of a device
that starts on fresh storage: whatever mounts a host or lets it go keeps the two in step, also where
letting go ends in an error (`mounts_accounted_for`). -/

namespace StorageAdapter

open StorageAdapter.Action StorageAdapter.Device

variable {W R D : Type}

/-! ### Slots that are mounted -/

theorem Slots.countP_set {α : Type} (xs : Slots α) (p : α → Bool) (i : Fin 8) (a : α) :
    (xs.set i a).countP p =
      (xs.countP p - if p (xs.get i) then 1 else 0) + if p a then 1 else 0 := Vector.countP_set _

theorem Slots.countP_pos {α : Type} {xs : Slots α} {p : α → Bool} {i : Fin 8}
    (h : p (xs.get i)) : 0 < xs.countP p :=
  Vector.countP_pos_iff.2 ⟨xs.get i, Vector.getElem_mem _, h⟩

/-- Whether the host is mounted and has the name. -/
def HostSlot.isMountedAs (name : String) (h : HostSlot R) : Bool :=
  h.isMounted && h.hostname == name

/-- The number of host slots that are mounted and have the name. -/
def Rack.mountedAs (name : String) (r : Rack W R D) : Nat := r.hosts.countP (·.isMountedAs name)

theorem HostSlot.isMountedAs_none {h : HostSlot R} (hm : h.mount = none) (name : String) :
    h.isMountedAs name = false := by
  unfold isMountedAs isMounted
  rw [hm]
  rfl

theorem HostSlot.isMountedAs_some {h : HostSlot R} {m : Mounted R} (hm : h.mount = some m)
    (name : String) : h.isMountedAs name = (h.hostname == name) := by
  unfold isMountedAs isMounted
  rw [hm]
  rfl

/-! ### What is counted -/

namespace Memory

theorem Hosts.mountCount_setMountCount (h : Hosts) (name : String) (n : Nat) (name' : String) :
    (h.setMountCount name n).mountCount name' = if name' = name then n else h.mountCount name' := by
  unfold mountCount setMountCount
  split
  · next heq =>
    subst heq
    rw [Catalog.get?_put_self]
    rfl
  · next hne => rw [Catalog.get?_put_of_ne _ hne]

namespace Storage

/-- A host that is reached has one more live mount. -/
theorem connect_eq (name : String) (kind : HostKind) (w : Storage) :
    (HostStorage.connect name kind : Action Storage String) w =
      if w.hosts.trees.contains name then
        .ok name (w.changeHosts fun h => h.setMountCount name (h.mountCount name + 1))
      else .error (.io "could not mount host") w := by
  show connect name w = _
  unfold connect
  rw [bind_apply, get_apply]
  rcases hc : w.hosts.trees.contains name
  · simp [hc, bind_apply]
  · simp [hc, bind_apply]

/-- A host that is let go has one live mount less, also if that is reported as an error. -/
theorem after_release (name : String) (w : Storage) :
    (HostStorage.release name : Action Storage Unit).after w =
      w.changeHosts fun h => h.setMountCount name (h.mountCount name - 1) := by
  show (release name).after w = _
  unfold release
  rw [after_bind]
  simp only [modify_apply]
  rw [after_get_bind]
  split <;> rfl

theorem keeps_mounts_openImage (mounts : Catalog String Nat) (root path : String)
    (mode : AccessMode) : Keeps (fun w : Storage => w.hosts.mounts = mounts)
      (HostStorage.openImage root path mode : Action Storage Nat) := by
  show Keeps _ (openImage root path mode)
  unfold openImage
  refine Keeps.get.bind fun w => ?_
  rcases w.hosts.fileSize? root (treePath path) with _ | size
  · exact Keeps.throw _
  · exact Keeps.bind_pure (ends_modify fun _ h => h)

theorem keeps_hosts_save (hosts : Hosts) (settings : Settings) :
    Keeps (fun w : Storage => w.hosts = hosts) (save settings) :=
  Keeps.get.bind fun _ => Keeps.guard fun _ => ends_modify fun _ h => h

theorem keeps_hosts_onCard {α : Type} (hosts : Hosts) (act : Action Card α) :
    Keeps (fun w : Storage => w.hosts = hosts) (onCard act) := by
  refine keeps_iff.2 fun w h => ?_
  unfold onCard
  rw [after_on]
  exact h

theorem keeps_hosts_writeFile (hosts : Hosts) (k : AppKey) (data : Bytes) :
    Keeps (fun w : Storage => w.hosts = hosts) (KeySession.writeFile k data) :=
  keeps_writeFile (fun path => keeps_hosts_onCard hosts (KeyStorage.createDir path))
    (fun path data => keeps_hosts_onCard hosts (KeyStorage.write path data)) k data

end Storage

end Memory

namespace Rack

/-- A mounted host is known by the name of its slot, and its live mounts are the slots that are
mounted and have its name. -/
structure Counted (r : Rack Memory.Storage String D) : Prop where
  root : ∀ i m, (r.hosts.get i).mount = some m → m.root = (r.hosts.get i).hostname
  count : ∀ name, r.storage.hosts.mountCount name = r.mountedAs name

section Counted

variable {r : Rack Memory.Storage String D} (h : r.Counted)
include h

theorem Counted.setStorage {w : Memory.Storage} (hw : w.hosts.mounts = r.storage.hosts.mounts) :
    (r.setStorage w).Counted := by
  refine ⟨h.root, fun name => ?_⟩
  rw [show (r.setStorage w).mountedAs name = r.mountedAs name from rfl, ← h.count name]
  show w.hosts.mountCount name = _
  unfold Memory.Hosts.mountCount
  rw [hw]

theorem Counted.openImage (root path : String) (mode : AccessMode) :
    (r.setStorage ((HostStorage.openImage root path mode).after r.storage)).Counted :=
  h.setStorage (keeps_iff.1 (Memory.Storage.keeps_mounts_openImage _ root path mode) _ rfl)

/-- Another entry of a slot is counted in place of the one before. -/
theorem Counted.setHost {i : Fin 8} {host : HostSlot String} {w : Memory.Storage}
    (hroot : ∀ m, host.mount = some m → m.root = host.hostname)
    (hw : ∀ name, w.hosts.mountCount name =
      (r.storage.hosts.mountCount name - if (r.hosts.get i).isMountedAs name then 1 else 0) +
        if host.isMountedAs name then 1 else 0) : ((r.setStorage w).setHost i host).Counted where
  root j m hj := by
    have hj : ((r.hosts.set i host).get j).mount = some m := hj
    show _ = ((r.hosts.set i host).get j).hostname
    rw [Slots.get_set] at hj ⊢
    split at hj
    · next hji =>
      rw [if_pos hji]
      exact hroot m hj
    · next hji =>
      rw [if_neg hji]
      exact h.root j m hj
  count name := by
    show w.hosts.mountCount name = (r.hosts.set i host).countP (·.isMountedAs name)
    rw [hw, h.count, Slots.countP_set]
    rfl

/-- A slot that is not mounted may get another name. -/
theorem Counted.setUnmounted {i : Fin 8} (hm : (r.hosts.get i).mount = none) (name : String) :
    (r.setHost i (.named name)).Counted :=
  h.setHost (w := r.storage) nofun fun name' => by
    rw [HostSlot.isMountedAs_none hm, HostSlot.isMountedAs_none (HostSlot.mount_named name)]
    rfl

/-- A mounted host may be used in any way. -/
theorem Counted.setListing {i : Fin 8} {m : Mounted String} (hm : (r.hosts.get i).mount = some m)
    (listing : Option Listing) : (setMounted i { m with listing } r).Counted := by
  refine h.setHost (w := r.storage) (fun m' hm' => ?_) fun name => ?_
  · obtain rfl := Option.some.inj hm'
    exact h.root i m hm
  · have hpos : (r.hosts.get i).isMountedAs name → 0 < r.hosts.countP (·.isMountedAs name) :=
      Slots.countP_pos
    have hcount : r.storage.hosts.mountCount name = r.hosts.countP (·.isMountedAs name) :=
      h.count name
    rw [HostSlot.isMountedAs_some hm] at hpos ⊢
    rw [HostSlot.isMountedAs_some rfl]
    split
    · next hn =>
      have := hpos hn
      omega
    · rfl

/-- **Mounting a host counts one more live mount**, if it can be reached. -/
theorem Counted.connect (i : Fin 8) : ((connect i).after r).Counted := by
  obtain hc | ⟨hm, -, hc⟩ := connect_eq i r <;> rw [hc]
  · exact h
  rw [Memory.Storage.connect_eq]
  by_cases hreach : r.storage.hosts.trees.contains (r.hosts.get i).hostname
  · simp only [if_pos hreach]
    refine h.setHost (fun m hm' => ?_) fun name => ?_
    · obtain rfl := Option.some.inj hm'
      rfl
    · show (Memory.Hosts.setMountCount _ _ _).mountCount name = _
      rw [Memory.Hosts.mountCount_setMountCount, HostSlot.isMountedAs_none hm,
        HostSlot.isMountedAs_some rfl]
      by_cases hn : name = (r.hosts.get i).hostname
      · subst hn
        simp
      · simp [hn, Ne.symm hn]
  · simp only [if_neg hreach]
    exact h

/-- **Unmounting a host counts one live mount less**, and none if the host was not mounted. -/
theorem Counted.disconnect (i : Fin 8) : ((disconnect i).after r).Counted := by
  rcases hm : (r.hosts.get i).mount with _ | m
  · rw [after_disconnect_none hm]
    exact h
  rw [after_disconnect_some hm, Memory.Storage.after_release]
  refine h.setHost nofun fun name => ?_
  show (Memory.Hosts.setMountCount _ _ _).mountCount name = _
  rw [Memory.Hosts.mountCount_setMountCount, HostSlot.isMountedAs_some hm,
    HostSlot.isMountedAs_none rfl, h.root i m hm]
  by_cases hn : name = (r.hosts.get i).hostname
  · subst hn
    simp
  · simp [hn, Ne.symm hn]

theorem Counted.rename (i : Fin 8) (name : String) : (r.rename i name).Counted := by
  unfold Rack.rename
  refine (h.disconnect i).setUnmounted ?_ _
  obtain ⟨w, -, hd⟩ := after_disconnect i r
  rw [hd]
  show ((r.hosts.set i _).get i).mount = none
  rw [Slots.get_set_self]

theorem Counted.renameHost (i : Fin 8) (name : String) : (renameHost i name r).Counted := by
  have hr := h.rename i name
  unfold Device.renameHost dropCursor
  split
  · exact ⟨hr.root, hr.count⟩
  · exact hr

theorem Counted.fill [DriveBay D] (settings : Settings) : (r.fill settings).Counted :=
  keeps_fill (P := Counted) (fun i name hr => hr.rename i name)
    (fun _ _ hr => ⟨hr.root, hr.count⟩) settings h

theorem Counted.closeDirectory : r.closeDirectory.Counted := by
  unfold Rack.closeDirectory
  rcases r.cursor.openOn with _ | i
  · exact ⟨h.root, h.count⟩
  rcases hm : (r.hosts.get i).mount with _ | m
  · have hsame : r.setHost i { r.hosts.get i with mount := none } = r := by
      unfold Rack.setHost
      rw [← hm, Slots.set_get]
    show ((r.setHost i _).setCursor {}).Counted
    rw [hm, Option.map_none, hsame]
    exact ⟨h.root, h.count⟩
  · have hc := h.setListing hm none
    show ((r.setHost i _).setCursor {}).Counted
    rw [hm, Option.map_some]
    exact ⟨hc.root, hc.count⟩

theorem Counted.openDirectory (slot : UInt8) (path : String) (pattern : Option String) :
    ((openDirectory slot path pattern).after r).Counted := by
  have hready : r.readyToOpen.Counted := by
    unfold readyToOpen
    split
    · exact h.closeDirectory
    · exact h
  unfold after
  obtain ⟨e, -, ho⟩ | ⟨e, ho⟩ | ⟨e, i, m, hm, ho⟩ | ⟨i, m, entries, -, hm, -, ho⟩ :=
    openDirectory_cases slot path pattern r <;> rw [ho]
  · exact h
  · exact hready
  · exact hready.setListing hm none
  · have hopen := hready.setListing hm (some { entries })
    exact ⟨hopen.root, hopen.count⟩

end Counted

theorem follows_counted : Follows (Counted : Rack Memory.Storage String D → Prop) where
  lost h _ := ⟨h.root, h.count⟩
  moved h _ hm _ _ := h.setListing hm _
  marked h _ := ⟨h.root, h.count⟩

end Rack

/-! ### All runs -/

variable [DriveBay D]

theorem calm_counted : Calm (fun d : Device Memory.Storage String D => d.rack.Counted)
    fun d => d.rack.Counted where
  weaken h := h
  connect h i := h.connect i
  aside h _ _ := h
  wifi h _ := h
  boot h _ _ := h
  switch h _ _ := ⟨h.root, h.count⟩
  save {d} h := by
    rw [after_save]
    refine h.setStorage ?_
    exact congrArg _ (keeps_iff.1 (Memory.Storage.keeps_hosts_save _ _) d.rack.storage rfl)

theorem steady_counted : Steady (fun d : Device Memory.Storage String D => d.rack.Counted)
    fun d => d.rack.Counted where
  toCalm := calm_counted
  openImage h := h.openImage
  during := ⟨fun h i => h.connect i, fun h => h.openImage⟩
  load h _ _ _ := ⟨h.root, h.count⟩

theorem hosted_counted : Hosted (fun d : Device Memory.Storage String D => d.rack.Counted)
    fun d => d.rack.Counted where
  toCalm := calm_counted
  disconnect {d} h i := by
    refine Rack.Counted.disconnect ?_ i
    unfold Rack.leave
    split
    · exact h.closeDirectory
    · exact h
  close h := h.closeDirectory
  follow _ := ⟨Rack.follows_counted.lost, Rack.follows_counted.moved, Rack.follows_counted.marked⟩
  rename h i name := h.renameHost i name

/-- **An operation on mounted hosts, on their listings or on keys** keeps the count. -/
theorem keeps_counted {o : Operation} (ho : o.handlesHosts ∨ o.handlesKeys) :
    Keeps (fun d : Device Memory.Storage String D => d.rack.Counted) o.perform := by
  rcases ho with ho | ho
  · refine hosted_counted.keeps_hosts ho fun slot path pattern heq => ?_
    subst heq
    exact ends_onRack fun d => keeps_iff.2 fun r hr => hr.openDirectory slot path pattern
  · refine keeps_keys ho (fun hd _ => hd) fun {d} hd data => ?_
    refine hd.setStorage (congrArg Memory.Hosts.mounts ?_)
    exact keeps_iff.1 (Memory.Storage.keeps_hosts_writeFile _ d.appKey data) d.rack.storage rfl

/-- **One move keeps the count** of the live mounts, if nothing outside changes that. -/
theorem counted_move {d : Device Memory.Storage String D} (h : d.rack.Counted)
    {m : Move Memory.Storage D}
    (hout : ∀ f g k, m = .outside f g k → ∀ w, (f w).hosts.mounts = w.hosts.mounts) :
    (d.move m).rack.Counted := by
  refine keeps_move (I := fun d => d.rack.Counted) (fun h _ _ _ => h) m (fun o _ => ?_)
    (fun _ h => h.closeDirectory) (fun f g k hm hd => ?_) h
  · refine steady_counted.perform o keeps_counted (fun _ d hd _ => hd)
      (fun _ d hd => hd.fill d.settings)
      (fun i _ d hd => ⟨hd.root, hd.count⟩) fun i _ d hd filename host mode => ?_
    obtain ⟨drives, hr⟩ := Rack.assign_eq i (.assigned filename host mode) d.rack
    rw [rack_setRack, hr]
    exact ⟨hd.root, hd.count⟩
  · subst hm
    have hs := hd.setStorage (hout f g k rfl d.rack.storage)
    exact ⟨hs.root, hs.count⟩

theorem counted_start {storage : Memory.Storage}
    (hfresh : ∀ name, storage.hosts.mountCount name = 0) (drives : D) (radio : Radio)
    (board : Board) (digester : Digester) :
    (Device.start storage drives radio board digester :
      Device Memory.Storage String D).rack.Counted := by
  rw [rack_start]
  have hempty : Rack.Counted ({ storage, drives } : Rack Memory.Storage String D) := by
    refine ⟨fun i m hm => ?_, fun name => ?_⟩
    · have hm : (Slots.get (Vector.replicate 8 ({} : HostSlot String)) i).mount = some m := hm
      rw [Slots.get_replicate] at hm
      cases hm
    · refine (hfresh name).trans (Eq.symm ?_)
      exact Vector.countP_replicate.trans (if_neg Bool.false_ne_true)
  have hfill := hempty.fill
    (Device.start storage drives radio board digester : Device Memory.Storage String D).settings
  exact ⟨hfill.root, hfill.count⟩

omit [DriveBay D] in
/-- **A host that is to be unmounted is unmounted**, and the cursor is not on it, even if letting it
go ends in an error. -/
theorem unmounted_move [HostStorage W R] [SettingsStore W] [KeyStorage W] [DriveBay D]
    {d : Device W R D} {m : Move W D} {slot : UInt8} {i : Fin 8}
    (hm : m.request d = .ok (some (.unmountHost slot))) (hi : Rack.hostIndex slot = .ok i) :
    ((d.move m).rack.hosts.get i).isMounted = false ∧
      (d.move m).rack.cursor.openOn ≠ some i := by
  obtain ⟨p, q, s, hmove⟩ := move_served hm nofun
  have hserve : (Request.serve (.ok (some (.unmountHost slot)))).after d = _ :=
    after_unmountHost hi d
  obtain ⟨w, -, hc⟩ := Rack.after_disconnect i (d.rack.leave i)
  rw [hmove, hserve, hc]
  refine ⟨?_, d.rack.openOn_leave i⟩
  show (((d.rack.leave i).hosts.set i _).get i).isMounted = false
  rw [Slots.get_set_self]
  rfl

/-- In every state of every run of a device that starts on storage without live mounts, whatever
its settings and its hosts are and whatever fails, the count of live mounts of every name is the
number of host slots that are mounted and have that name. Hosts may come and go outside and faults
may be switched as long as the counts stay. After a host slot was asked to be unmounted it is not
mounted, and the cursor is not on it, whether or not that was reported as an error. -/
theorem mounts_accounted_for {storage : Memory.Storage}
    (hfresh : ∀ name, storage.hosts.mountCount name = 0) (drives : D) (radio : Radio)
    (board : Board) (digester : Digester) {moves : List (Move Memory.Storage D)}
    (hout : ∀ f g k, Move.outside f g k ∈ moves → ∀ w, (f w).hosts.mounts = w.hosts.mounts) :
    let d : Device Memory.Storage String D :=
      (Device.start storage drives radio board digester).run moves
    (∀ name, d.rack.storage.hosts.mountCount name =
      d.rack.hosts.countP fun h => h.isMounted && h.hostname == name) ∧
    ∀ (m : Move Memory.Storage D) (slot : UInt8) (i : Fin 8),
      m.request d = .ok (some (.unmountHost slot)) → Rack.hostIndex slot = .ok i →
        ((d.move m).rack.hosts.get i).isMounted = false ∧
          (d.move m).rack.cursor.openOn ≠ some i := by
  intro d
  have h : d.rack.Counted := by
    refine List.foldlRecOn moves Device.move (motive := fun e => e.rack.Counted)
      (counted_start hfresh drives radio board digester) fun e he m hm => ?_
    exact counted_move he fun f g k ho => hout f g k (ho ▸ hm)
  exact ⟨h.count, fun m slot i => unmounted_move⟩

/-- Two slots have the same host, and both are mounted; the second one is then unmounted while
letting go fails. -/
theorem mounts_accounted_for_same_host :
    let storage : Memory.Storage := { hosts := ({} : Memory.Hosts).withHost "h" }
    let moves : List (Move Memory.Storage Memory.Drives) :=
      [.call (.nameHost 0 "h"), .call (.nameHost 1 "h"), .call (.mountHost 0),
        .call (.mountHost 1),
        .outside (fun w => { w with faults := { w.faults with unmount := true } }) id id]
    let d := (Memory.Surroundings.start { storage }).run moves
    let m : Move Memory.Storage Memory.Drives := .frame (Text.encode "UNMOUNTHOST:1")
    (∀ name, storage.hosts.mountCount name = 0) ∧
      (∀ f g k, Move.outside f g k ∈ moves → ∀ w, (f w).hosts.mounts = w.hosts.mounts) ∧
      d.rack.storage.hosts.mountCount "h" =
        d.rack.hosts.countP (fun h => h.isMounted && h.hostname == "h") ∧
      d.rack.storage.hosts.mountCount "h" = 2 ∧
      m.request d = .ok (some (.unmountHost 1)) ∧ Rack.hostIndex 1 = .ok 1 ∧
      ((d.move m).rack.hosts.get 1).isMounted = false ∧
      (d.move m).rack.cursor.openOn ≠ some 1 := by
  intro storage moves d m
  have hfresh : ∀ name, storage.hosts.mountCount name = 0 := fun _ => rfl
  have hout : ∀ f g k, Move.outside f g k ∈ moves → ∀ w, (f w).hosts.mounts = w.hosts.mounts := by
    intro f g k hm
    simp only [moves, List.mem_cons, reduceCtorEq, Move.outside.injEq, List.not_mem_nil, or_false,
      false_or] at hm
    obtain ⟨rfl, -, -⟩ := hm
    exact fun _ => rfl
  obtain ⟨hcount, hunmount⟩ := mounts_accounted_for hfresh ({} : Memory.Drives) {}
    { version := "dummy-0.1.0" } DigestAlgorithm.digest hout
  have hrequest : m.request d = .ok (some (.unmountHost 1)) := by decide +kernel
  exact ⟨hfresh, hout, hcount "h", by decide +kernel, hrequest, rfl,
    hunmount m 1 1 hrequest rfl⟩

end StorageAdapter
