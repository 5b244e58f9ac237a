import StorageAdapter.Proofs.Cursor

/-! # One listing at a time

A host has a listing open only while the directory cursor is on it (`Rack.OneListing`), in every
state of every run (`one_listing_at_a_time`). So opening a listing on one host leaves none open on
another, even if it fails, and closing the cursor or resetting the bus leaves none open at all. -/

namespace StorageAdapter

open StorageAdapter.Action StorageAdapter.Device

variable {W R D : Type}

/-- Whether the host is mounted and has a listing open. -/
def HostSlot.hasListing (h : HostSlot R) : Bool := h.mount.any (·.listing.isSome)

theorem HostSlot.hasListing_of_none {h : HostSlot R} (hm : h.mount = none) :
    h.hasListing = false := by
  unfold hasListing
  rw [hm]
  rfl

namespace Rack

/-- A host has a listing open only if the cursor is on it. -/
def OneListing (r : Rack W R D) : Prop :=
  ∀ i, (r.hosts.get i).hasListing → r.cursor.openOn = some i

/-- No host has a listing open. -/
def NoListing (r : Rack W R D) : Prop := ∀ i, (r.hosts.get i).hasListing = false

variable {r : Rack W R D}

theorem NoListing.oneListing (h : r.NoListing) : r.OneListing := fun i hi =>
  absurd ((h i).symm.trans hi) Bool.false_ne_true

/-- A host without a listing may stand in any slot. -/
theorem OneListing.setHost (h : r.OneListing) (i : Fin 8) {host : HostSlot R}
    (hh : host.hasListing = false) : (r.setHost i host).OneListing := by
  intro j hj
  show r.cursor.openOn = some j
  have hj : ((r.hosts.set i host).get j).hasListing := hj
  rw [Slots.get_set] at hj
  split at hj
  · exact absurd (hh.symm.trans hj) Bool.false_ne_true
  · exact h j hj

theorem OneListing.unmount (h : r.OneListing) (i : Fin 8) :
    (r.setHost i { r.hosts.get i with mount := none }).OneListing :=
  h.setHost i (HostSlot.hasListing_of_none rfl)

/-- With the cursor closed, or on a host without a listing, there is none at all. -/
theorem OneListing.noListing (h : r.OneListing)
    (hc : ∀ i, r.cursor.openOn = some i → (r.hosts.get i).hasListing = false) : r.NoListing := by
  intro i
  by_contra hi
  have hi : (r.hosts.get i).hasListing := Bool.not_eq_false _ ▸ hi
  exact absurd ((hc i (h i hi)).symm.trans hi) Bool.false_ne_true

/-- **Closing the cursor leaves no listing open.** -/
theorem OneListing.closeDirectory (h : r.OneListing) : r.closeDirectory.NoListing := by
  unfold Rack.closeDirectory
  rcases ho : r.cursor.openOn with _ | i
  · exact h.noListing fun i hi => nomatch ho.symm.trans hi
  · have hclosed : HostSlot.hasListing
        { r.hosts.get i with mount := (r.hosts.get i).mount.map Mounted.closed } = false := by
      rcases hm : (r.hosts.get i).mount with _ | m <;> rfl
    refine (h.setHost i hclosed).noListing fun j hj => ?_
    obtain rfl : i = j := Option.some.inj (ho.symm.trans hj)
    show ((r.hosts.set i _).get i).hasListing = false
    rw [Slots.get_set_self]
    exact hclosed

theorem OneListing.readyToOpen (h : r.OneListing) : r.readyToOpen.NoListing := by
  unfold Rack.readyToOpen
  split
  · exact h.closeDirectory
  · next hn =>
    have hn : r.cursor.openOn = none := Option.not_isSome_iff_eq_none.1 hn
    exact h.noListing fun i hi => nomatch hn.symm.trans hi

/-- On a rack without listings, one opened on a host is the only one. -/
theorem NoListing.openedOn (h : r.NoListing) (i : Fin 8) (m : Mounted R)
    (entries : List DirectoryEntry) {j : Fin 8} (hj : j ≠ i) :
    ((openedOn i m entries r).hosts.get j).hasListing = false := by
  show ((r.hosts.set i _).get j).hasListing = false
  rw [Slots.get_set_of_ne _ hj]
  exact h j

theorem NoListing.setClosed (h : r.NoListing) (i : Fin 8) (m : Mounted R) :
    (setMounted i m.closed r).NoListing := by
  intro j
  show ((r.hosts.set i _).get j).hasListing = false
  rw [Slots.get_set]
  split
  · rfl
  · exact h j

variable [HostStorage W R]

/-- **Opening a listing leaves none on another host**, whether it succeeds or not. -/
theorem OneListing.openDirectory (h : r.OneListing) (slot : UInt8) (path : String)
    (pattern : Option String) : ((openDirectory slot path pattern).after r).OneListing ∧
      ∀ i, hostIndex slot = .ok i → ∀ j, j ≠ i →
        (((Rack.openDirectory slot path pattern).after r).hosts.get j).hasListing = false := by
  unfold after
  obtain ⟨e, hi, ho⟩ | ⟨e, ho⟩ | ⟨e, i, m, -, ho⟩ | ⟨i, m, entries, hi, -, -, ho⟩ :=
    openDirectory_cases slot path pattern r <;> rw [ho]
  · exact ⟨h, fun j hj => nomatch hi.symm.trans hj⟩
  · exact ⟨h.readyToOpen.oneListing, fun _ _ j _ => h.readyToOpen j⟩
  · have hc := h.readyToOpen.setClosed i m
    exact ⟨hc.oneListing, fun _ _ j _ => hc j⟩
  · have hother : ∀ j, j ≠ i →
        ((openedOn i m entries r.readyToOpen).hosts.get j).hasListing = false :=
      fun j hj => h.readyToOpen.openedOn i m entries hj
    refine ⟨fun j hj => ?_, fun k hk j hj => ?_⟩
    · by_contra hn
      have hji : j ≠ i := fun hji => hn (congrArg some hji.symm)
      exact absurd ((hother j hji).symm.trans hj) Bool.false_ne_true
    · obtain rfl : i = k := Except.ok.inj (hi.symm.trans hk)
      exact hother j hj

omit [HostStorage W R] in
theorem OneListing.follows :
    Follows (OneListing : Rack W R D → Prop) where
  lost {r} h hadrift := by
    have hn : r.NoListing := h.noListing fun i hi => HostSlot.hasListing_of_none (hadrift i hi)
    exact NoListing.oneListing (r := r.setCursor _) hn
  moved {r i m l} h hi _ _ position := by
    intro j hj
    show r.cursor.openOn = some j
    have hj : ((r.hosts.set i _).get j).hasListing := hj
    rw [Slots.get_set] at hj
    split at hj
    · next hji => rw [hji, hi]
    · exact h j hj
  marked h _ := h

/-- A host that gets another name loses its listing, and the cursor if it is there. -/
theorem OneListing.rename [KeyStorage W] (h : r.OneListing) (i : Fin 8) (name : String) :
    (renameHost i name r).OneListing := by
  obtain ⟨w, -, hr⟩ := rename_eq i name r
  unfold renameHost dropCursor
  rw [hr]
  have hnew : ((r.setStorage w).setHost i (.named name)).OneListing :=
    OneListing.setHost (r := r.setStorage w) h i (HostSlot.hasListing_of_none rfl)
  split
  · next hi =>
    refine NoListing.oneListing (hnew.noListing fun j hj => ?_)
    obtain rfl : i = j := Option.some.inj (hi.symm.trans hj)
    show ((r.hosts.set i _).get i).hasListing = false
    rw [Slots.get_set_self]
    rfl
  · exact hnew

theorem OneListing.fill [DriveBay D] (h : r.OneListing) (settings : Settings) :
    (r.fill settings).OneListing := by
  intro i hi
  rw [hosts_fill] at hi
  rw [(fill_reached settings r).2]
  unfold HostSlot.filled at hi
  split at hi
  · exact h i hi
  · cases hi

end Rack

/-! ### All runs -/

section Run

variable [HostStorage W R] [SettingsStore W] [KeyStorage W] [DriveBay D]

theorem upheld_oneListing : Upheld (fun d : Device W R D => d.rack.OneListing)
    fun d => d.rack.OneListing where
  weaken h := h
  before := ⟨fun h _ => h, fun h _ _ _ => h.setHost _ rfl⟩
  during := ⟨fun h _ => h, fun h _ _ _ => h.setHost _ rfl⟩
  aside h _ _ := h
  digest h _ := h
  key h _ _ := h
  fill {d} h := h.fill d.settings
  unmount h _ := h.unmount _
  close h := h.closeDirectory.oneListing
  follow _ := Rack.OneListing.follows
  rename h i name := h.rename i name
  load h _ _ _ := h
  empty h _ := h
  assign {d} h i filename host mode := by
    obtain ⟨drives, hr⟩ := Rack.assign_eq i (.assigned filename host mode) d.rack
    rw [rack_setRack, hr]
    exact h
  wifi h _ := h
  boot h _ _ := h
  switch h _ _ := h
  save h := by
    rw [after_save]
    exact h

/-- **One move keeps the listings to the host under the cursor.** -/
theorem oneListing_move {d : Device W R D} (h : d.rack.OneListing) (m : Move W D) :
    (d.move m).rack.OneListing := by
  refine upheld_oneListing.move (fun h _ _ _ => h) m (fun slot path pattern _ => ?_)
    (fun storage drives radio hm h => ?_) h
  · exact ends_onRack fun d => keeps_iff.2 fun r hr => (hr.openDirectory slot path pattern).1
  · subst hm
    exact h

omit [KeyStorage W] in
theorem oneListing_start (storage : W) (drives : D) (radio : Radio) (board : Board)
    (digester : Digester) :
    (Device.start storage drives radio board digester : Device W R D).rack.OneListing := by
  have hr := rack_start (R := R) storage drives radio board digester
  rw [hr]
  refine Rack.OneListing.fill (r := ({ storage, drives } : Rack W R D)) (fun i hi => ?_) _
  have hi : (Slots.get (Vector.replicate 8 ({} : HostSlot R)) i).hasListing := hi
  rw [Slots.get_replicate] at hi
  cases hi

/-- **A run keeps the listings to the host under the cursor.** -/
theorem oneListing_run (storage : W) (drives : D) (radio : Radio) (board : Board)
    (digester : Digester) (moves : List (Move W D)) :
    ((Device.start storage drives radio board digester : Device W R D).run
      moves).rack.OneListing :=
  List.foldlRecOn moves Device.move (motive := fun e : Device W R D => e.rack.OneListing)
    (oneListing_start storage drives radio board digester) fun _ he m _ => oneListing_move he m

theorem Device.noListing_closing {d : Device W R D} (h : d.rack.OneListing) {m : Move W D}
    (hm : m.request d = .ok (some .closeDirectory) ∨ m = .resetBus) :
    (d.move m).rack.NoListing := by
  rcases hm with hm | rfl
  · obtain ⟨p, q, s, hmove⟩ := move_served hm nofun
    rw [hmove]
    exact h.closeDirectory
  · exact h.closeDirectory

/-- In every state of every run of a device that has started, whatever the settings, the hosts, the
drives and the world outside do, a host has a listing open only if the cursor is on it. Opening a
listing on one host leaves none open on another, whether it succeeds or not. Closing the cursor or
resetting the bus leaves none open at all. -/
theorem one_listing_at_a_time (storage : W) (drives : D) (radio : Radio) (board : Board)
    (digester : Digester) (moves : List (Move W D)) :
    let d : Device W R D := (Device.start storage drives radio board digester).run moves
    d.rack.OneListing ∧
      (∀ (m : Move W D) (slot : UInt8) (path : String) (pattern : Option String) (i : Fin 8),
        m.request d = .ok (some (.openDirectory slot path pattern)) → Rack.hostIndex slot = .ok i →
          ∀ j, j ≠ i → ((d.move m).rack.hosts.get j).hasListing = false) ∧
      ∀ m : Move W D, m.request d = .ok (some .closeDirectory) ∨ m = .resetBus →
        (d.move m).rack.NoListing := by
  intro d
  have h : d.rack.OneListing := oneListing_run storage drives radio board digester moves
  refine ⟨h, fun m slot path pattern i hm hi j hj => ?_, fun m => Device.noListing_closing h⟩
  rw [(Device.move_opening hm).1]
  exact (h.openDirectory slot path pattern).2 i hi j hj

end Run

/-- There are two hosts. A listing is opened on one of them and then on the other, where it fails;
in place of that, the bus is reset. -/
theorem one_listing_on_two_hosts :
    let storage : Memory.Storage :=
      { hosts := (({} : Memory.Hosts).withDir "a" "/x").withDir "b" "/y" }
    let moves : List (Move Memory.Storage Memory.Drives) :=
      [.call (.nameHost 0 "a"), .call (.nameHost 1 "b"), .call (.mountHost 0),
        .call (.mountHost 1), .call (.openDirectory 0 "/" none)]
    let d := (Memory.Surroundings.start { storage }).run moves
    let m : Move Memory.Storage Memory.Drives := .call (.openDirectory 1 "/z" none)
    (d.rack.hosts.get 0).hasListing ∧ d.rack.cursor.openOn = some 0 ∧
      m.request d = .ok (some (.openDirectory 1 "/z" none)) ∧ Rack.hostIndex 1 = .ok 1 ∧
      ((d.move m).rack.hosts.get 0).hasListing = false ∧ (d.move .resetBus).rack.NoListing := by
  intro storage moves d m
  have hopen : (d.rack.hosts.get 0).hasListing := by decide +kernel
  obtain ⟨hone, hother, hclosed⟩ := one_listing_at_a_time storage ({} : Memory.Drives) {}
    { version := "dummy-0.1.0" } DigestAlgorithm.digest moves
  exact ⟨hopen, hone 0 hopen, rfl, rfl, hother m 1 "/z" none 1 rfl rfl 0 (by decide),
    hclosed .resetBus (.inr rfl)⟩

end StorageAdapter
