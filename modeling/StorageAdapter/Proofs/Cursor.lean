import StorageAdapter.Memory.Adapter
import StorageAdapter.Proofs.Memory
import StorageAdapter.Proofs.Notes

/-! # The cursor and its listing

While the directory cursor is on a host, that host should be mounted and have a listing open, the
one that was opened last (`Browsing.Live`). Along all runs this is so if and only if the names of
the hosts in the settings that the device starts from fit the slots (`cursor_live_iff`). A name that
does not fit is cut; its slot then never is as the settings say, and filling it once more unmounts
the host under the cursor (`Cut.lost`). -/

namespace StorageAdapter

open StorageAdapter.Action StorageAdapter.Device

/-! ### The listing that was opened last -/

/-- A listing when it is opened: the host slot that it is on, and its entries. -/
structure Opening where
  slot : Fin 8
  entries : List DirectoryEntry
deriving DecidableEq, Repr

section Opening

variable {W R D : Type}

/-- The listing under the cursor. -/
def Rack.opening? (r : Rack W R D) : Option Opening := do
  let slot ← r.cursor.openOn
  let mounted ← (r.hosts.get slot).mount
  let listing ← mounted.listing
  return { slot, entries := listing.entries }

/-- The host in a slot is mounted and has the listing open that was opened last. -/
def Rack.LiveOn (r : Rack W R D) (i : Fin 8) (last : Option Opening) : Prop :=
  ∃ m l, (r.hosts.get i).mount = some m ∧ m.listing = some l ∧ last = some ⟨i, l.entries⟩

/-- The listing under the cursor, if the cursor is on a host, is the one that was opened last. -/
def Rack.Live (r : Rack W R D) (last : Option Opening) : Prop :=
  ∀ i, r.cursor.openOn = some i → r.LiveOn i last

/-- A device and the listing that was opened last on it. -/
structure Browsing (W R D : Type) where
  device : Device W R D
  opened : Option Opening := none

/-- **The cursor is live**: it is on a listing that is open, and what is read is read from one. -/
structure Browsing.Live (b : Browsing W R D) : Prop where
  cursor : b.device.rack.Live b.opened
  reading : ∀ limit options bytes s, Rack.readDirectory limit options b.device.rack = .ok bytes s →
    ∃ i, b.device.rack.LiveOn i b.opened

variable [HostStorage W R] [SettingsStore W] [KeyStorage W] [DriveBay D]

/-- The listing that a move opens, if it opens one. -/
def Move.opening? (d : Device W R D) (m : Move W D) : Option Opening :=
  match m.request d with
  | .ok (some (.openDirectory slot path pattern)) =>
    match Rack.openDirectory slot path pattern d.rack with
    | .ok () r => r.opening?
    | .error _ _ => none
  | _ => none

omit [SettingsStore W] [KeyStorage W] [DriveBay D] in
theorem Move.opening?_of_ok {d : Device W R D} {m : Move W D} {slot : UInt8} {path : String}
    {pattern : Option String} {r : Rack W R D}
    (hm : m.request d = .ok (some (.openDirectory slot path pattern)))
    (hr : Rack.openDirectory slot path pattern d.rack = .ok () r) :
    m.opening? d = r.opening? := by
  unfold opening?
  rw [hm]
  simp only [hr]

/-- A move, and what it opens. -/
def Browsing.move (b : Browsing W R D) (m : Move W D) : Browsing W R D :=
  { device := b.device.move m, opened := (m.opening? b.device).or b.opened }

/-- A run of moves, and what was opened last. -/
def Browsing.run (b : Browsing W R D) (moves : List (Move W D)) : Browsing W R D :=
  moves.foldl move b

theorem Browsing.device_run (b : Browsing W R D) (moves : List (Move W D)) :
    (b.run moves).device = b.device.run moves := by
  induction moves generalizing b with
  | nil => rfl
  | cons m moves ih => exact ih (b.move m)

end Opening

/-! ### What keeps the cursor live -/

namespace Rack

variable {W R D : Type} {r : Rack W R D} {last : Option Opening}

theorem live_of_closed (h : r.cursor.openOn = none) : r.Live last := by
  intro i hi
  rw [h] at hi
  cases hi

theorem Live.mounted (h : r.Live last) {i : Fin 8} (hi : r.cursor.openOn = some i) :
    (r.hosts.get i).mount ≠ none := by
  obtain ⟨m, l, hm, -, -⟩ := h i hi
  rw [hm]
  exact Option.some_ne_none m

/-- Only the slot that the cursor is on matters. -/
theorem Live.setHost (h : r.Live last) {i : Fin 8} (hi : r.cursor.openOn ≠ some i)
    (host : HostSlot R) : (r.setHost i host).Live last := by
  intro j hj
  obtain ⟨m, l, hm, hl, hlast⟩ := h j hj
  have hji : j ≠ i := fun hji => hi (hji ▸ hj)
  refine ⟨m, l, ?_, hl, hlast⟩
  show ((r.hosts.set i host).get j).mount = some m
  rw [Slots.get_set_of_ne _ hji, hm]

/-- The listing stays the same wherever one is in it. -/
theorem Live.moved (h : r.Live last) {i : Fin 8} {m : Mounted R} {l : Listing}
    (hi : r.cursor.openOn = some i) (hm : (r.hosts.get i).mount = some m) (hl : m.listing = some l)
    (position : Nat) :
    (setMounted i { m with listing := some { l with position } } r).Live last := by
  intro j hj
  have hji : j = i := Option.some.inj (hj.symm.trans hi)
  subst hji
  obtain ⟨m', l', hm', hl', hlast⟩ := h j hi
  obtain rfl := Option.some.inj (hm.symm.trans hm')
  obtain rfl := Option.some.inj (hl.symm.trans hl')
  refine ⟨{ m with listing := some { l with position } }, { l with position }, ?_, rfl, hlast⟩
  show ((r.hosts.set j _).get j).mount = _
  rw [Slots.get_set_self]

theorem Live.rename [HostStorage W R] [KeyStorage W] (h : r.Live last) (i : Fin 8) (name : String) :
    (renameHost i name r).Live last := by
  obtain ⟨w, -, hr⟩ := rename_eq i name r
  unfold renameHost dropCursor
  rw [hr]
  split
  · exact live_of_closed rfl
  · next hi => exact Live.setHost (r := r.setStorage w) h hi _

/-- What is read is read from an open listing. -/
theorem Live.reading (h : r.Live last) {limit options : UInt8} {bytes : Bytes} {s : Rack W R D}
    (hr : readDirectory limit options r = .ok bytes s) : ∃ i, r.LiveOn i last := by
  rcases hi : r.cursor.openOn with _ | i
  · unfold readDirectory Rack.reading at hr
    rw [bind_apply, bind_apply, get_apply] at hr
    simp only [hi] at hr
    cases hr
  · exact ⟨i, h i hi⟩

/-- Without a listing under the cursor, what is read is the end mark. -/
theorem readDirectory_lost {i : Fin 8} {m : Mounted R} (hi : r.cursor.openOn = some i)
    (hm : (r.hosts.get i).mount = some m) (hl : m.listing = none) (limit options : UInt8) :
    ∃ s, readDirectory limit options r = .ok DirectoryEntry.endMark s := by
  unfold readDirectory Rack.reading
  simp only [bind_apply, get_apply, hi, hm, pure_apply]
  split
  · exact ⟨r, rfl⟩
  · unfold Mounted.next
    rw [hl]
    exact ⟨r.setCursor { r.cursor with exhausted := true }, rfl⟩

theorem openOn_readyToOpen (r : Rack W R D) : r.readyToOpen.cursor.openOn = none := by
  unfold readyToOpen
  split
  · exact r.openOn_closeDirectory
  · next hn => exact Option.not_isSome_iff_eq_none.1 hn

theorem mount_openedOn (i : Fin 8) (m : Mounted R) (entries : List DirectoryEntry)
    (r : Rack W R D) : ((openedOn i m entries r).hosts.get i).mount =
      some { m with listing := some { entries } } := by
  show ((r.hosts.set i _).get i).mount = _
  rw [Slots.get_set_self]

theorem opening?_openedOn (i : Fin 8) (m : Mounted R) (entries : List DirectoryEntry)
    (r : Rack W R D) : (openedOn i m entries r).opening? = some ⟨i, entries⟩ := by
  unfold opening?
  show ((openedOn i m entries r).hosts.get i).mount.bind _ = _
  rw [mount_openedOn]
  rfl

/-- Opening a listing makes it the last one; if that fails, the one before is, or none is open. -/
theorem Live.openDirectory [HostStorage W R] (h : r.Live last) (slot : UInt8) (path : String)
    (pattern : Option String) : match Rack.openDirectory slot path pattern r with
      | .ok () s => s.Live (s.opening?.or last)
      | .error _ s => s.Live last := by
  obtain ⟨e, -, ho⟩ | ⟨e, ho⟩ | ⟨e, i, m, -, ho⟩ | ⟨i, m, entries, -, -, -, ho⟩ :=
    openDirectory_cases slot path pattern r <;> rw [ho]
  · exact h
  · exact live_of_closed r.openOn_readyToOpen
  · exact live_of_closed r.openOn_readyToOpen
  · intro j hj
    obtain rfl : i = j := Option.some.inj hj
    refine ⟨_, _, mount_openedOn i m entries _, rfl, ?_⟩
    rw [opening?_openedOn]
    rfl

end Rack

/-! ### All runs, if the names fit -/

section Run

variable {W R D : Type} [HostStorage W R] [SettingsStore W] [KeyStorage W] [DriveBay D]

/-- The slots have the names that are in the settings. -/
def Device.Named (d : Device W R D) : Prop :=
  ∀ i, (d.rack.hosts.get i).hostname = (d.settings.hosts.get i).hostname

omit [HostStorage W R] [SettingsStore W] [KeyStorage W] [DriveBay D] in
theorem Device.Named.listings {d : Device W R D} (h : d.Named) {r : Rack W R D}
    (hl : d.rack.SameButListings r) : (d.setRack r).Named := fun i => (hl.hostname i).trans (h i)

omit [SettingsStore W] [KeyStorage W] in
/-- Filling the slots changes no host that has its name. -/
theorem Device.Named.hosts_fill {d : Device W R D} (h : d.Named) (i : Fin 8) :
    (d.rack.fill d.settings).hosts.get i = d.rack.hosts.get i := by
  rw [Rack.hosts_fill]
  exact if_pos (h i)

omit [HostStorage W R] [KeyStorage W] [DriveBay D] in
theorem Device.Named.save {d : Device W R D} (h : d.rack.KindsOfNames) :
    (Device.save.after d).Named := by
  intro i
  rw [after_save]
  show _ = (Slots.get (d.rack.hosts.map HostSlot.toSettings) i).hostname
  rw [Slots.get_map, HostSlot.hostname_toSettings (h i)]
  rfl

theorem upheld_live (last : Option Opening) :
    Upheld (fun d : Device W R D => d.Named ∧ d.rack.KindsOfNames ∧ d.rack.Live last)
      fun d => d.rack.KindsOfNames ∧ d.rack.Live last where
  weaken h := h.2
  before := ⟨fun h _ => h, fun {d i} h hm _ root =>
    ⟨h.1.listings ((Rack.SameButListings.refl _).setMount i _), h.2.1.setMount i _,
      h.2.2.setHost (fun hi => h.2.2.mounted hi hm) _⟩⟩
  during := ⟨fun h _ => h, fun h hm _ _ =>
    ⟨h.1.setMount _ _, h.2.setHost (fun hi => h.2.mounted hi hm) _⟩⟩
  aside h _ _ := h
  digest h _ := h
  key h _ _ := h
  fill {d} h := by
    refine ⟨fun i => ?_, h.2.1.fill _, fun i hi => ?_⟩
    · rw [rack_setRack, h.1.hosts_fill]
      exact h.1 i
    · rw [rack_setRack, (Rack.fill_reached d.settings d.rack).2] at hi
      unfold Rack.LiveOn
      rw [rack_setRack, h.1.hosts_fill]
      exact h.2.2 i hi
  unmount h hi := ⟨h.1.listings ((Rack.SameButListings.refl _).setMount _ _), h.2.1.setMount _ _,
    h.2.2.setHost hi _⟩
  close {d} h :=
    have hl := (Rack.SameButListings.refl d.rack).closeDirectory
    ⟨h.1.listings hl, h.2.1.listings hl, Rack.live_of_closed d.rack.openOn_closeDirectory⟩
  follow d := ⟨fun h _ => ⟨h.1, h.2.1, Rack.live_of_closed rfl⟩,
    fun {r i m l} h hi hm hl position =>
      ⟨h.1.listings (d := d.setRack r) ((Rack.SameButListings.refl r).setMount i _),
        h.2.1.setMount i _, h.2.2.moved hi hm hl position⟩,
    fun h _ => h⟩
  rename h i name := ⟨h.1.renameHost i name, h.2.rename i name⟩
  load h _ _ _ := h
  empty h _ := h
  assign {d} h i filename host mode := by
    obtain ⟨drives, hr⟩ := Rack.assign_eq i (.assigned filename host mode) d.rack
    rw [rack_setRack, hr]
    exact h
  wifi h _ := h
  boot h _ _ := h
  switch h _ _ := h
  save {d} h := by
    refine ⟨.save h.1, ?_⟩
    rw [after_save]
    exact h

theorem Device.move_opening {d : Device W R D} {m : Move W D} {slot : UInt8} {path : String}
    {pattern : Option String} (h : m.request d = .ok (some (.openDirectory slot path pattern))) :
    (d.move m).rack = (Rack.openDirectory slot path pattern).after d.rack ∧
      (d.move m).settings = d.settings := by
  obtain ⟨p, q, s, hmove⟩ := move_served h nofun
  have hserve : (Request.serve (.ok (some (.openDirectory slot path pattern)))).after d =
      d.setRack ((Rack.openDirectory slot path pattern).after d.rack) := after_on _ _ _ d
  rw [hmove, hserve]
  exact ⟨rfl, rfl⟩

/-- What is kept along runs: the slots have the names that are in the settings and the kinds of
these names, and the cursor is on the listing that was opened last. -/
structure Browsing.Kept (b : Browsing W R D) : Prop where
  named : b.device.Named
  kinds : b.device.rack.KindsOfNames
  live : b.device.rack.Live b.opened

/-- **One move keeps the cursor on the listing that was opened last.** -/
theorem Browsing.Kept.move {b : Browsing W R D} (h : b.Kept) (m : Move W D) : (b.move m).Kept := by
  by_cases hr : ∃ slot path pattern,
      m.request b.device = .ok (some (.openDirectory slot path pattern))
  · obtain ⟨slot, path, pattern, hr⟩ := hr
    obtain ⟨hrack, hsettings⟩ := Device.move_opening hr
    have hs := Rack.SameButListings.openDirectory slot path pattern b.device.rack
    refine ⟨fun i => ?_, ?_, ?_⟩
    · show ((b.device.move m).rack.hosts.get i).hostname =
        ((b.device.move m).settings.hosts.get i).hostname
      rw [hrack, hsettings]
      exact h.named.listings hs i
    · show (b.device.move m).rack.KindsOfNames
      rw [hrack]
      exact h.kinds.listings hs
    · show (b.device.move m).rack.Live ((m.opening? b.device).or b.opened)
      have ho := h.live.openDirectory slot path pattern
      unfold Move.opening?
      rw [hrack, hr]
      unfold after
      simp only
      rcases h : Rack.openDirectory slot path pattern b.device.rack with ⟨_, s⟩ | ⟨e, s⟩ <;>
        rw [h] at ho <;> exact ho
  · have hnone : m.opening? b.device = none := by
      unfold Move.opening?
      split
      · next h => exact absurd ⟨_, _, _, h⟩ hr
      · rfl
    have hopened : (b.move m).opened = b.opened := by
      show (m.opening? b.device).or b.opened = b.opened
      rw [hnone]
      rfl
    obtain ⟨hn, hk, hl⟩ := (upheld_live b.opened).move (fun h _ _ _ => h) m
      (fun slot path pattern h => absurd ⟨slot, path, pattern, h⟩ hr)
      (fun f g k hm h => by subst hm; exact h) ⟨h.named, h.kinds, h.live⟩
    exact ⟨hn, hk, hopened ▸ hl⟩

theorem Browsing.Kept.run {b : Browsing W R D} (h : b.Kept) (moves : List (Move W D)) :
    (b.run moves).Kept :=
  List.foldlRecOn moves Browsing.move (motive := Browsing.Kept) h fun _ h m _ => h.move m

omit [HostStorage W R] [SettingsStore W] [KeyStorage W] [DriveBay D] in
/-- What is read is read from the listing under the cursor. -/
theorem Browsing.Kept.browsing_live {b : Browsing W R D} (h : b.Kept) : b.Live :=
  ⟨h.live, fun _ _ _ _ hr => h.live.reading hr⟩

omit [SettingsStore W] [KeyStorage W] in
theorem after_mountHost {slot : UInt8} {i : Fin 8} (hi : Rack.hostIndex slot = .ok i)
    (d : Device W R D) : (Device.mountHost slot).after d =
      d.setRack ((Rack.connect i).after (d.rack.fill d.settings)) := by
  unfold Device.mountHost Rack.mountHost refillSlots
  rw [hi, after_lift_ok, after_bind]
  exact after_on _ _ _ _

omit [KeyStorage W] in
/-- A device that starts has the names in its slots cut to fit, and no cursor. -/
theorem hostname_start (storage : W) (drives : D) (radio : Radio) (board : Board)
    (digester : Digester) (i : Fin 8) :
    let d : Device W R D := Device.start storage drives radio board digester
    (d.rack.hosts.get i).hostname =
      Text.clip HostSlot.nameLimit (d.settings.hosts.get i).hostname := by
  intro d
  have hr : d.rack = (Rack.fill d.settings { storage, drives }).switched d.settings := rack_start ..
  rw [hr]
  show ((Rack.fill d.settings { storage, drives }).hosts.get i).hostname = _
  rw [Rack.hosts_fill]
  refine HostSlot.hostname_filled ?_ _
  show Text.size (Slots.get (Vector.replicate 8 ({} : HostSlot R)) i).hostname ≤ _
  rw [Slots.get_replicate]
  exact Nat.zero_le _

omit [KeyStorage W] in
theorem named_start (storage : W) (drives : D) (radio : Radio) (board : Board) (digester : Digester)
    {settings : Settings}
    (hs : (Device.start storage drives radio board digester : Device W R D).settings = settings)
    (hfit : ∀ i, Text.size (settings.hosts.get i).hostname ≤ HostSlot.nameLimit) :
    (Device.start storage drives radio board digester : Device W R D).Named := by
  intro i
  rw [hostname_start storage drives radio board digester i, hs, Text.clip_of_size_le (hfit i)]

omit [KeyStorage W] in
theorem kept_start (storage : W) (drives : D) (radio : Radio) (board : Board) (digester : Digester)
    {settings : Settings}
    (hs : (Device.start storage drives radio board digester : Device W R D).settings = settings)
    (hfit : ∀ i, Text.size (settings.hosts.get i).hostname ≤ HostSlot.nameLimit) :
    (⟨Device.start storage drives radio board digester, none⟩ : Browsing W R D).Kept where
  named := named_start storage drives radio board digester hs hfit
  kinds := (Rack.KindsOfNames.empty storage drives).fill _
  live := Rack.live_of_closed
    (congrArg Cursor.openOn (start_reached (R := R) storage drives radio board digester).2)

end Run

/-! ### A name that does not fit -/

section Cut

variable {settings : Settings} {i : Fin 8} {d : Memory.Adapter}

/-- A device in memory with a slot for a host that can be reached by its name in the settings as it
is cut. -/
structure Cut (settings : Settings) (i : Fin 8) (d : Memory.Adapter) : Prop where
  same : d.settings = settings
  hostname : Text.size (d.rack.hosts.get i).hostname ≤ HostSlot.nameLimit
  reachable : d.rack.storage.hosts.trees.contains
    (Text.clip HostSlot.nameLimit (settings.hosts.get i).hostname)

/-- The slot never is as the settings say, so filling it unmounts the host. -/
theorem Cut.hosts_fill (h : Cut settings i d)
    (hlong : HostSlot.nameLimit < Text.size (settings.hosts.get i).hostname) :
    (d.rack.fill d.settings).hosts.get i = .named (settings.hosts.get i).hostname := by
  have hcut : (d.rack.hosts.get i).hostname ≠ (settings.hosts.get i).hostname := by
    intro he
    rw [← he] at hlong
    exact absurd h.hostname (Nat.not_le.2 hlong)
  rw [Rack.hosts_fill, h.same]
  exact if_neg hcut

/-- Mounting the host does not look at the cursor, but leaves the host without a listing. -/
theorem Cut.mountHost (h : Cut settings i d)
    (hlong : HostSlot.nameLimit < Text.size (settings.hosts.get i).hostname) :
    let e := d.move (.call (.mountHost (Rack.unit i)))
    Cut settings i e ∧ e.rack.cursor = d.rack.cursor ∧ (e.rack.hosts.get i).mount =
      some { root := Text.clip HostSlot.nameLimit (settings.hosts.get i).hostname } := by
  intro e
  have hfill := h.hosts_fill hlong
  obtain ⟨hused, hcursor⟩ := Rack.fill_reached d.settings d.rack
  obtain ⟨-, htrees⟩ := Memory.Storage.used_keeps hused.used
  have he : e = d.setRack ((Rack.connect i).after (d.rack.fill d.settings)) :=
    after_mountHost (Rack.slotIndex_unit .host i) d
  -- filling the slots has unmounted the host, since its name in the settings is longer
  generalize d.rack.fill d.settings = r at *
  have hm : (r.hosts.get i).mount = none := congrArg HostSlot.mount hfill
  have hkind : (r.hosts.get i).kind ≠ .unused := by
    rw [hfill, ne_eq, (HostSlot.KindOfName.named _).kind_eq_unused_iff]
    show Text.clip HostSlot.nameLimit (settings.hosts.get i).hostname ≠ ""
    rw [ne_eq, Text.clip_eq_empty_iff (by decide)]
    intro hn
    rw [hn] at hlong
    exact absurd hlong (Nat.not_lt_zero _)
  have hreach : r.storage.hosts.trees.contains (r.hosts.get i).hostname := by
    rw [htrees, hfill]
    exact h.reachable
  obtain ⟨w, hc, hw⟩ := Memory.Storage.connect_ok hreach (r.hosts.get i).kind
  rw [Rack.after_connect hm hkind hc] at he
  have hget : e.rack.hosts.get i = { r.hosts.get i with
      mount := some { root := (r.hosts.get i).hostname } } := by
    rw [he]
    exact Slots.get_set_self _ _ _
  rw [hfill] at hget
  refine ⟨⟨?_, ?_, ?_⟩, ?_, congrArg HostSlot.mount hget⟩
  · rw [he]
    exact h.same
  · rw [hget]
    exact Text.size_clip_le _ _
  · rw [he]
    show w.hosts.trees.contains _
    rw [hw, htrees]
    exact h.reachable
  · rw [he]
    exact hcursor

/-- With no cursor, the topmost directory of a mounted host is opened. -/
theorem Cut.openDirectory (h : Cut settings i d) (hclosed : d.rack.cursor.openOn = none)
    {m : Mounted String} (hm : (d.rack.hosts.get i).mount = some m) :
    let e := d.move (.call (.openDirectory (Rack.unit i) "/" none))
    Cut settings i e ∧ e.rack.cursor.openOn = some i := by
  intro e
  have hready : d.rack.readyToOpen = d.rack := by
    unfold Rack.readyToOpen
    rw [hclosed]
    rfl
  have hl := Memory.Storage.list_top d.rack.storage m.root
  have ho : Rack.openDirectory (Rack.unit i) "/" none d.rack = .ok () _ :=
    Rack.openDirectory_ok (Rack.slotIndex_unit .host i) (hready.symm ▸ hm) (hready.symm ▸ hl)
  obtain ⟨hrack, hsettings⟩ : e.rack = (Rack.openDirectory (Rack.unit i) "/" none).after d.rack ∧
    e.settings = d.settings := Device.move_opening rfl
  have hs := Rack.SameButListings.openDirectory (Rack.unit i) "/" none d.rack
  refine ⟨⟨hsettings.trans h.same, ?_, ?_⟩, ?_⟩
  · rw [hrack, hs.hostname]
    exact h.hostname
  · rw [hrack, hs.storage]
    exact h.reachable
  · rw [hrack]
    unfold after
    rw [ho]
    rfl

/-- The moves that lose a listing: the host is mounted, a listing is opened and the host is mounted
once more. -/
def mountingTwice (i : Fin 8) : List (Move Memory.Storage Memory.Drives) :=
  [.call (.mountHost (Rack.unit i)), .call (.openDirectory (Rack.unit i) "/" none),
    .call (.mountHost (Rack.unit i))]

/-- The cursor stays on the host, which has no listing any more. -/
theorem Cut.lost (h : Cut settings i d)
    (hlong : HostSlot.nameLimit < Text.size (settings.hosts.get i).hostname)
    (hclosed : d.rack.cursor.openOn = none) :
    let e := d.run (mountingTwice i)
    e.rack.cursor.openOn = some i ∧ (e.rack.hosts.get i).mount =
      some { root := Text.clip HostSlot.nameLimit (settings.hosts.get i).hostname } := by
  intro e
  have he : e = ((d.move (.call (.mountHost (Rack.unit i)))).move
    (.call (.openDirectory (Rack.unit i) "/" none))).move (.call (.mountHost (Rack.unit i))) := rfl
  obtain ⟨h₁, hcursor, hm⟩ := h.mountHost hlong
  obtain ⟨h₂, hopen⟩ := h₁.openDirectory ((congrArg Cursor.openOn hcursor).trans hclosed) hm
  obtain ⟨-, hkept, hlost⟩ := h₂.mountHost hlong
  rw [he, hkept]
  exact ⟨hopen, hlost⟩

/-- A device in memory that starts from the settings. The host is reached by the name as it is cut,
and there is an image on it. -/
def reaching (settings : Settings) (i : Fin 8) : Memory.Adapter :=
  let name := Text.clip HostSlot.nameLimit (settings.hosts.get i).hostname
  Memory.Surroundings.start { storage := {
    hosts := ({} : Memory.Hosts).withFile name "/a.d64" 174848 0
    config := { stored := some settings } } }

theorem cut_reaching (settings : Settings) (i : Fin 8) :
    Cut settings i (reaching settings i) ∧ (reaching settings i).rack.cursor.openOn = none := by
  obtain ⟨hreached, hcursor⟩ : Reached _ (reaching settings i).rack.storage ∧
    (reaching settings i).rack.cursor = {} := start_reached _ _ _ _ _
  obtain ⟨-, htrees⟩ := Memory.Storage.used_keeps hreached.used
  have hs : (reaching settings i).settings = settings := settings_start rfl _ _ _ _
  refine ⟨⟨hs, ?_, ?_⟩, congrArg Cursor.openOn hcursor⟩
  · have hname : ((reaching settings i).rack.hosts.get i).hostname = _ := hostname_start _ _ _ _ _ i
    rw [hname]
    exact Text.size_clip_le _ _
  · rw [htrees]
    exact congrArg Option.isSome (Catalog.get?_put_self _ _ _)

theorem Cut.not_live (h : Cut settings i d)
    (hlong : HostSlot.nameLimit < Text.size (settings.hosts.get i).hostname)
    (hclosed : d.rack.cursor.openOn = none) :
    ¬((⟨d, none⟩ : Browsing Memory.Storage String Memory.Drives).run (mountingTwice i)).Live := by
  intro hlive
  obtain ⟨ho, hm⟩ := h.lost hlong hclosed
  have hl := hlive.cursor
  rw [Browsing.device_run] at hl
  obtain ⟨m, l, hm', hl', -⟩ := hl i ho
  rw [hm] at hm'
  obtain rfl := Option.some.inj hm'
  cases hl'

end Cut

/-- **The cursor is live along all runs if and only if the names fit**: whatever the hosts, the
drives and the moves are, for a device that starts from the settings. -/
theorem cursor_live_iff (settings : Settings) :
    (∀ (W R D : Type) [HostStorage W R] [SettingsStore W] [KeyStorage W] [DriveBay D] (storage : W)
      (drives : D) (radio : Radio) (board : Board) (digester : Digester) (moves : List (Move W D)),
      let d : Device W R D := Device.start storage drives radio board digester
      d.settings = settings → ((⟨d, none⟩ : Browsing W R D).run moves).Live) ↔
      ∀ i, Text.size (settings.hosts.get i).hostname ≤ HostSlot.nameLimit := by
  constructor
  · intro hlive i
    by_contra hlong
    obtain ⟨hd, hclosed⟩ := cut_reaching settings i
    have hl := hlive Memory.Storage String Memory.Drives _ {} {} { version := "dummy-0.1.0" }
      DigestAlgorithm.digest (mountingTwice i) hd.same
    exact hd.not_live (Nat.lt_of_not_le hlong) hclosed hl
  · intro hfit W R D _ _ _ _ storage drives radio board digester moves d hs
    exact ((kept_start storage drives radio board digester hs hfit).run moves).browsing_live

/-- A name of forty letters is in the settings, and the host is reached by its first thirty-one.
When it is mounted twice, its listing is lost, and the end mark is read instead of the image. -/
theorem cursor_lost_when_mounted_again :
    let name := "hhhhhhhhhhhhhhhhhhhhhhhhhhhhhhhhhhhhhhhh"
    let settings : Settings := { hosts := (Vector.replicate 8 {}).set 0 { name, kind := .tnfs } }
    let b : Browsing Memory.Storage String Memory.Drives :=
      (⟨reaching settings 0, none⟩ : Browsing _ _ _).run (mountingTwice 0)
    b.opened.map (·.entries.map (·.name)) = some ["a.d64"] ∧ ¬b.Live ∧
      b.device.rack.cursor.openOn = some 0 ∧
      ∃ s, Rack.readDirectory 32 0 b.device.rack = .ok DirectoryEntry.endMark s := by
  intro name settings b
  have hlong : HostSlot.nameLimit < Text.size (settings.hosts.get 0).hostname := by decide
  obtain ⟨hd, hclosed⟩ := cut_reaching settings 0
  obtain ⟨ho, hm⟩ := hd.lost hlong hclosed
  have hb : b.device = (reaching settings 0).run (mountingTwice 0) := Browsing.device_run _ _
  refine ⟨?_, hd.not_live hlong hclosed, ?_, ?_⟩
  · decide +kernel
  · rw [hb]
    exact ho
  · rw [hb]
    exact Rack.readDirectory_lost ho hm rfl 32 0

end StorageAdapter
