import Mathlib.Data.List.Basic
import StorageAdapter.Memory.Drives
import StorageAdapter.Proofs.Memory
import StorageAdapter.Proofs.RackRun

/-! # Filling the slots once more

Slots are filled from the settings again and again, and most of the time nothing has changed. What
is filled from the settings that the slots were written into keeps all media
(`saved_slots_keep_media`). What is filled twice from the same settings keeps everything that was
mounted in between, if and only if the names and paths in the settings fit the slots
(`filled_again_unchanged_iff`): one that does not fit is cut, and its slot never is as the settings
say. -/

namespace StorageAdapter

open StorageAdapter.Action

variable {W R D : Type}

/-! ### Slots that are filled again -/

theorem Slots.ext {α : Type} {xs ys : Slots α} (h : ∀ i, xs.get i = ys.get i) : xs = ys :=
  Vector.ext fun i hi => h ⟨i, hi⟩

theorem HostSlot.hostname_filled_of_size_le {s : HostSettings}
    (hs : Text.size s.hostname ≤ nameLimit) (h : HostSlot R) :
    (h.filled s).hostname = s.hostname := by
  unfold filled
  split
  · next he => exact he
  · exact Text.clip_of_size_le hs

namespace DiskSlot

variable {d : DiskSlot} {s : DiskSettings}

theorem agrees_ofSettings (hn : s.filename ≠ "")
    (hs : Text.size s.filename ≤ filenameLimit) : (ofSettings s).agrees s :=
  agrees_iff.2 ⟨Text.clip_of_size_le hs, if_neg hn, rfl⟩

/-- Filling the slot takes no image out of its drive. -/
def Spared (s : DiskSettings) (d : DiskSlot) : Prop := d.agrees s ∨ d.image = none

theorem spared_ofSettings (s : DiskSettings) : (ofSettings s).Spared s := .inr rfl

theorem spared_filled (d : DiskSlot) (s : DiskSettings) : (d.filled s).Spared s := by
  by_cases h : d.agrees s
  · rw [filled_of_agrees h]
    exact .inl h
  · have hd : d.filled s = ofSettings s := if_neg h
    rw [hd]
    exact spared_ofSettings s

theorem not_agrees_of_size_lt (hd : Text.size d.filename ≤ filenameLimit)
    (hs : filenameLimit < Text.size s.filename) : ¬d.agrees s := by
  intro h
  rw [(agrees_iff.1 h).1] at hd
  exact absurd hd (Nat.not_le.2 hs)

end DiskSlot

theorem DiskSettings.filename_eq_path {s : DiskSettings} {h : Fin 8} (hs : s.host? = some h) :
    s.filename = s.path := by
  unfold filename
  rw [hs]
  rfl

namespace Rack

variable [HostStorage W R] [DriveBay D]

omit [DriveBay D] in
theorem fillHost_of_eq {settings : Settings} {r : Rack W R D} {i : Fin 8}
    (h : (r.hosts.get i).hostname = (settings.hosts.get i).hostname) :
    r.fillHost settings i = r := if_pos h

section Spared

omit [HostStorage W R]

/-- A slot that is spared is filled without a look at the drives. -/
theorem fillDisk_of_spared {settings : Settings} {r : Rack W R D} {i : Fin 8}
    (h : (r.disks.get i).Spared (settings.mounts.get i)) : r.fillDisk settings i =
      { r with disks := r.disks.set i ((r.disks.get i).filled (settings.mounts.get i)) } := by
  unfold fillDisk DiskSlot.filled
  by_cases ha : (r.disks.get i).agrees (settings.mounts.get i)
  · rw [if_pos ha, if_pos ha, Slots.set_get]
  · have hm : ¬(r.disks.get i).isMounted := by
      unfold DiskSlot.isMounted
      rw [h.resolve_left ha]
      exact Bool.false_ne_true
    rw [if_neg ha, if_neg ha]
    unfold assign
    rw [if_neg hm]
    rfl

/-- The same rack but for the disk slots, which are all spared. -/
structure Undisturbed (settings : Settings) (r s : Rack W R D) : Prop where
  same : ∃ disks, s = { r with disks }
  spared : ∀ i, (s.disks.get i).Spared (settings.mounts.get i)

theorem Undisturbed.fillDisk {settings : Settings} {r s : Rack W R D}
    (h : Undisturbed settings r s) (i : Fin 8) :
    Undisturbed settings r (s.fillDisk settings i) := by
  rw [fillDisk_of_spared (h.spared i)]
  obtain ⟨disks, rfl⟩ := h.same
  refine ⟨⟨_, rfl⟩, fun j => ?_⟩
  show (Slots.get (Slots.set disks i _) j).Spared _
  rw [Slots.get_set]
  split
  · next hj => exact hj ▸ DiskSlot.spared_filled _ _
  · exact h.spared j

end Spared

/-- **Filling disturbs nothing** if the hosts have their names and the disk slots are spared: no
host is unmounted and no drive is emptied. -/
theorem fill_of_spared {settings : Settings} {r : Rack W R D}
    (hh : ∀ i, (r.hosts.get i).hostname = (settings.hosts.get i).hostname)
    (hd : ∀ i, (r.disks.get i).Spared (settings.mounts.get i)) :
    ∃ disks, r.fill settings = { r with disks } := by
  have hstart : Undisturbed settings r r := ⟨⟨r.disks, rfl⟩, hd⟩
  unfold fill
  -- every host is passed over, and then each disk slot in turn leaves the rest of the rack alone
  rw [List.foldl_fixed' fun i => fillHost_of_eq (hh i)]
  exact (List.foldlRecOn (List.finRange 8) (fillDisk settings) hstart
    fun _ hs i _ => hs.fillDisk i).same

end Rack

/-! ### What was saved -/

section Saved

theorem DiskSlot.spared_toSettings {d : DiskSlot} (h : d.Sound) : d.Spared d.toSettings := by
  by_cases hn : d.namesImage
  · exact .inl (agrees_toSettings hn)
  · exact .inr (not_imp_comm.1 h hn)

/-- A slot without media comes back empty. -/
theorem DiskSlot.filled_toSettings {d : DiskSlot} (h : d.Sound) :
    d.filled d.toSettings = if d.namesImage then d else {} := by
  by_cases hn : d.namesImage
  · rw [if_pos hn, filled_of_agrees (agrees_toSettings hn)]
  · rw [if_neg hn, filled_toSettings_of_not_namesImage hn, not_imp_comm.1 h hn, ite_self]

theorem Rack.hosts_writeInto (r : Rack W R D) (settings : Settings) (i : Fin 8) :
    (r.writeInto settings).hosts.get i = (r.hosts.get i).toSettings := Slots.get_map _ _ i

theorem Rack.mounts_writeInto (r : Rack W R D) (settings : Settings) (i : Fin 8) :
    (r.writeInto settings).mounts.get i = (r.disks.get i).toSettings := Slots.get_map _ _ i

variable [HostStorage W R] [DriveBay D]

theorem Rack.Sound.fill_writeInto {r : Rack W R D} (h : r.Sound) (settings : Settings) :
    r.fill (r.writeInto settings) =
      { r with disks := r.disks.map fun d => if d.namesImage then d else {} } := by
  have hname : ∀ i, (r.hosts.get i).hostname = ((r.writeInto settings).hosts.get i).hostname := by
    intro i
    rw [hosts_writeInto, HostSlot.hostname_toSettings (h.host i).kind]
  have hspared : ∀ i, (r.disks.get i).Spared ((r.writeInto settings).mounts.get i) := by
    intro i
    rw [mounts_writeInto]
    exact DiskSlot.spared_toSettings (h.disk i)
  obtain ⟨disks, hr⟩ := fill_of_spared hname hspared
  rw [hr]
  have hdisks : disks = r.disks.map fun d => if d.namesImage then d else {} := by
    refine Slots.ext fun i => ?_
    have hi := disks_fill (r.writeInto settings) r i
    rw [hr, mounts_writeInto, DiskSlot.filled_toSettings (h.disk i)] at hi
    rw [Slots.get_map]
    exact hi
  rw [hdisks]

/-- **Loading what was saved disturbs no media.** Whatever was done to the rack, filling its slots
from any settings that they were written into changes nothing but the disk slots without media,
which are empty afterwards: no host is renamed or unmounted and no drive is emptied. -/
theorem saved_slots_keep_media (storage : W) (drives : D) (moves : List (RackMove W R D))
    (settings : Settings) :
    let r := Rack.run { storage, drives } moves
    r.fill (r.writeInto settings) =
      { r with disks := r.disks.map fun d => if d.namesImage then d else {} } :=
  ((Rack.sound_empty storage drives).run moves).fill_writeInto settings

end Saved

/-! ### The same settings again, if they fit -/

/-- No hostname is cut by its slot, and no path of an image whose host has a name. -/
structure Settings.Fits (s : Settings) : Prop where
  hostname : ∀ i, Text.size (s.hosts.get i).hostname ≤ HostSlot.nameLimit
  path : ∀ i h, (s.mounts.get i).host? = some h → (s.hosts.get h).hostname ≠ "" →
    Text.size (s.mounts.get i).path ≤ DiskSlot.filenameLimit

/-- The move mounts a host, or an image in the mode of the settings, or is not about the slots. -/
def RackMove.Mounts (settings : Settings) : RackMove W R D → Prop
  | .mountHost _ | .useHost _ _ | .outside _ _ _ => True
  | .mountImage slot mode =>
    ∀ i, Rack.diskIndex slot = .ok i → mode = (settings.mounts.get i).mode
  | .rename _ _ | .unmountHost _ | .pointDisk _ _ _ _ | .unmountImage _ | .fill _ => False

namespace Rack

section Filled

variable {settings : Settings} {r : Rack W R D}

/-- The slots are sound and as filling leaves them. -/
structure Filled (settings : Settings) (r : Rack W R D) : Prop where
  sound : r.Sound
  hostname : ∀ i, (r.hosts.get i).hostname = (settings.hosts.get i).hostname
  disk : ∀ i, (r.disks.get i).filled (settings.mounts.get i) = r.disks.get i

variable (h : r.Filled settings)
include h

theorem Filled.setHost {i : Fin 8} {host : HostSlot R} (hh : host.Sound)
    (hn : host.hostname = (r.hosts.get i).hostname) : (r.setHost i host).Filled settings where
  sound := h.sound.setHost hh
  hostname j := by
    show ((r.hosts.set i host).get j).hostname = _
    rw [Slots.get_set]
    split
    · next hj => rw [hn, hj, h.hostname]
    · exact h.hostname j
  disk := h.disk

/-- A slot that is ready agrees with the settings: a path that does not fit is on no host that could
be mounted. -/
theorem Filled.agrees (hfit : settings.Fits) {i : Fin 8} (hr : r.Ready i) :
    (r.disks.get i).agrees (settings.mounts.get i) := by
  -- otherwise the slot was filled anew, so its host is the one in the settings, which has a name
  by_contra ha
  obtain ⟨-, host, mounted, hh, hm⟩ := hr
  have hd := h.disk i
  rw [DiskSlot.filled_of_not_agrees ha] at hd
  rw [← hd] at ha hh
  have hf : (settings.mounts.get i).filename ≠ "" := by
    intro hf
    exact nomatch (if_pos hf).symm.trans hh
  have hhost : (settings.mounts.get i).host? = some host := (if_neg hf).symm.trans hh
  have hname : (settings.hosts.get host).hostname ≠ "" := by
    rw [← h.hostname]
    exact (h.sound.host host).named (hm ▸ Option.some_ne_none mounted)
  refine ha (DiskSlot.agrees_ofSettings hf ?_)
  rw [DiskSettings.filename_eq_path hhost]
  exact hfit.path i host hhost hname

variable [DriveBay D]

/-- An image that is loaded in the mode of the settings leaves its slot as they say. -/
theorem Filled.load (hfit : settings.Fits) {i : Fin 8} (hr : r.Ready i) (size : Nat) :
    (r.loaded i (settings.mounts.get i).mode size).Filled settings where
  sound := h.sound.load hr _ size
  hostname := h.hostname
  disk j := by
    show DiskSlot.filled _ ((r.disks.set i _).get j) = (r.disks.set i _).get j
    rw [Slots.get_set]
    split
    · next hj =>
      subst hj
      obtain ⟨hf, hh, -⟩ := DiskSlot.agrees_iff.1 (h.agrees hfit hr)
      exact DiskSlot.filled_of_agrees (DiskSlot.agrees_iff.2 ⟨hf, hh, rfl⟩)
    · exact h.disk j

variable [HostStorage W R]

theorem Filled.fill : r.fill settings = r := by
  have hspared : ∀ i, (r.disks.get i).Spared (settings.mounts.get i) := fun i =>
    h.disk i ▸ DiskSlot.spared_filled _ _
  obtain ⟨disks, hr⟩ := fill_of_spared h.hostname hspared
  have hdisks : disks = r.disks := by
    refine Slots.ext fun i => ?_
    have hi := disks_fill settings r i
    rw [hr, h.disk i] at hi
    exact hi
  rw [hr, hdisks]

/-- **Mounting something as the settings say leaves the slots as filling does.** -/
theorem Filled.move (hfit : settings.Fits) {m : RackMove W R D} (hm : m.Mounts settings) :
    (r.move m).Filled settings := by
  have hstorage : ∀ {r : Rack W R D} {w}, r.Filled settings → Reached r.storage w →
      (r.setStorage w).Filled settings := fun hr _ =>
    ⟨hr.sound.setStorage _, hr.hostname, hr.disk⟩
  have hmount : ∀ {r : Rack W R D} i root, r.Filled settings → (r.hosts.get i).kind ≠ .unused →
      (r.setHost i { r.hosts.get i with mount := some { root } }).Filled settings :=
    fun i root hr hk =>
      have hkind := (hr.sound.host i).kind
      hr.setHost ⟨hkind, fun _ => mt hkind.kind_eq_unused_iff.2 hk⟩ rfl
  cases m with
  | mountHost slot => exact keeps_iff.1 (keeps_mountHost hstorage hmount slot) r h
  | mountImage slot mode =>
    show ((mountImage slot mode).after r).Filled settings
    refine (keeps_iff (P := Filled settings)).1 (ends_mountImage hstorage
      (fun i root hr _ hk => hmount i root hr hk) fun i size hi hready hr => ?_) r h
    rw [hm i hi]
    exact Filled.load hr hfit hready size
  | useHost i f =>
    refine h.setHost ⟨(h.sound.host i).kind, fun hmount => (h.sound.host i).named ?_⟩ rfl
    exact fun hn => hmount (congrArg (Option.map f) hn)
  | outside storage drives cursor => exact ⟨⟨h.sound.host, h.sound.disk⟩, h.hostname, h.disk⟩
  | _ => exact hm.elim

theorem Filled.run (hfit : settings.Fits) {moves : List (RackMove W R D)}
    (hm : ∀ m ∈ moves, m.Mounts settings) : (r.run moves).Filled settings :=
  List.foldlRecOn moves Rack.move h fun _ hr m hmem => hr.move hfit (hm m hmem)

end Filled

theorem Sound.filled [HostStorage W R] [DriveBay D] {r : Rack W R D} (h : r.Sound)
    {settings : Settings} (hfit : settings.Fits) : (r.fill settings).Filled settings where
  sound := h.fill settings
  hostname i := by rw [hosts_fill, HostSlot.hostname_filled_of_size_le (hfit.hostname i)]
  disk i := by rw [disks_fill, DiskSlot.filled_filled]

end Rack

/-! ### What does not fit -/

theorem DiskSlot.filled_empty (s : DiskSettings) : ({} : DiskSlot).filled s = ofSettings s := by
  by_cases ha : ({} : DiskSlot).agrees s
  · obtain ⟨hf, hh, hm⟩ := agrees_iff.1 ha
    rw [filled_of_agrees ha]
    unfold ofSettings assigned
    rw [← hf, ← hm]
    rfl
  · exact filled_of_not_agrees ha

theorem HostSlot.filled_empty (s : HostSettings) :
    ({} : HostSlot R).filled s = named s.hostname := by
  unfold filled
  split
  · next h =>
    rw [← h]
    rfl
  · rfl

/-- Storage in memory with one host and one image on it. -/
def Memory.Storage.withImage (name path : String) : Storage :=
  { hosts := { trees :=
    ({} : Catalog String (List Node)).put name [⟨treePath path, false, 174848, 0⟩] } }

/-- The trees of that storage. -/
abbrev Memory.Storage.HasImage (name path : String) (w : Storage) : Prop :=
  w.hosts.trees = (withImage name path).hosts.trees

theorem Memory.Storage.fileSize?_of_hasImage {name path : String} {w : Storage}
    (h : w.HasImage name path) : w.hosts.fileSize? name (treePath path) = some 174848 := by
  unfold Hosts.fileSize? Hosts.tree
  rw [h]
  unfold withImage
  rw [Catalog.get?_put_self]
  simp

theorem Memory.Storage.contains_of_hasImage {name path : String} {w : Storage}
    (h : w.HasImage name path) : w.hosts.trees.contains name := by
  rw [h]
  exact congrArg Option.isSome (({} : Catalog String (List Node)).get?_put_self name _)

/-- A rack in memory that was filled from the settings. Host slot `h` can be reached, and on it is
the image at `path`. -/
def Memory.filledRack (settings : Settings) (h : Fin 8) (path : String) :
    Rack Storage String Drives :=
  Rack.fill settings
    { storage := .withImage (Text.clip HostSlot.nameLimit (settings.hosts.get h).hostname) path
      drives := {} }

namespace Memory.filledRack

variable (settings : Settings) (h : Fin 8) (path : String)

theorem hosts (i : Fin 8) : (filledRack settings h path).hosts.get i =
    .named (settings.hosts.get i).hostname := by
  unfold filledRack
  rw [Rack.hosts_fill, Slots.get_replicate, HostSlot.filled_empty]

theorem disks (i : Fin 8) : (filledRack settings h path).disks.get i =
    .ofSettings (settings.mounts.get i) := by
  unfold filledRack
  rw [Rack.disks_fill, Slots.get_replicate, DiskSlot.filled_empty]

theorem hasImage : (filledRack settings h path).storage.HasImage
    (Text.clip HostSlot.nameLimit (settings.hosts.get h).hostname) path :=
  (Storage.used_keeps (Rack.fill_reached settings _).1.used).2

/-- The host is mounted when it is asked for. -/
theorem connect {settings : Settings} {h : Fin 8} (hn : (settings.hosts.get h).hostname ≠ "")
    (path : String) : ∃ r : Rack Storage String Drives,
      Rack.connect h (filledRack settings h path) = .ok () r ∧
      r.disks = (filledRack settings h path).disks ∧
      r.storage.HasImage (Text.clip HostSlot.nameLimit (settings.hosts.get h).hostname) path ∧
      r.hosts.get h =
        { (.named (settings.hosts.get h).hostname : HostSlot String) with
          mount := some
            { root := Text.clip HostSlot.nameLimit (settings.hosts.get h).hostname } } := by
  have hhost := hosts settings h path h
  have himage := hasImage settings h path
  generalize filledRack settings h path = r at *
  have hk : (r.hosts.get h).kind ≠ .unused := by
    rw [hhost, ne_eq, (HostSlot.KindOfName.named _).kind_eq_unused_iff]
    exact mt (Text.clip_eq_empty_iff (by decide)).1 hn
  have hreach : r.storage.hosts.trees.contains (r.hosts.get h).hostname := by
    rw [hhost]
    exact Storage.contains_of_hasImage himage
  obtain ⟨w, hc, hw⟩ := Storage.connect_ok hreach (r.hosts.get h).kind
  refine ⟨_, Rack.connect_ok (congrArg HostSlot.mount hhost) hk hc, rfl, hw.trans himage, ?_⟩
  show (r.hosts.set h _).get h = _
  rw [Slots.get_set_self, hhost]
  rfl

/-- A host whose name was cut is unmounted when the slots are filled again. -/
theorem unmounted {settings : Settings} {i : Fin 8}
    (hlong : HostSlot.nameLimit < Text.size (settings.hosts.get i).hostname) :
    let r := (filledRack settings i "/").move (.mountHost (Rack.unit i))
    (r.hosts.get i).mount ≠ none ∧ ((r.fill settings).hosts.get i).mount = none := by
  intro r
  have hn : (settings.hosts.get i).hostname ≠ "" := by
    intro hn
    rw [hn] at hlong
    exact absurd hlong (Nat.not_lt_zero _)
  obtain ⟨s, hs, -, -, hhost⟩ := connect hn "/"
  have hr : r = s := by
    show (Rack.mountHost (Rack.unit i)).after _ = s
    rw [Rack.after_mountHost (Rack.slotIndex_unit .host i)]
    unfold after
    rw [hs]
  have hcut : Text.clip HostSlot.nameLimit (settings.hosts.get i).hostname ≠
      (settings.hosts.get i).hostname := by
    intro he
    have := Text.size_clip_le HostSlot.nameLimit (settings.hosts.get i).hostname
    rw [he] at this
    exact absurd hlong (Nat.not_lt.2 this)
  rw [hr, Rack.hosts_fill, hhost]
  exact ⟨Option.some_ne_none _, congrArg HostSlot.mount (if_neg hcut)⟩

/-- An image whose path was cut is taken out when the slots are filled again. -/
theorem ejected {settings : Settings} {i h : Fin 8}
    (hhost : (settings.mounts.get i).host? = some h)
    (hname : (settings.hosts.get h).hostname ≠ "")
    (hlong : DiskSlot.filenameLimit < Text.size (settings.mounts.get i).path) :
    let r := (filledRack settings h
        (Text.clip DiskSlot.filenameLimit (settings.mounts.get i).path)).move
      (.mountImage (Rack.unit i) (settings.mounts.get i).mode)
    (r.disks.get i).image ≠ none ∧ ((r.fill settings).disks.get i).image = none := by
  intro r
  have hpath := DiskSettings.filename_eq_path hhost
  have hf : (settings.mounts.get i).filename ≠ "" := by
    intro hf
    rw [← hpath, hf] at hlong
    exact absurd hlong (Nat.not_lt_zero _)
  have hdisk := disks settings h (Text.clip DiskSlot.filenameLimit (settings.mounts.get i).path) i
  obtain ⟨s, hs, hd, himage, hm⟩ := connect hname
    (Text.clip DiskSlot.filenameLimit (settings.mounts.get i).path)
  obtain ⟨w, hw⟩ := Storage.openImage_ok (Storage.fileSize?_of_hasImage himage)
    (settings.mounts.get i).mode
  -- the image is mounted under its path as the slot has cut it
  have hr : r = (s.setStorage w).loaded i (settings.mounts.get i).mode 174848 := by
    refine Rack.after_mountImage (Rack.slotIndex_unit .device i) ?_ ?_ hs hd
      (congrArg HostSlot.mount hm) ?_
    · rw [hdisk]
      exact (if_neg hf).trans hhost
    · rw [hdisk]
      exact mt (Text.clip_eq_empty_iff (by decide)).1 hf
    · rw [hdisk]
      show HostStorage.openImage _ (Text.clip _ _) _ _ = _
      rw [hpath]
      exact hw
  obtain ⟨image, hslot⟩ := Rack.disks_loaded i (settings.mounts.get i).mode 174848 (s.setStorage w)
  rw [← hr] at hslot
  have hslot : r.disks.get i =
      { DiskSlot.ofSettings (settings.mounts.get i) with image := some image } := by
    have hs : (s.setStorage w).disks.get i = .ofSettings (settings.mounts.get i) :=
      (congrArg (Slots.get · i) hd).trans hdisk
    rw [hslot, hs]
    rfl
  have ha : ¬(r.disks.get i).agrees (settings.mounts.get i) := by
    refine DiskSlot.not_agrees_of_size_lt ?_ (hpath ▸ hlong)
    rw [hslot]
    exact Text.size_clip_le _ _
  rw [Rack.disks_fill, DiskSlot.filled_of_not_agrees ha, hslot]
  exact ⟨Option.some_ne_none _, rfl⟩

end Memory.filledRack

/-! ### All settings -/

/-- **What is mounted stays as it is when the slots are filled from the same settings again, if and
only if the names and paths in the settings fit.** This is for a rack that anything was done to
before, that was then filled, and on which hosts and images were then mounted as the settings say,
whether or not that succeeded. No host is unmounted and no drive is emptied then. -/
theorem filled_again_unchanged_iff (settings : Settings) :
    (∀ (W R D : Type) [HostStorage W R] [DriveBay D] (storage : W) (drives : D)
      (before mounts : List (RackMove W R D)), (∀ m ∈ mounts, m.Mounts settings) →
        let r := (((Rack.run { storage, drives } before).fill settings).run mounts)
        r.fill settings = r) ↔ settings.Fits := by
  constructor
  · -- what does not fit is mounted in memory, and lost
    intro hkept
    have hrun : ∀ h path m, m.Mounts settings →
        ((Memory.filledRack settings h path).move m).fill settings =
          (Memory.filledRack settings h path).move m := fun h path m hm =>
      hkept Memory.Storage String Memory.Drives _ {} [] [m] fun _ hmem =>
        List.mem_singleton.1 hmem ▸ hm
    constructor
    · intro i
      by_contra hlong
      obtain ⟨hm, hn⟩ := Memory.filledRack.unmounted (Nat.lt_of_not_le hlong)
      rw [hrun i "/" (.mountHost (Rack.unit i)) trivial] at hn
      exact hm hn
    · intro i h hhost hname
      by_contra hlong
      have hmount : RackMove.Mounts settings
          (.mountImage (Rack.unit i) (settings.mounts.get i).mode :
            RackMove Memory.Storage String Memory.Drives) := by
        intro j hj
        rw [Rack.diskIndex, Rack.slotIndex_unit] at hj
        rw [Except.ok.inj hj]
      obtain ⟨hm, hn⟩ := Memory.filledRack.ejected hhost hname (Nat.lt_of_not_le hlong)
      rw [hrun h _ _ hmount] at hn
      exact hm hn
  · intro hfit W R D _ _ storage drives before mounts hm
    have hs := (Rack.sound_empty (R := R) storage drives).run before
    exact ((hs.filled hfit).run hfit hm).fill

/-- A name of forty letters is in the settings, and the host is reached by its first thirty-one. It
is mounted, and filling the slots from the same settings again unmounts it. -/
theorem host_lost_when_filled_again :
    let name := "hhhhhhhhhhhhhhhhhhhhhhhhhhhhhhhhhhhhhhhh"
    let settings : Settings :=
      { hosts := Slots.set (Vector.replicate 8 {}) 0 { name, kind := .tnfs } }
    let r := (Memory.filledRack settings 0 "/a.d64").move (.mountHost 0)
    (r.hosts.get 0).isMounted ∧ r.storage.hosts.isMounted (Text.clip 31 name) ∧
      ¬((r.fill settings).hosts.get 0).isMounted ∧
      ¬(r.fill settings).storage.hosts.isMounted (Text.clip 31 name) := by
  decide +kernel

end StorageAdapter
