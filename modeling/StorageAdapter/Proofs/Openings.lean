import StorageAdapter.Proofs.Upheld

/-! # Which images are opened

`Recorded` storage writes down every image that a host is asked to open, with the mode. `Opened`
says which ones were opened since: those of some slots, in their order, each at most once, where its
slot takes it from and in the mode for that slot. Mounting the image of one slot adds at most that
one (`ends_mountImage_opened`), and only operations that mount images open any
(`keeps_openings`). -/

namespace StorageAdapter

open StorageAdapter.Action StorageAdapter.Device

/-! ### Recorded storage -/

/-- An image that a host was asked to open, whether or not it could. -/
structure ImageOpening (R : Type) where
  root : R
  path : String
  mode : AccessMode
deriving DecidableEq, Repr

/-- Storage that writes down which images are opened. -/
structure Recorded (W R : Type) where
  inner : W
  openings : List (ImageOpening R) := []

namespace Recorded

variable {W R : Type}

/-- An action on the storage that is recorded. -/
def onInner {α : Type} : Action W α → Action (Recorded W R) α :=
  Action.on Recorded.inner fun inner w => { w with inner }

instance [HostStorage W R] : HostStorage (Recorded W R) R where
  connect name kind := onInner (HostStorage.connect name kind)
  openImage root path mode := do
    modify fun w => { w with openings := w.openings ++ [⟨root, path, mode⟩] }
    onInner (HostStorage.openImage root path mode)
  list root path pattern w := HostStorage.list root path pattern w.inner
  failureKeepsListing := HostStorage.failureKeepsListing W
  position w entriesRead := HostStorage.position w.inner entriesRead
  canSeek w := HostStorage.canSeek w.inner
  release root := onInner (HostStorage.release root)

instance [SettingsStore W] : SettingsStore (Recorded W R) where
  load w := SettingsStore.load w.inner
  save settings := onInner (SettingsStore.save settings)

instance [KeyStorage W] : KeyStorage (Recorded W R) where
  available w := KeyStorage.available w.inner
  createDir path := onInner (KeyStorage.createDir path)
  write path data := onInner (KeyStorage.write path data)
  read path limit w := KeyStorage.read path limit w.inner

theorem openings_onInner {α : Type} (act : Action W α) (w : Recorded W R) :
    ((onInner act).after w).openings = w.openings := by
  unfold onInner
  rw [after_on]

theorem openings_openImage [HostStorage W R] (root : R) (path : String) (mode : AccessMode)
    (w : Recorded W R) : ((HostStorage.openImage root path mode).after w).openings =
      w.openings ++ [⟨root, path, mode⟩] := by
  show ((do
    modify fun w : Recorded W R => { w with openings := w.openings ++ [⟨root, path, mode⟩] }
    onInner (HostStorage.openImage root path mode) : Action _ Nat).after w).openings = _
  rw [after_bind, modify_apply]
  exact openings_onInner _ _

end Recorded

namespace Rack

variable {W R D : Type}

/-! ### Where images come from -/

/-- A slot takes its image from the same place after an image was loaded. -/
theorem source?_loaded [DriveBay D] (r : Rack W R D) (i : Fin 8) (mode : AccessMode) (size : Nat)
    (j : Fin 8) : (r.loaded i mode size).source? j = r.source? j := by
  unfold source?
  show (((r.disks.set i _).get j).hostSlot.bind fun host => (r.hosts.get host).mount.map fun m =>
    (m.root, ((r.disks.set i _).get j).filename)) = _
  rw [Slots.get_set]
  split
  · next hj =>
    subst hj
    rfl
  · rfl

/-! ### What was opened since -/

variable {mode : Fin 8 → AccessMode} {os : List (ImageOpening R)} {slots : List (Fin 8)}
  {r s : Rack (Recorded W R) R D}

/-- **Images of some of the slots were opened since**, in their order and each at most once: each
one where its slot takes it from, and in the mode for that slot. -/
def Opened (mode : Fin 8 → AccessMode) (os : List (ImageOpening R)) (slots : List (Fin 8))
    (r : Rack (Recorded W R) R D) : Prop :=
  ∃ opened : List (Fin 8 × ImageOpening R),
    r.storage.openings = os ++ opened.map Prod.snd ∧ (opened.map Prod.fst).Sublist slots ∧
      ∀ i o, (i, o) ∈ opened → r.source? i = some (o.root, o.path) ∧ o.mode = mode i

theorem opened_nil (h : r.storage.openings = os) : r.Opened mode os [] :=
  ⟨[], h.trans (List.append_nil os).symm, List.nil_sublist [], nofun⟩

section Opened

variable (h : r.Opened mode os slots)
include h

theorem Opened.mono {more : List (Fin 8)} (hs : slots.Sublist more) : r.Opened mode os more := by
  obtain ⟨opened, hos, hslots, hsource⟩ := h
  exact ⟨opened, hos, hslots.trans hs, hsource⟩

theorem Opened.of_same (hos : s.storage.openings = r.storage.openings)
    (hsource : ∀ i x, r.source? i = some x → s.source? i = some x) : s.Opened mode os slots := by
  obtain ⟨opened, hopened, hslots, ho⟩ := h
  refine ⟨opened, hos.trans hopened, hslots, fun i o hmem => ?_⟩
  obtain ⟨hs, hm⟩ := ho i o hmem
  exact ⟨hsource i _ hs, hm⟩

theorem Opened.load [DriveBay D] (i : Fin 8) (m : AccessMode) (size : Nat) :
    (r.loaded i m size).Opened mode os slots :=
  h.of_same rfl fun j _ hs => (source?_loaded r i m size j).trans hs

end Opened

variable [HostStorage W R]

/-- A host that is mounted stays mounted when another one is. -/
theorem source?_connect {r : Rack W R D} {i : Fin 8} {x : R × String} (h : r.source? i = some x)
    (j : Fin 8) : ((connect j).after r).source? i = some x := by
  obtain ⟨w, -, hc | ⟨hm, -, root, hc⟩⟩ := connect_cases j r <;> rw [hc]
  · exact h
  unfold source? at h
  obtain ⟨host, hh, hx⟩ := Option.bind_eq_some_iff.1 h
  obtain ⟨mounted, hmounted, rfl⟩ := Option.map_eq_some_iff.1 hx
  have hne : host ≠ j := by
    rintro rfl
    exact nomatch hm.symm.trans hmounted
  unfold source?
  show ((r.disks.get i).hostSlot.bind fun host => ((r.hosts.set j _).get host).mount.map _) = _
  rw [hh, Option.bind_some, Slots.get_set_of_ne _ hne, hmounted]
  rfl

/-! ### What is written down -/

theorem openings_connect (i : Fin 8) (r : Rack (Recorded W R) R D) :
    ((connect i).after r).storage.openings = r.storage.openings := by
  obtain hc | ⟨-, -, hc⟩ := connect_eq i r <;> rw [hc]
  have hw : ((HostStorage.connect (r.hosts.get i).hostname (r.hosts.get i).kind :
      Action (Recorded W R) R).after r.storage).openings = r.storage.openings :=
    Recorded.openings_onInner _ _
  rcases hconnect : HostStorage.connect (r.hosts.get i).hostname (r.hosts.get i).kind r.storage with
    ⟨root, w⟩ | ⟨e, w⟩
  · rw [after_of_ok hconnect] at hw
    exact hw
  · rw [after_of_error hconnect] at hw
    exact hw

theorem openings_disconnect (i : Fin 8) (r : Rack (Recorded W R) R D) :
    ((disconnect i).after r).storage.openings = r.storage.openings := by
  rcases hm : (r.hosts.get i).mount with _ | m
  · rw [after_disconnect_none hm]
  · rw [after_disconnect_some hm]
    exact Recorded.openings_onInner (HostStorage.release m.root) r.storage

theorem openings_rename (i : Fin 8) (name : String) (r : Rack (Recorded W R) R D) :
    (r.rename i name).storage.openings = r.storage.openings := openings_disconnect i r

theorem openings_fill [DriveBay D] (settings : Settings) (r : Rack (Recorded W R) R D) :
    (r.fill settings).storage.openings = r.storage.openings :=
  keeps_fill (P := fun s : Rack (Recorded W R) R D => s.storage.openings = r.storage.openings)
    (fun i name hs => (openings_rename i name _).trans hs) (fun _ _ hs => hs) settings rfl

section Opened

variable (h : r.Opened mode os slots)
include h

theorem Opened.connect (i : Fin 8) : ((connect i).after r).Opened mode os slots :=
  h.of_same (openings_connect i r) fun _ _ hs => source?_connect hs i

/-- One more image was opened, of a slot behind the others. -/
theorem Opened.openImage {i : Fin 8} {root : R} {path : String}
    (hi : r.source? i = some (root, path)) :
    (r.setStorage ((HostStorage.openImage root path (mode i)).after r.storage)).Opened mode os
      (slots ++ [i]) := by
  obtain ⟨opened, hos, hslots, hsource⟩ := h
  refine ⟨opened ++ [(i, ⟨root, path, mode i⟩)], ?_, ?_, fun j o hmem => ?_⟩
  · have hone := Recorded.openings_openImage root path (mode i) r.storage
    rw [hos, List.append_assoc] at hone
    rw [List.map_append]
    exact hone
  · rw [List.map_append]
    exact hslots.append (List.Sublist.refl [i])
  · rcases List.mem_append.1 hmem with hmem | hmem
    · exact hsource j o hmem
    · obtain ⟨rfl, rfl⟩ := Prod.mk.inj (List.mem_singleton.1 hmem)
      exact ⟨hi, rfl⟩

end Opened

/-- **Mounting the image of a disk slot** opens that one at most, in the mode for the slot. -/
theorem ends_mountImage_opened [DriveBay D] (i : Fin 8) :
    Ends (Opened mode os slots : Rack (Recorded W R) R D → Prop) (mountImage (unit i) (mode i))
      (fun _ => Opened mode os (slots ++ [i])) fun _ => Opened mode os (slots ++ [i]) := by
  have heq : ∀ {j}, diskIndex (unit i) = .ok j → j = i := fun hj =>
    (Except.ok.inj ((slotIndex_unit .device i).symm.trans hj)).symm
  refine (ends_mountImage_of_opening (O := Opened mode os (slots ++ [i]))
    (fun j hr => hr.connect j) (fun j root hj _ hsource hr => ?_)
    fun j size _ _ hr => hr.load j (mode i) size).mono (fun _ hr => hr) (fun _ _ hr => hr)
      fun _ _ hr => hr.elim (fun hr => hr.mono (List.sublist_append_left slots [i])) id
  obtain rfl := heq hj
  exact hr.openImage hsource

end Rack

/-! ### Operations -/

section Operations

variable {W R D : Type} [HostStorage W R] [SettingsStore W] [DriveBay D]

section Opened

variable {d : Device (Recorded W R) R D} {mode : Fin 8 → AccessMode} {os : List (ImageOpening R)}
  {slots : List (Fin 8)}

omit [DriveBay D] [HostStorage W R] in
theorem Rack.Opened.save (h : d.rack.Opened mode os slots) :
    (Device.save.after d).rack.Opened mode os slots := by
  rw [after_save]
  exact h.of_same (Recorded.openings_onInner _ d.rack.storage) fun _ _ hs => hs

/-- Mounting an image opens the one of its slot at most. -/
theorem opened_mountImage (i : Fin 8) (mode : AccessMode) (d : Device (Recorded W R) R D) :
    ((Device.mountImage (Rack.unit i) mode).after d).rack.Opened (fun _ => mode)
      d.rack.storage.openings [i] := by
  have hfill : (d.rack.fill d.settings).Opened (fun _ => mode) d.rack.storage.openings [] :=
    Rack.opened_nil (Rack.openings_fill d.settings d.rack)
  have hmount := Rack.ends_mountImage_opened i (d.rack.fill d.settings) hfill
  rw [after_mountImage (Rack.slotIndex_unit .device i)]
  rcases hm : Rack.mountImage (Rack.unit i) mode (d.rack.fill d.settings) with
    ⟨media, r⟩ | ⟨e, r⟩ <;> rw [hm] at hmount
  · have hr : r.Opened (fun _ => mode) d.rack.storage.openings [i] := hmount
    have hsaved := Rack.Opened.save
      (d := ({ d with bootConfig := false } : Device (Recorded W R) R D).setRack r) hr
    exact hsaved
  · have hr : r.Opened (fun _ => mode) d.rack.storage.openings [i] := hmount
    exact hr

end Opened

/-- What the hosts were asked to open so far stays as it is. -/
theorem hosted_openings (os : List (ImageOpening R)) :
    Hosted (fun d : Device (Recorded W R) R D => d.rack.storage.openings = os)
      fun d => d.rack.storage.openings = os where
  weaken h := h
  connect h i := (Rack.openings_connect i _).trans h
  aside h _ _ := h
  wifi h _ := h
  boot h _ _ := h
  switch h _ _ := h
  save {d} h := by
    rw [after_save]
    exact (Recorded.openings_onInner _ d.rack.storage).trans h
  disconnect {d} h i := by
    have hrelease := Rack.openings_disconnect i (d.rack.leave i)
    rw [(d.rack.sameButListings_leave i).storage] at hrelease
    exact hrelease.trans h
  close {d} h := by
    have hclose := (Rack.SameButListings.refl d.rack).closeDirectory.storage
    rw [rack_setRack, hclose]
    exact h
  follow _ := ⟨fun h _ => h, fun h _ _ _ _ => h, fun h _ => h⟩
  rename {d} h i name := by
    have hrename := Rack.openings_rename i name d.rack
    unfold Device.renameHost Rack.dropCursor
    split <;> exact hrename.trans h

/-- **Only operations that mount images open any.** -/
theorem keeps_openings [KeyStorage W] {o : Operation} (ho : ¬o.opensImages)
    (os : List (ImageOpening R)) :
    Keeps (fun d : Device (Recorded W R) R D => d.rack.storage.openings = os) o.perform := by
  have h := hosted_openings (W := W) (D := D) os
  refine h.toCalm.perform o (fun hother => ?_) (fun himages => absurd himages ho)
    (fun _ _ hd _ => hd) (fun _ d hd => (Rack.openings_fill d.settings d.rack).trans hd)
    (fun _ _ _ hd => hd) fun i _ d hd filename host mode => ?_
  · rcases hother with hhost | hkey
    · refine h.keeps_hosts hhost fun slot path pattern hopen => ?_
      subst hopen
      refine keeps_openDirectory (fun hd hl => ?_) slot path pattern
      rw [rack_setRack, hl.storage]
      exact hd
    · refine keeps_keys hkey (fun hd _ => hd) fun {d} hd data => ?_
      have hwrite := keeps_writeFile (P := fun w : Recorded W R => w.openings = os)
        (fun path => keeps_iff.2 fun w hw => (Recorded.openings_onInner _ w).trans hw)
        (fun path data => keeps_iff.2 fun w hw => (Recorded.openings_onInner _ w).trans hw)
        d.appKey data
      exact keeps_iff.1 hwrite d.rack.storage hd
  · obtain ⟨drives, hr⟩ := Rack.assign_eq i (.assigned filename host mode) d.rack
    rw [hr]
    exact hd

end Operations

end StorageAdapter
