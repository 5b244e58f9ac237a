import StorageAdapter.Proofs.MountImage

/-! # Mounting all images

The images of the slots that name one are mounted in their order (`Rack.InTurn`). The first that
fails ends it: the slots before it are mounted and stay so, those behind it are not looked at
(`mountInTurn_cases`, `Rack.InTurn.swept`). The settings are saved once in any case, and a failure
to save them is only told if nothing failed before (`mountAll_stops_at_first_failure`). -/

namespace StorageAdapter

open StorageAdapter.Action StorageAdapter.Device

namespace Rack

variable {W R D : Type} [HostStorage W R] [DriveBay D]

/-! ### Slots mounted in turn -/

/-- Whether a disk slot names an image. -/
def isNamed (r : Rack W R D) (i : Fin 8) : Bool := (r.disks.get i).namesImage

/-- The disk slots that name an image, in their order. -/
def named (r : Rack W R D) : List (Fin 8) := (List.finRange 8).filter r.isNamed

/-- **Images mounted in turn**: those of some slots, one after another and each in the mode of its
slot, and all of them succeed. -/
inductive InTurn : List (Fin 8) → Rack W R D → Rack W R D → Prop
  | nil (r : Rack W R D) : InTurn [] r r
  | cons {i : Fin 8} {is : List (Fin 8)} {r s t : Rack W R D} {media : MediaType}
    (first : mountImage (unit i) (r.disks.get i).mode r = .ok media s) (rest : InTurn is s t) :
    InTurn (i :: is) r t

/-- Mounting the image of a slot in the mode of the slot. -/
theorem exists_mounts {i : Fin 8} {mode : AccessMode} {r s : Rack W R D} {media : MediaType}
    (h : mountImage (unit i) mode r = .ok media s) :
    ∃ host image, Mounts i host mode image r s := by
  have hm : Mounting (unit i) mode r (.ok media s) := h ▸ mounting (unit i) mode r
  obtain ⟨j, _, size, host, _, hopens, hmounts⟩ := hm.mounts
  obtain rfl : i = j := Except.ok.inj ((slotIndex_unit .device i).symm.trans hopens.inRange)
  exact ⟨host, _, hmounts⟩

section Mounts

variable {i host : Fin 8} {mode : AccessMode} {image : MountedImage} {r s : Rack W R D}

omit [HostStorage W R] in
theorem Mounts.disk_self (h : Mounts i host mode image r s) :
    s.disks.get i = { r.disks.get i with mode, image := some image } := by
  rw [h.disks, Slots.get_set_self]

omit [HostStorage W R] in
theorem Mounts.disk_of_ne (h : Mounts i host mode image r s) {j : Fin 8} (hj : j ≠ i) :
    s.disks.get j = r.disks.get j := by
  rw [h.disks, Slots.get_set_of_ne _ hj]

omit [HostStorage W R] in
theorem Mounts.isNamed (h : Mounts i host mode image r s) (j : Fin 8) :
    s.isNamed j = r.isNamed j := by
  unfold Rack.isNamed
  by_cases hj : j = i
  · subst hj
    rw [h.disk_self]
    rfl
  · rw [h.disk_of_ne hj]

end Mounts

omit [DriveBay D] [HostStorage W R] in
/-- A host that is mounted stays mounted when another one is. -/
theorem MountsAtMost.isMounted {host : Option (Fin 8)} {before after : Slots (HostSlot R)}
    (h : MountsAtMost host before after) {j : Fin 8} (hj : (before.get j).isMounted) :
    (after.get j).isMounted := by
  obtain rfl | ⟨i, root, -, hm, rfl⟩ := h
  · exact hj
  rw [Slots.get_set]
  split
  · rfl
  · exact hj

/-- **Some slots were mounted and no others**: each of them has its image open, the image is in its
unit, and its host is mounted; the other slots and units are as before. -/
structure Swept (done : List (Fin 8)) (r s : Rack W R D) : Prop where
  mounted : ∀ i ∈ done, ∃ image, s.disks.get i = { r.disks.get i with image := some image } ∧
    DriveBay.image? s.drives (unit i) = some ⟨(r.disks.get i).filename, image.size, image.media⟩
  onHost : ∀ i ∈ done, ∃ host, (r.disks.get i).hostSlot = some host ∧ (s.hosts.get host).isMounted
  disks : ∀ i, i ∉ done → s.disks.get i = r.disks.get i
  units : ∀ u, (∀ i ∈ done, u ≠ unit i) → DriveBay.image? s.drives u = DriveBay.image? r.drives u

omit [HostStorage W R] in
/-- A slot is mounted in its mode before those behind it. -/
theorem Swept.cons [LawfulDrives D] {i host : Fin 8} {is : List (Fin 8)} {image : MountedImage}
    {r s t : Rack W R D} (hi : i ∉ is) (hfirst : Mounts i host (r.disks.get i).mode image r s)
    (hkept : ∀ j, (s.hosts.get j).isMounted → (t.hosts.get j).isMounted) (h : Swept is s t) :
    Swept (i :: is) r t where
  mounted j hj := by
    by_cases hji : j = i
    · subst hji
      refine ⟨image, (h.disks j hi).trans hfirst.disk_self, ?_⟩
      rw [h.units (unit j) fun k hk => unit_ne fun hjk => hi (hjk ▸ hk)]
      exact hfirst.unit_self
    · obtain ⟨image, hd, hu⟩ := h.mounted j ((List.mem_cons.1 hj).resolve_left hji)
      rw [hfirst.disk_of_ne hji] at hd hu
      exact ⟨image, hd, hu⟩
  onHost j hj := by
    by_cases hji : j = i
    · subst hji
      exact ⟨host, hfirst.onHost, hkept _ hfirst.isMounted⟩
    · have hhost := h.onHost j ((List.mem_cons.1 hj).resolve_left hji)
      rwa [hfirst.disk_of_ne hji] at hhost
  disks j hj := by
    rw [List.mem_cons, not_or] at hj
    rw [h.disks j hj.2, hfirst.disk_of_ne hj.1]
  units u hu := by
    rw [h.units u fun k hk => hu k (List.mem_cons_of_mem _ hk),
      hfirst.unit_of_ne (hu i List.mem_cons_self)]

theorem InTurn.isMounted {done : List (Fin 8)} {r s : Rack W R D} (h : InTurn done r s)
    (j : Fin 8) : (r.hosts.get j).isMounted → (s.hosts.get j).isMounted := by
  induction h with
  | nil => exact id
  | cons first _ ih =>
    obtain ⟨host, image, hm⟩ := exists_mounts first
    exact fun hj => ih (hm.hosts.isMounted hj)

/-- **Mounting slots in turn** mounts them, each one for itself. -/
theorem InTurn.swept [LawfulDrives D] {done : List (Fin 8)} {r s : Rack W R D}
    (h : InTurn done r s) (hd : done.Nodup) : Swept done r s := by
  induction h with
  | nil r => exact ⟨nofun, nofun, fun _ _ => rfl, fun _ _ => rfl⟩
  | cons first rest ih =>
    rw [List.nodup_cons] at hd
    obtain ⟨host, image, hm⟩ := exists_mounts first
    exact .cons hd.1 hm rest.isMounted (ih hd.2)

omit [HostStorage W R] in
/-- What changes beside disk slots and drives does not matter. -/
theorem Swept.beside {done : List (Fin 8)} {host : Option (Fin 8)} {r s t : Rack W R D}
    (h : Swept done r s) (ht : Beside host s t) : Swept done r t where
  mounted := by
    rw [ht.disks, ht.drives]
    exact h.mounted
  onHost i hi := by
    obtain ⟨host, hh, hm⟩ := h.onHost i hi
    exact ⟨host, hh, ht.hosts.isMounted hm⟩
  disks := by
    rw [ht.disks]
    exact h.disks
  units := by
    rw [ht.drives]
    exact h.units

omit [HostStorage W R] in
theorem Swept.save [SettingsStore W] {done : List (Fin 8)} {r s : Rack W R D} {d : Device W R D}
    (h : Swept done r s) (hd : d.rack = s) : Swept done r (Device.save.after d).rack := by
  rw [after_save, rack_setRack, hd]
  exact h.beside ((Beside.refl none s).setStorage _)

theorem reached_mountImage (slot : UInt8) (mode : AccessMode) (r : Rack W R D) :
    Reached r.storage ((mountImage slot mode).after r).storage := by
  have h : Keeps (fun s : Rack W R D => Reached r.storage s.storage) (mountImage slot mode) :=
    ends_mountImage (fun hr hw => hr.trans hw) (fun _ _ hr _ _ => hr) fun _ _ _ _ hr => hr
  exact keeps_iff.1 h r .nothing

theorem InTurn.reached {done : List (Fin 8)} {r s : Rack W R D} (h : InTurn done r s) :
    Reached r.storage s.storage := by
  induction h with
  | nil => exact .nothing
  | cons first _ ih => exact (after_of_ok first ▸ reached_mountImage _ _ _).trans ih

end Rack

namespace Device

variable {W R D : Type} [HostStorage W R] [DriveBay D]

/-! ### The sweep over the slots -/

/-- The device after the images of some slots were mounted: the configuration disk does not boot any
more if there were any. -/
def mounted (done : List (Fin 8)) (rack : Rack W R D) (d : Device W R D) : Device W R D :=
  { d with rack, bootConfig := if done = [] then d.bootConfig else false }

theorem mountInTurn_cons_ok {i : Fin 8} {rest : List (Fin 8)} {d : Device W R D}
    (hn : (d.rack.disks.get i).namesImage) {media : MediaType} {r : Rack W R D}
    (hm : Rack.mountImage (Rack.unit i) (d.rack.disks.get i).mode d.rack = .ok media r) :
    mountInTurn (i :: rest) d = mountInTurn rest (d.mounted [i] r) := by
  rw [mountInTurn, bind_apply, get_apply]
  simp only
  rw [if_pos hn, bind_apply, onRack_apply hm]
  rfl

theorem mountInTurn_cons_error {i : Fin 8} {rest : List (Fin 8)} {d : Device W R D}
    (hn : (d.rack.disks.get i).namesImage) {e : Error} {r : Rack W R D}
    (hm : Rack.mountImage (Rack.unit i) (d.rack.disks.get i).mode d.rack = .error e r) :
    mountInTurn (i :: rest) d = .error e (d.mounted [] r) := by
  rw [mountInTurn, bind_apply, get_apply]
  simp only
  rw [if_pos hn, bind_apply, onRack_error hm]
  rfl

theorem mountInTurn_cons_skip {i : Fin 8} {rest : List (Fin 8)} {d : Device W R D}
    (hn : ¬(d.rack.disks.get i).namesImage) : mountInTurn (i :: rest) d = mountInTurn rest d := by
  rw [mountInTurn, bind_apply, get_apply]
  simp only
  rw [if_neg hn]

/-- **Mounting in turn**: those of the slots that name an image are mounted up to the first one that
fails. -/
theorem mountInTurn_cases (slots : List (Fin 8)) (d : Device W R D) :
    ∃ done rest r, slots.filter d.rack.isNamed = done ++ rest ∧
      Rack.InTurn done d.rack r ∧
      (rest = [] ∧ mountInTurn slots d = .ok () (d.mounted done r) ∨
        ∃ f later e s, rest = f :: later ∧
          Rack.mountImage (Rack.unit f) (r.disks.get f).mode r = .error e s ∧
          mountInTurn slots d = .error e (d.mounted done s)) := by
  induction slots generalizing d with
  | nil => exact ⟨[], [], d.rack, rfl, .nil _, .inl ⟨rfl, rfl⟩⟩
  | cons i slots ih =>
    by_cases hn : d.rack.isNamed i
    swap
    · obtain ⟨done, rest, r, hfilter, hr, h⟩ := ih d
      rw [mountInTurn_cons_skip hn, List.filter_cons_of_neg hn]
      exact ⟨done, rest, r, hfilter, hr, h⟩
    rw [List.filter_cons_of_pos hn]
    rcases hm : Rack.mountImage (Rack.unit i) (d.rack.disks.get i).mode d.rack with
      ⟨media, s⟩ | ⟨e, s⟩
    · obtain ⟨_, _, hmounts⟩ := Rack.exists_mounts hm
      obtain ⟨done, rest, r, hfilter, hr, h⟩ := ih (d.mounted [i] s)
      rw [mountInTurn_cons_ok hn hm]
      have hboot (t : Rack W R D) : (d.mounted [i] s).mounted done t = d.mounted (i :: done) t := by
        unfold mounted
        simp
      -- mounting a slot does not change which slots name an image
      refine ⟨i :: done, rest, r, ?_, .cons hm hr, ?_⟩
      · rw [List.cons_append, ← hfilter]
        exact congrArg (i :: ·) (List.filter_congr fun j _ => (hmounts.isNamed j).symm)
      · simp only [hboot] at h
        exact h
    · rw [mountInTurn_cons_error hn hm]
      exact ⟨[], _, d.rack, rfl, .nil _, .inr ⟨i, _, e, s, rfl, hm, rfl⟩⟩

variable [SettingsStore W]

theorem mountAll_of_ok {d e : Device W R D} (h : mountInTurn (List.finRange 8) d = .ok () e) :
    mountAll d = save { e with bootConfig := false } := by
  unfold mountAll
  rw [bind_apply, attempt, h]
  rfl

theorem mountAll_of_error {d e : Device W R D} {err : Error}
    (h : mountInTurn (List.finRange 8) d = .error err e) :
    mountAll d = .error err (save.after e) := by
  unfold mountAll
  rw [bind_apply, attempt, h]
  simp only
  rw [bind_apply, attempt]
  unfold after
  rcases save e with ⟨_, e⟩ | ⟨_, e⟩ <;> rfl

omit [HostStorage W R] [DriveBay D] in
theorem bootConfig_save (d : Device W R D) : (save.after d).bootConfig = d.bootConfig := by
  rw [after_save]
  rfl

/-- **Mounting all images stops at the first failure.** The slots that name an image are mounted in
their order up to the first that fails. The configuration disk does not boot any more if there is
none that names an image, or if one was mounted. Then the settings are saved, once, and the result
is that of saving; or it is the error of the slot that failed, whatever comes of saving. At the end
the slots before it are mounted and in their units, and all others are as they were. -/
theorem mountAll_stops_at_first_failure [LawfulDrives D] (d : Device W R D) :
    ∃ done rest r s, d.rack.named = done ++ rest ∧ Rack.InTurn done d.rack r ∧
      let unsaved : Device W R D := { d with
        rack := s
        bootConfig := if d.rack.named = [] ∨ done ≠ [] then false else d.bootConfig }
      (rest = [] ∧ s = r ∧ mountAll d = save unsaved ∨
        ∃ f later e, rest = f :: later ∧
          Rack.mountImage (Rack.unit f) (d.rack.disks.get f).mode r = .error e s ∧
          mountAll d = .error e (save.after unsaved)) ∧
      Reached d.rack.storage s.storage ∧ d.rack.Swept done (mountAll.after d).rack ∧
      (mountAll.after d).bootConfig = unsaved.bootConfig := by
  obtain ⟨done, rest, r, hnamed, hr, h⟩ := mountInTurn_cases (List.finRange 8) d
  change d.rack.named = done ++ rest at hnamed
  have hnodup : (done ++ rest).Nodup := by
    rw [← hnamed]
    exact (List.nodup_finRange 8).filter _
  obtain ⟨hdone, -, hdisjoint⟩ := List.nodup_append.1 hnodup
  have hswept : d.rack.Swept done r := hr.swept hdone
  obtain ⟨rfl, h⟩ | ⟨f, later, e, s, rfl, hf, h⟩ := h
  · refine ⟨done, [], r, r, hnamed, hr, ?_⟩
    intro unsaved
    have hboot : unsaved = { d.mounted done r with bootConfig := false } := by
      have hall : d.rack.named = [] ∨ done ≠ [] := by
        rw [hnamed, List.append_nil]
        exact em _
      simp only [unsaved, if_pos hall]
      rfl
    have hall : mountAll d = save unsaved := hboot ▸ mountAll_of_ok h
    have hafter : mountAll.after d = save.after unsaved := by
      unfold after
      rw [hall]
    rw [hafter]
    exact ⟨.inl ⟨rfl, rfl, hall⟩, hr.reached, hswept.save rfl, bootConfig_save _⟩
  · refine ⟨done, f :: later, r, s, hnamed, hr, ?_⟩
    intro unsaved
    have hboot : unsaved = d.mounted done s := by
      have hne : d.rack.named ≠ [] := by
        rw [hnamed]
        exact List.append_ne_nil_of_right_ne_nil _ (List.cons_ne_nil _ _)
      simp only [unsaved, mounted, hne, false_or, ite_not]
    have hall : mountAll d = .error e (save.after unsaved) := hboot ▸ mountAll_of_error h
    have hmode : (r.disks.get f).mode = (d.rack.disks.get f).mode := by
      rw [hswept.disks f fun hfd => hdisjoint f hfd f List.mem_cons_self rfl]
    rw [hmode] at hf
    rw [after_of_error hall]
    have hbeside := (hf ▸ Rack.mounting _ _ r : Rack.Mounting _ _ r (.error e s)).beside
    refine ⟨.inr ⟨f, later, e, rfl, hf, hall⟩, ?_, (hswept.beside hbeside).save rfl,
      bootConfig_save _⟩
    exact hr.reached.trans (after_of_error hf ▸ Rack.reached_mountImage _ _ _)

/-- Three slots name an image, the file of the second is missing, and settings cannot be saved: the
first one is mounted and the file is what is told. -/
theorem mountAll_stops_at_missing_file :
    let d : Memory.Adapter :=
      (Memory.Surroundings.start
        { storage := { hosts := ({} : Memory.Hosts).withFile "h" "/a.d64" 174848 0 } }).run
        [.call (.nameHost 0 "h"), .call (.setFilename 1 0 .read "/a.d64"),
          .call (.setFilename 3 0 .read "/gone.d64"), .call (.setFilename 5 0 .readWrite "/a.d64"),
          .outside (fun s => { s with faults := { save := true } }) id id]
    mountAll.outcome d = .error .notOpened ∧ d.rack.Swept [1] (mountAll.after d).rack ∧
      (mountAll.after d).bootConfig = false := by
  intro d
  obtain ⟨done, rest, r, s, hnamed, -, -, -, hswept, -⟩ := mountAll_stops_at_first_failure d
  have hdone : done <+: [1, 3, 5] := ⟨rest, hnamed.symm.trans (by decide +kernel)⟩
  have hfirst : 1 ∈ done := by
    by_contra h
    have h := congrArg DiskSlot.isMounted (hswept.disks 1 h)
    revert h
    decide +kernel
  have hsecond : 3 ∉ done := by
    intro h
    obtain ⟨image, h, -⟩ := hswept.mounted 3 h
    have h : ((mountAll.after d).rack.disks.get 3).isMounted := by rw [h]; rfl
    revert h
    decide +kernel
  obtain rfl : done = [1] := by
    rcases done with _ | ⟨a, _ | ⟨b, later⟩⟩
    · cases hfirst
    · rw [(List.cons_prefix_cons.1 hdone).1]
    · obtain rfl := (List.cons_prefix_cons.1 (List.cons_prefix_cons.1 hdone).2).1
      exact absurd (List.mem_cons_of_mem _ List.mem_cons_self) hsecond
  exact ⟨by decide +kernel, hswept, by decide +kernel⟩

end Device

end StorageAdapter
