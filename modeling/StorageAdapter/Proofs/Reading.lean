import StorageAdapter.Proofs.Cursor
import StorageAdapter.Proofs.Filename
import StorageAdapter.Proofs.KeyMap

/-! # Reading a listing

A listing that is open keeps its entries and its place whatever else the device does, as long as it
is not opened anew or closed and its host stays mounted (`Device.KeepsListing`). Reading an entry
moves on by one and stops at the end, and seeking moves to another place (`Reads.move`). So along
every run the place is told by the reads and seeks alone (`Reads.run`). -/

namespace StorageAdapter

open StorageAdapter.Action StorageAdapter.Device

variable {W R D : Type}

/-! ### The host under the cursor -/

/-- The cursor is on a mounted host; where it is, and what the host is, is written down. -/
structure Device.Watches (i : Fin 8) (c : Cursor) (h : HostSlot R) (d : Device W R D) : Prop where
  cursor : d.rack.cursor = c
  host : d.rack.hosts.get i = h
  openOn : c.openOn = some i
  mounted : h.mount ≠ none

/-- The host is not mounted any more, or all is as it was. -/
def Device.WatchesUnlessGone (i : Fin 8) (c : Cursor) (h : HostSlot R) (d : Device W R D) : Prop :=
  (d.rack.hosts.get i).mount = none ∨ d.Watches i c h

/-- Whether the operation works on the listing under the cursor or replaces it. -/
def Operation.handlesListing : Operation → Bool
  | openDirectory slot _ _ => slot.toNat < 8
  | readDirectory _ _ | seekDirectory _ | closeDirectory => true
  | _ => false

section Watches

variable {i : Fin 8} {c : Cursor} {h : HostSlot R} {d : Device W R D}

theorem Device.Watches.of_same (hd : d.Watches i c h) {e : Device W R D}
    (hcursor : e.rack.cursor = d.rack.cursor)
    (hhost : e.rack.hosts.get i = d.rack.hosts.get i) : e.Watches i c h :=
  ⟨hcursor.trans hd.cursor, hhost.trans hd.host, hd.openOn, hd.mounted⟩

theorem Device.Watches.setOther (hd : d.Watches i c h) {j : Fin 8} (hj : i ≠ j)
    (host : HostSlot R) : (d.setRack (d.rack.setHost j host)).Watches i c h :=
  hd.of_same rfl (Slots.get_set_of_ne _ hj host)

theorem Device.Watches.not_adrift {r : Rack W R D} (hd : (d.setRack r).Watches i c h) :
    ¬r.Adrift := fun ha =>
  hd.mounted (hd.host ▸ ha i ((congrArg Cursor.openOn hd.cursor).trans hd.openOn))

theorem ignoresNotes_watches :
    IgnoresNotes (Device.Watches i c h : Device W R D → Prop) :=
  fun hd _ _ _ => hd.of_same rfl rfl

theorem ignoresNotes_unlessGone :
    IgnoresNotes (Device.WatchesUnlessGone i c h : Device W R D → Prop) :=
  fun hd _ _ _ => hd.imp id fun hd => hd.of_same rfl rfl

variable [HostStorage W R] [SettingsStore W] [KeyStorage W] [DriveBay D]

omit [SettingsStore W] [KeyStorage W] [DriveBay D] in
theorem Device.Watches.connect (hd : d.Watches i c h) (j : Fin 8) :
    (d.setRack ((Rack.connect j).after d.rack)).Watches i c h := by
  obtain ⟨w, -, hc | ⟨hm, -, root, hc⟩⟩ := Rack.connect_cases j d.rack <;> rw [hc]
  · exact hd.of_same rfl rfl
  · have hij : i ≠ j := by
      rintro rfl
      exact hd.mounted (hd.host ▸ hm)
    exact Device.Watches.setOther (d := d.setRack (d.rack.setStorage w)) (hd.of_same rfl rfl) hij _

omit [KeyStorage W] in
theorem steady_watches :
    Steady (Device.Watches i c h : Device W R D → Prop) (Device.Watches i c h) where
  weaken hd := hd
  connect hd j := hd.connect j
  openImage hd _ _ _ := hd.of_same rfl rfl
  during := ⟨fun hd j => hd.connect j, fun hd _ _ _ => hd.of_same rfl rfl⟩
  aside hd _ _ := hd.of_same rfl rfl
  load hd _ _ _ := hd.of_same rfl rfl
  wifi hd _ := hd.of_same rfl rfl
  boot hd _ _ := hd.of_same rfl rfl
  switch hd _ _ := hd.of_same rfl rfl
  save {d} hd := by
    rw [after_save]
    exact hd.of_same rfl rfl

omit [SettingsStore W] [KeyStorage W] in
/-- Filling the slots leaves the host alone unless it unmounts it. -/
theorem Device.Watches.fill (hd : d.Watches i c h)
    (hm : ((d.rack.fill d.settings).hosts.get i).mount ≠ none) :
    (d.setRack (d.rack.fill d.settings)).Watches i c h := by
  refine hd.of_same (Rack.fill_reached d.settings d.rack).2 ?_
  rw [rack_setRack]
  rw [Rack.hosts_fill] at hm ⊢
  unfold HostSlot.filled at hm ⊢
  split
  · rfl
  · next hn =>
    rw [if_neg hn] at hm
    exact absurd rfl hm

omit [KeyStorage W] [SettingsStore W] [DriveBay D] in
/-- Unmounting a host leaves the others alone. -/
theorem Device.Watches.unmount (hd : d.Watches i c h) (j : Fin 8) :
    (d.setRack ((Rack.disconnect j).after (d.rack.leave j))).WatchesUnlessGone i c h := by
  obtain ⟨w, -, hc⟩ := Rack.after_disconnect j (d.rack.leave j)
  by_cases hij : i = j
  · subst hij
    refine .inl ?_
    rw [rack_setRack, hc]
    show (((d.rack.leave i).hosts.set i _).get i).mount = none
    rw [Slots.get_set_self]
  · have hleave : d.rack.leave j = d.rack := by
      refine if_neg ?_
      rw [hd.cursor, hd.openOn]
      exact fun hj => hij (Option.some.inj hj)
    rw [hleave] at hc
    rw [hleave, hc]
    exact .inr (Device.Watches.setOther (d := d.setRack (d.rack.setStorage w))
      (hd.of_same rfl rfl) hij _)

omit [KeyStorage W] [SettingsStore W] [DriveBay D] in
/-- Giving a host another name unmounts it, and leaves the others alone. -/
theorem Device.WatchesUnlessGone.rename (hd : d.WatchesUnlessGone i c h) (j : Fin 8)
    (name : String) : (d.setRack (renameHost j name d.rack)).WatchesUnlessGone i c h := by
  obtain ⟨w, -, hr⟩ := Rack.rename_eq j name d.rack
  have hhosts : (renameHost j name d.rack).hosts = d.rack.hosts.set j (.named name) := by
    unfold renameHost Rack.dropCursor
    rw [hr]
    split <;> rfl
  by_cases hij : i = j
  · subst hij
    refine .inl ?_
    rw [rack_setRack, hhosts, Slots.get_set_self, HostSlot.mount_named]
  have hget : (renameHost j name d.rack).hosts.get i = d.rack.hosts.get i := by
    rw [hhosts, Slots.get_set_of_ne _ hij]
  refine hd.imp (fun hm => ?_) fun hd => hd.of_same ?_ hget
  · rw [rack_setRack, hget, hm]
  · -- the cursor is on another host
    have hcursor : d.rack.cursor.openOn ≠ some j := by
      rw [hd.cursor, hd.openOn]
      exact fun hj => hij (Option.some.inj hj)
    unfold renameHost Rack.dropCursor
    rw [rack_setRack, hr]
    split
    · next hj => exact absurd hj hcursor
    · rfl

omit [KeyStorage W] [HostStorage W R] [DriveBay D] in
theorem Device.WatchesUnlessGone.save (hd : d.WatchesUnlessGone i c h) :
    (Device.save.after d).WatchesUnlessGone i c h := by
  rw [after_save]
  exact hd.imp id fun hd => hd.of_same rfl rfl

omit [KeyStorage W] [HostStorage W R] [DriveBay D] in
theorem ends_renamed {f : Device W R D → Device W R D}
    (hf : ∀ {d}, d.Watches i c h → (f d).WatchesUnlessGone i c h) :
    Ends (Device.Watches i c h) (modify f >>= fun _ => Device.save)
      (fun _ => Device.WatchesUnlessGone i c h) fun _ => Device.WatchesUnlessGone i c h :=
  Ends.bind (ends_modify fun _ => hf) fun _ => ends_after.2 fun _ hd => hd.save

/-- **An operation that does not handle the listing** leaves it as it is, unless it unmounts its
host. -/
theorem ends_watches {o : Operation} (ho : ¬o.handlesListing) (hfill : ¬o.refills) :
    Ends (Device.Watches i c h : Device W R D → Prop) o.perform
      (fun _ => Device.WatchesUnlessGone i c h) fun _ => Device.WatchesUnlessGone i c h := by
  have hkept : Keeps (Device.Watches i c h : Device W R D → Prop) o.perform →
      Ends (Device.Watches i c h) o.perform (fun _ => Device.WatchesUnlessGone i c h)
        fun _ => Device.WatchesUnlessGone i c h := fun hk =>
    hk.mono (fun _ hd => hd) (fun _ _ => .inr) fun _ _ => .inr
  by_cases hother : o.handlesHosts ∨ o.handlesKeys
  · cases o with
    | unmountHost slot => exact ends_unmountHost .inr fun j _ hd => hd.unmount j
    | nameHost slot name =>
      refine Ends.bind (Q := fun _ => Device.Watches i c h)
        (ends_lift (fun _ _ _ hd => hd) fun _ _ _ => .inr) fun j => ends_renamed fun hd => ?_
      exact Device.WatchesUnlessGone.rename (.inr hd) j name
    | replaceHostnames payload =>
      refine Ends.bind (Q := fun _ => Device.Watches i c h)
        (ends_lift (fun _ _ _ hd => hd) fun _ _ _ => .inr) fun names =>
          ends_renamed fun {d} hd => ?_
      refine List.foldlRecOn ((List.finRange 8).zip names) renameIfChanged
        (motive := fun r => (d.setRack r).WatchesUnlessGone i c h) (.inr hd) fun r hr entry _ => ?_
      unfold renameIfChanged
      split
      · exact hr
      · exact hr.rename entry.1 entry.2
    | openDirectory slot path pattern =>
      have hslot : 8 ≤ slot.toNat := Nat.not_lt.1 fun hs => ho (decide_eq_true hs)
      refine hkept (ends_onRack fun d => ?_)
      unfold Rack.openDirectory Rack.hostIndex
      rw [Rack.slotIndex_of_le .host hslot]
      exact fun r hr => hr
    | directoryPosition =>
      exact hkept (Keeps.bind_pure (ends_onRack fun d =>
        Rack.keeps_directoryPosition fun hd ha => absurd ha hd.not_adrift))
    | readDirectory limit options => exact absurd rfl ho
    | seekDirectory position => exact absurd rfl ho
    | closeDirectory => exact absurd rfl ho
    | openKey key => exact hkept (keeps_iff.2 fun d hd => hd.of_same rfl rfl)
    | writeKey data =>
      refine hkept (keeps_iff.2 fun d hd => ?_)
      unfold Operation.perform
      rw [after_writeKey]
      exact hd.of_same rfl rfl
    | closeKey => exact hkept (keeps_iff.2 fun d hd => hd.of_same rfl rfl)
    | _ => rcases hother with ho | ho <;> cases ho
  · refine hkept (steady_watches.perform o (fun ho => absurd ho hother)
      (fun _ d hd _ => hd.of_same rfl rfl)
      (fun hr => absurd hr hfill) (fun j _ d hd => hd.of_same rfl rfl)
      fun j _ d hd filename host mode => ?_)
    obtain ⟨drives, hr⟩ := Rack.assign_eq j (.assigned filename host mode) d.rack
    rw [hr]
    exact hd.of_same rfl rfl

/-! ### Moves that leave a listing open -/

/-- Whether the request opens a listing or closes the one that is open. An opening with a bad slot
number does neither. -/
def Request.endsListing : Request → Bool
  | .ok (some (.openDirectory slot _ _)) => slot.toNat < 8
  | .ok (some .closeDirectory) => true
  | _ => false

/-- Whether the request reads an entry. -/
def Request.reads : Request → Bool
  | .ok (some (.readDirectory _ _)) => true
  | _ => false

/-- Whether the request moves the listing to a position. -/
def Request.seeks : Request → Bool
  | .ok (some (.seekDirectory _)) => true
  | _ => false

/-- The host is not mounted after the move, or was unmounted on the way when the move filled the
slots from the settings. -/
def Move.unmounts (m : Move W D) (i : Fin 8) (d : Device W R D) : Prop :=
  ((d.move m).rack.hosts.get i).mount = none ∨
    (m.request d).refills ∧ ((d.rack.fill d.settings).hosts.get i).mount = none

instance (m : Move W D) (i : Fin 8) (d : Device W R D) : Decidable (m.unmounts i d) :=
  inferInstanceAs (Decidable (_ ∨ _ ∧ _))

/-- The move leaves the listing open that is open on the host: it does not open or close one, does
not reset the bus and does not unmount the host. -/
structure Move.KeepsListing (m : Move W D) (i : Fin 8) (d : Device W R D) : Prop where
  notEnded : ¬(m.request d).endsListing
  notReset : m ≠ .resetBus
  notUnmounted : ¬m.unmounts i d

/-- The moves leave the listing open that is open on the host. -/
def Device.KeepsListing (i : Fin 8) (d : Device W R D) : List (Move W D) → Prop
  | [] => True
  | m :: moves => m.KeepsListing i d ∧ (d.move m).KeepsListing i moves

/-- **A move that neither handles the listing nor unmounts its host** leaves both as they are. -/
theorem Device.Watches.move (hd : d.Watches i c h) {m : Move W D} (hm : m.KeepsListing i d)
    (hreads : ¬(m.request d).reads) (hseeks : ¬(m.request d).seeks) :
    (d.move m).Watches i c h := by
  have hgone : ¬((d.move m).rack.hosts.get i).mount = none := fun hn =>
    hm.notUnmounted (.inl hn)
  have hlisting : ∀ o, m.request d = .ok (some o) → ¬o.handlesListing := by
    intro o hr
    have hends := hm.notEnded
    rw [hr] at hends hreads hseeks
    cases o <;> first | exact hends | exact hreads | exact hseeks
  by_cases hfill : (m.request d).refills
  · rcases hr : m.request d with e | _ | o <;> rw [hr] at hfill
    · cases hfill
    · cases hfill
    · have hkept : ((d.rack.fill d.settings).hosts.get i).mount ≠ none := fun hn =>
        hm.notUnmounted (.inr ⟨by rw [hr]; exact hfill, hn⟩)
      refine ends_move (P := fun e => e.Watches i c h ∧
          ((e.rack.fill e.settings).hosts.get i).mount ≠ none) (fun he _ _ _ => ?_)
        ignoresNotes_watches hr ?_ ⟨hd, hkept⟩
      · exact ⟨he.1.of_same rfl rfl, he.2⟩
      · exact steady_watches.refilling (fun he => he.1.fill he.2) hfill
  · have hleft : (d.move m).WatchesUnlessGone i c h := by
      refine move_leads ignoresNotes_watches ignoresNotes_unlessGone (fun hd => .inr hd) m
        (fun o hr => ?_) (fun hreset _ => absurd hreset hm.notReset) (fun f g k hout he => ?_) hd
      · rw [hr] at hfill
        exact ends_watches (hlisting o hr) hfill
      · subst hout
        exact .inr (he.of_same rfl rfl)
    exact hleft.resolve_left hgone

end Watches

/-! ### Entries and places -/

/-- Behind the end there is no more than at the end. -/
theorem getElem?_min_length {α : Type} (l : List α) (n : Nat) :
    l[min n l.length]? = l[n]? := by
  rcases Nat.le_total n l.length with h | h
  · rw [Nat.min_eq_left h]
  · rw [Nat.min_eq_right h, List.getElem?_eq_none (Nat.le_refl _), List.getElem?_eq_none h]

namespace Rack

variable {i : Fin 8} {entries : List DirectoryEntry} {k : Nat} {r : Rack W R D}

/-- The cursor is on a listing with these entries, of which `k` lie behind it. -/
structure Reads (i : Fin 8) (entries : List DirectoryEntry) (k : Nat) (r : Rack W R D) : Prop where
  openOn : r.cursor.openOn = some i
  listing : ∃ m, (r.hosts.get i).mount = some m ∧ m.listing = some ⟨entries, k⟩
  bound : k ≤ entries.length
  exhausted : r.cursor.exhausted → k = entries.length

theorem reads_openedOn (i : Fin 8) (m : Mounted R) (entries : List DirectoryEntry)
    (r : Rack W R D) : (Rack.openedOn i m entries r).Reads i entries 0 where
  openOn := rfl
  listing := ⟨_, mount_openedOn i m entries r, rfl⟩
  bound := Nat.zero_le _
  exhausted := nofun

/-- The listing may be moved to any place in it, and its end may be marked there. -/
theorem Reads.moved (h : r.Reads i entries k) {m : Mounted R} {n : Nat}
    (hn : n ≤ entries.length) :
    ((setMounted i { m with listing := some ⟨entries, n⟩ } r).setCursor
      { r.cursor with exhausted := false }).Reads i entries n where
  openOn := h.openOn
  listing := by
    refine ⟨{ m with listing := some ⟨entries, n⟩ }, ?_, rfl⟩
    show ((r.hosts.set i _).get i).mount = _
    rw [Slots.get_set_self]
  bound := hn
  exhausted := nofun

theorem Reads.reading {m : Mounted R} (ho : r.cursor.openOn = some i)
    (hm : (r.hosts.get i).mount = some m) : Rack.reading r = .ok (i, m) r := by
  unfold Rack.reading
  simp only [bind_apply, get_apply, ho, hm]
  rfl

/-- **Reading** yields the entry at the place, and moves on by one; at the end it yields the end
mark. -/
theorem Reads.readDirectory (h : r.Reads i entries k) (limit options : UInt8) :
    ∃ s, Rack.readDirectory limit options r = .ok ((entries[k]?.map
        (·.format limit options)).getD DirectoryEntry.endMark) s ∧
      s.Reads i entries (min (k + 1) entries.length) ∧ s.storage = r.storage := by
  obtain ⟨m, hm, hl⟩ := h.listing
  unfold Rack.readDirectory
  simp only [bind_apply, Reads.reading h.openOn hm, get_apply]
  by_cases hx : r.cursor.exhausted
  · have hk := h.exhausted hx
    rw [if_pos hx, List.getElem?_eq_none (Nat.le_of_eq hk.symm)]
    refine ⟨r, rfl, ?_, rfl⟩
    rw [Nat.min_eq_right (by omega), ← hk]
    exact h
  rw [if_neg hx]
  unfold Mounted.next Listing.next
  rw [hl]
  rcases he : entries[k]? with _ | entry
  · have hk : k = entries.length := Nat.le_antisymm h.bound (List.getElem?_eq_none_iff.1 he)
    refine ⟨r.setCursor { r.cursor with exhausted := true }, by simp only [he]; rfl, ?_, rfl⟩
    rw [Nat.min_eq_right (by omega)]
    exact ⟨h.openOn, ⟨m, hm, by rw [hl, hk]⟩, Nat.le_refl _, fun _ => rfl⟩
  · have hk : k < entries.length := (List.getElem?_eq_some_iff.1 he).1
    have hmoved := h.moved (m := m) (n := k + 1) hk
    refine ⟨setMounted i { m with listing := some ⟨entries, k + 1⟩ } r, by simp only [he]; rfl, ?_,
      rfl⟩
    rw [Nat.min_eq_left hk]
    exact ⟨h.openOn, hmoved.listing, hmoved.bound, fun hex => absurd hex hx⟩

variable [HostStorage W R]

/-- The position is the one that the host tells for the place. -/
theorem Reads.directoryPosition (h : r.Reads i entries k) :
    (Rack.directoryPosition : Action (Rack W R D) UInt16) r =
      .ok (HostStorage.position r.storage k) r := by
  obtain ⟨m, hm, hl⟩ := h.listing
  unfold Rack.directoryPosition
  simp only [bind_apply, Reads.reading h.openOn hm, get_apply, pure_apply]
  unfold Mounted.tell
  rw [hl]

/-- **Seeking** moves the listing to a place in it, and fails without a trace if there is no such
place or the host cannot do it. -/
theorem Reads.seekDirectory (h : r.Reads i entries k) (position : UInt16) :
    if HostStorage.canSeek r.storage ∧ position.toNat ≤ entries.length then
      ∃ s, (Rack.seekDirectory position : Action (Rack W R D) Unit) r = .ok () s ∧
        s.Reads i entries position.toNat
    else (Rack.seekDirectory position : Action (Rack W R D) Unit) r = .error .seekFailed r := by
  obtain ⟨m, hm, hl⟩ := h.listing
  unfold Rack.seekDirectory
  simp only [bind_apply, Reads.reading h.openOn hm, get_apply]
  unfold Mounted.seek? Listing.seek?
  by_cases hs : HostStorage.canSeek r.storage
  · by_cases hp : position.toNat ≤ entries.length
    · rw [if_pos ⟨hs, hp⟩, if_pos hs, hl, Option.bind_some, if_pos hp]
      exact ⟨_, rfl, h.moved hp⟩
    · rw [if_neg fun hn => hp hn.2, if_pos hs, hl, Option.bind_some, if_neg hp]
      rfl
  · rw [if_neg fun hn => hs hn.1, if_neg hs]
    rfl

end Rack

/-! ### Runs -/

/-- Where a listing of `count` entries is after the request, if it was at `k` before. -/
def Request.place (seekable : Bool) (count k : Nat) : Request → Nat
  | .ok (some (.readDirectory _ _)) => min (k + 1) count
  | .ok (some (.seekDirectory p)) => if seekable ∧ p.toNat ≤ count then p.toNat else k
  | _ => k

theorem Request.place_eq_self {r : Request} (hreads : ¬r.reads) (hseeks : ¬r.seeks)
    (seekable : Bool) (count k : Nat) : r.place seekable count k = k := by
  unfold place
  split
  · exact absurd rfl hreads
  · exact absurd rfl hseeks
  · rfl

variable [HostStorage W R] [SettingsStore W] [KeyStorage W] [DriveBay D]

/-- Where a listing of `count` entries is after a run, if it was at `k` before. -/
def Device.place (count : Nat) (d : Device W R D) (k : Nat) : List (Move W D) → Nat
  | [] => k
  | m :: moves => (d.move m).place count
      ((m.request d).place (HostStorage.canSeek d.rack.storage) count k) moves

/-- **Without seeks, the place is told by the number of reads**, up to the end of the listing. -/
theorem place_of_reads {count : Nat} {moves : List (Move W D)} {d : Device W R D} {k : Nat}
    (hk : k ≤ count) (hseeks : ∀ r ∈ d.requests moves, ¬r.seeks) :
    d.place count k moves = min (k + (d.requests moves).countP Request.reads) count := by
  induction moves generalizing d k with
  | nil => exact (Nat.min_eq_left hk).symm
  | cons m moves ih =>
    have hm : ¬(m.request d).seeks := hseeks _ List.mem_cons_self
    have hrest : ∀ r ∈ (d.move m).requests moves, ¬r.seeks := fun r hr =>
      hseeks r (List.mem_cons_of_mem _ hr)
    show (d.move m).place count _ moves = min (k + (m.request d :: _).countP Request.reads) count
    rw [List.countP_cons]
    by_cases hr : (m.request d).reads
    · have hplace : (m.request d).place (HostStorage.canSeek d.rack.storage) count k =
          min (k + 1) count := by
        unfold Request.reads at hr
        split at hr
        · next h => rw [h]; rfl
        · cases hr
      rw [hplace, ih (Nat.min_le_right _ _) hrest, if_pos hr]
      omega
    · rw [Request.place_eq_self hr hm, ih hk hrest, if_neg hr, Nat.add_zero]

section Reads

variable {i : Fin 8} {entries : List DirectoryEntry} {k : Nat} {d : Device W R D}

/-- What a move leaves of the rack, the operation leaves that it asks for. -/
theorem Device.rack_move {m : Move W D} {o : Operation} (hm : m.request d = .ok (some o)) :
    (d.move m).rack = (o.perform.after d).rack := by
  obtain ⟨p, q, s, h⟩ := move_served hm nofun
  rw [h]
  rfl

theorem rack_move_read {m : Move W D} {limit options : UInt8}
    (hm : m.request d = .ok (some (.readDirectory limit options))) :
    (d.move m).rack = (Rack.readDirectory limit options).after d.rack := by
  rw [Device.rack_move hm]
  unfold Operation.perform
  rw [after_bind_pure]
  unfold onRack
  rw [after_on]

theorem rack_move_seek {m : Move W D} {position : UInt16}
    (hm : m.request d = .ok (some (.seekDirectory position))) :
    (d.move m).rack = (Rack.seekDirectory position).after d.rack := by
  rw [Device.rack_move hm]
  unfold Operation.perform onRack
  rw [after_on]

/-- A move that seeks takes the listing to the position if the host can do it and there is such a
place. -/
theorem Rack.Reads.sought (h : d.rack.Reads i entries k) {m : Move W D} {position : UInt16}
    (hm : m.request d = .ok (some (.seekDirectory position)))
    (hs : HostStorage.canSeek d.rack.storage) (hp : position.toNat ≤ entries.length) :
    (d.move m).rack.Reads i entries position.toNat := by
  have hseek := h.seekDirectory position
  rw [if_pos ⟨hs, hp⟩] at hseek
  obtain ⟨s, hs, hmoved⟩ := hseek
  rw [rack_move_seek hm, after_of_ok hs]
  exact hmoved

/-- **One move** takes a listing that it leaves open to the place that the request tells. -/
theorem Rack.Reads.move (h : d.rack.Reads i entries k) {m : Move W D}
    (hm : m.KeepsListing i d) : (d.move m).rack.Reads i entries
      ((m.request d).place (HostStorage.canSeek d.rack.storage) entries.length k) := by
  by_cases hreads : (m.request d).reads
  · unfold Request.reads at hreads
    split at hreads
    · next limit options hr =>
      obtain ⟨s, hs, hplace, -⟩ := h.readDirectory limit options
      rw [rack_move_read hr, after_of_ok hs, hr]
      exact hplace
    · cases hreads
  by_cases hseeks : (m.request d).seeks
  · unfold Request.seeks at hseeks
    split at hseeks
    · next position hr =>
      have hplace : (m.request d).place (HostStorage.canSeek d.rack.storage) entries.length k =
          if HostStorage.canSeek d.rack.storage ∧ position.toNat ≤ entries.length then
            position.toNat else k := by
        rw [hr]
        rfl
      rw [hplace]
      split
      · next hp => exact h.sought hr hp.1 hp.2
      · next hp =>
        have hs := h.seekDirectory position
        rw [if_neg hp] at hs
        rw [rack_move_seek hr, after_of_error hs]
        exact h
    · cases hseeks
  · obtain ⟨mounted, hmount, hl⟩ := h.listing
    have hw : d.Watches i d.rack.cursor (d.rack.hosts.get i) :=
      ⟨rfl, rfl, h.openOn, by rw [hmount]; exact Option.some_ne_none mounted⟩
    have hmoved := hw.move hm hreads hseeks
    rw [Request.place_eq_self hreads hseeks]
    exact ⟨hmoved.cursor ▸ h.openOn, ⟨mounted, hmoved.host ▸ hmount, hl⟩, h.bound,
      fun hx => h.exhausted (hmoved.cursor ▸ hx)⟩

/-- **A run** takes a listing that it leaves open to the place that its requests tell. -/
theorem Rack.Reads.run (h : d.rack.Reads i entries k) {moves : List (Move W D)}
    (hm : d.KeepsListing i moves) :
    (d.run moves).rack.Reads i entries (d.place entries.length k moves) := by
  induction moves generalizing d k with
  | nil => exact h
  | cons m moves ih => exact ih (h.move hm.1) hm.2

/-- A listing that was opened is at its first entry. -/
theorem Rack.reads_of_opening {m : Move W D} {o : Opening} (h : m.opening? d = some o) :
    (d.move m).rack.Reads o.slot o.entries 0 := by
  unfold Move.opening? at h
  split at h
  · next slot path pattern hr =>
    rw [(Device.move_opening hr).1]
    unfold after
    obtain ⟨e, -, ho⟩ | ⟨e, ho⟩ | ⟨e, i, m, -, ho⟩ | ⟨i, m, entries, -, -, -, ho⟩ :=
      openDirectory_cases slot path pattern d.rack <;> rw [ho] at h ⊢
    · cases h
    · cases h
    · cases h
    · simp only [opening?_openedOn, Option.some.injEq] at h
      subst h
      exact reads_openedOn i m entries _
  · cases h

end Reads

end StorageAdapter
