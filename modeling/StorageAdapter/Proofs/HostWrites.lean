import StorageAdapter.Proofs.SlotBlocks

/-! # Writing the block of host slots

A client replaces all hostnames at once, which is meant to leave the hosts alone whose names stay as
they are. A name is cut to fit when it is stored, but it is compared before it is cut. Since bytes
that are no text become three bytes each, a field may hold a name that is cut. A host that has this
name already is then unmounted all the same, and the cursor on it is dropped
(`hosts_left_alone_iff`). -/

namespace StorageAdapter

open StorageAdapter.Action StorageAdapter.Device

variable {W R D : Type}

/-! ### One slot -/

/-- The name of a slot in a block of hostnames. -/
def HostBlock.name (payload : Bytes) (i : Fin 8) : String :=
  Text.ofField ((payload.drop (32 * i)).take 31)

theorem HostBlock.decode_of_length {payload : Bytes} (h : payload.length = 256) :
    decode payload = .ok ((List.finRange 8).map (name payload)) := by
  have hnames : (Bytes.pieces nameWidth 8 payload).map
      (fun field => Text.ofField (field.take (nameWidth - 1))) =
        (List.finRange 8).map (name payload) := by
    rw [Bytes.pieces_eq, List.map_map]
    refine List.map_congr_left fun i _ => ?_
    show Text.ofField (((payload.drop (32 * i)).take 32).take 31) = _
    rw [List.take_take]
    rfl
  rw [← hnames]
  exact if_pos h

namespace HostSlot

/-- The host slot when it was given a name: it keeps its host only if it has the name. -/
def renamed (name : String) (h : HostSlot R) : HostSlot R :=
  if h.hostname = name then h else named name

/-- The storage when it has let go of the host, if that was mounted. -/
def released [HostStorage W R] (h : HostSlot R) (w : W) : W :=
  match h.mount with
  | some m => (HostStorage.release m.root).after w
  | none => w

/-- The storage when the host slot was given a name: it lets go of a host that has another one. -/
def letGo [HostStorage W R] (name : String) (h : HostSlot R) (w : W) : W :=
  if h.hostname = name then w else h.released w

variable {h : HostSlot R} {name : String}

theorem hostname_renamed (hs : Text.size h.hostname ≤ nameLimit) (name : String) :
    (h.renamed name).hostname = Text.clip nameLimit name := by
  unfold renamed
  split
  · next hn => rw [← hn, Text.clip_of_size_le hs]
  · rfl

/-- **A name that is the one of the slot once it is cut** is the same before only if nothing of it
is cut. -/
theorem hostname_eq_iff (hs : Text.size h.hostname ≤ nameLimit)
    (hsame : (h.renamed name).hostname = h.hostname) :
    h.hostname = name ↔ Text.size name ≤ nameLimit := by
  rw [hostname_renamed hs] at hsame
  constructor
  · rintro rfl
    exact hs
  · intro hsize
    rw [← hsame, Text.clip_of_size_le hsize]

end HostSlot

/-- The cursor, if it is on this host. -/
def Rack.cursorOn (i : Fin 8) (r : Rack W R D) : Option Cursor :=
  if r.cursor.openOn = some i then some r.cursor else none

section Passes

variable [HostStorage W R]

theorem Rack.rename_released (r : Rack W R D) (i : Fin 8) (name : String) :
    r.rename i name =
      (r.setStorage ((r.hosts.get i).released r.storage)).setHost i (.named name) := by
  unfold Rack.rename HostSlot.released
  rcases hm : (r.hosts.get i).mount with _ | m
  · rw [after_disconnect_none hm]
    rfl
  · rw [after_disconnect_some hm]
    unfold setHost
    rw [Slots.set_set]

/-- Giving a slot a name unless it has the name changes that slot, the cursor on it and the storage
that lets go of its host. -/
theorem renameIfChanged_eq (r : Rack W R D) (i : Fin 8) (name : String) :
    renameIfChanged r (i, name) = { r with
      storage := (r.hosts.get i).letGo name r.storage
      hosts := r.hosts.set i ((r.hosts.get i).renamed name)
      cursor := if (r.hosts.get i).hostname ≠ name ∧ r.cursor.openOn = some i then {}
        else r.cursor } := by
  unfold renameIfChanged HostSlot.letGo HostSlot.renamed
  by_cases hn : (r.hosts.get i).hostname = name
  · simp only [hn, if_true, ne_eq, not_true, false_and, if_false, Slots.set_get]
  · simp only [hn, if_false, ne_eq, not_false_eq_true, true_and]
    unfold renameHost Rack.dropCursor
    rw [Rack.rename_released]
    by_cases ho : r.cursor.openOn = some i
    · exact (if_pos ho).trans (by rw [if_pos ho]; rfl)
    · exact (if_neg ho).trans (by rw [if_neg ho]; rfl)

/-- The rack with a name given to every slot that does not have it. -/
def Rack.renameAll (names : Fin 8 → String) (r : Rack W R D) : Rack W R D :=
  (List.finRange 8).foldl (fun r i => renameIfChanged r (i, names i)) r

/-- The storage after it let go of the hosts of all slots with other names, in turn. -/
def Rack.letGoAll (names : Fin 8 → String) (r : Rack W R D) : W :=
  (List.finRange 8).foldl (fun w i => (r.hosts.get i).letGo (names i) w) r.storage

namespace Rack

variable (names : Fin 8 → String) (r : Rack W R D)

/-- **Every slot** is given its own name, and loses its cursor if it had another one. -/
theorem renameAll_slot (i : Fin 8) :
    (r.renameAll names).hosts.get i = (r.hosts.get i).renamed (names i) ∧
      (r.renameAll names).cursorOn i =
        if (r.hosts.get i).hostname = names i then r.cursorOn i else none := by
  unfold renameAll
  rw [← Prod.mk.injEq]
  refine Slots.get_foldl_finRange (fun (r : Rack W R D) i => (r.hosts.get i, r.cursorOn i))
    (fun r i => renameIfChanged r (i, names i))
    (fun i s => (s.1.renamed (names i), if s.1.hostname = names i then s.2 else none))
    (fun r i => ?_) (fun r i j hj => ?_) r i
  · rw [renameIfChanged_eq]
    unfold cursorOn
    by_cases hn : (r.hosts.get i).hostname = names i
    · simp [hn]
    · by_cases ho : r.cursor.openOn = some i <;> simp [hn, ho]
  · -- the cursor is on another slot, or dropped from one
    have hother : ∀ {c : Prop} [Decidable c],
        (if c ∧ r.cursor.openOn = some i then ({} : Cursor) else r.cursor).openOn = some j ↔
          r.cursor.openOn = some j := by
      intro c _
      split
      · next h => simp [h.2, Ne.symm hj]
      · rfl
    rw [renameIfChanged_eq]
    unfold cursorOn
    simp only [Slots.get_set_of_ne _ hj, hother]
    by_cases ho : r.cursor.openOn = some j
    · have hne : r.cursor.openOn ≠ some i := fun h => hj (Option.some.inj (ho.symm.trans h))
      simp [ho, hj]
    · simp [ho]

/-- **The storage lets go of the hosts** that the slots had at the beginning. -/
theorem storage_renameAll : (r.renameAll names).storage = r.letGoAll names := by
  have hpass : ∀ (l : List (Fin 8)), l.Nodup → ∀ r : Rack W R D,
      (l.foldl (fun r i => renameIfChanged r (i, names i)) r).storage =
        l.foldl (fun w i => (r.hosts.get i).letGo (names i) w) r.storage := by
    intro l
    induction l with
    | nil => exact fun _ _ => rfl
    | cons i l ih =>
      intro hl r
      rw [List.nodup_cons] at hl
      rw [List.foldl_cons, List.foldl_cons, ih hl.2, renameIfChanged_eq]
      refine List.foldl_ext _ _ _ fun w j hj => ?_
      have hji : j ≠ i := fun h => hl.1 (h ▸ hj)
      rw [Slots.get_set_of_ne _ hji]
  exact hpass _ (List.nodup_finRange 8) r

/-- Nothing else changes. -/
theorem renameAll_eq : r.renameAll names = { r with
    storage := (r.renameAll names).storage
    hosts := (r.renameAll names).hosts
    cursor := (r.renameAll names).cursor } := by
  have hpass : ∃ storage hosts cursor, r.renameAll names = { r with storage, hosts, cursor } := by
    refine List.foldlRecOn (List.finRange 8) _ (motive := fun s : Rack W R D =>
      ∃ storage hosts cursor, s = { r with storage, hosts, cursor })
      ⟨r.storage, r.hosts, r.cursor, rfl⟩ ?_
    rintro s ⟨storage, hosts, cursor, rfl⟩ i -
    rw [renameIfChanged_eq]
    exact ⟨_, _, _, rfl⟩
  obtain ⟨storage, hosts, cursor, hr⟩ := hpass
  rw [hr]

end Rack

end Passes

/-! ### Writing a block -/

section Writing

variable [HostStorage W R] [SettingsStore W]

/-- **A block of 256 bytes** gives every slot its name, and then the settings are saved. -/
theorem replaceHostnames_of_length {payload : Bytes} (h : payload.length = 256)
    (d : Device W R D) : replaceHostnames payload d =
      Device.save (d.setRack (d.rack.renameAll (HostBlock.name payload))) := by
  unfold replaceHostnames Rack.renameAll
  rw [HostBlock.decode_of_length h, lift_ok_bind, bind_apply, modify_apply, Slots.zip_finRange,
    List.foldl_map]
  rfl

theorem replaceHostnames_of_length_ne {payload : Bytes} (h : payload.length ≠ 256)
    (d : Device W R D) : replaceHostnames payload d = .error .payloadSize d := by
  have hdecode : HostBlock.decode payload = .error .payloadSize := if_neg h
  unfold replaceHostnames
  rw [hdecode]
  rfl

/-- The device after a block of 256 bytes: the settings are saved once, and beyond that nothing
changes but the host slots, the cursor and the storage that lets go of hosts. -/
theorem after_replaceHostnames {payload : Bytes} (h : payload.length = 256) (d : Device W R D) :
    let write : Action (Device W R D) Unit := replaceHostnames payload
    let e := write.after d
    let released := d.rack.letGoAll (HostBlock.name payload)
    (∀ i, e.rack.hosts.get i = (d.rack.hosts.get i).renamed (HostBlock.name payload i) ∧
      e.rack.cursorOn i = if (d.rack.hosts.get i).hostname = HostBlock.name payload i
        then d.rack.cursorOn i else none) ∧
      e.settings = e.currentSettings ∧
      e.rack.storage = (SettingsStore.save e.settings).after released ∧
      write.outcome d = (SettingsStore.save e.settings).outcome released ∧
      e = { d with settings := e.settings }.setRack { d.rack with
        storage := e.rack.storage, hosts := e.rack.hosts, cursor := e.rack.cursor } := by
  have hslots := d.rack.renameAll_slot (HostBlock.name payload)
  have hrack := d.rack.renameAll_eq (HostBlock.name payload)
  obtain ⟨hsettings, hstorage, houtcome, hframe⟩ := saved_once (replaceHostnames_of_length h d)
  rw [← Rack.storage_renameAll]
  generalize d.rack.renameAll _ = r at *
  refine ⟨fun i => ?_, hsettings, hstorage, houtcome, hframe.trans ?_⟩
  · rw [hframe]
    exact hslots i
  · rw [hframe, hrack]
    rfl

end Writing

variable [HostStorage W R] [SettingsStore W] [KeyStorage W] [DriveBay D]

/-- **Which hosts a block of hostnames leaves alone.** In every state of every run of a device that
has started, a block that does not have 256 bytes is refused and nothing changes. Any other block
gives every slot the text of its field, cut to 31 bytes.

A slot whose hostname is another one after that is unmounted, and no cursor is on it. A slot whose
hostname is still the same keeps its host and the cursor on it if and only if the text of its field
was not cut, or it was neither mounted nor under the cursor.

The storage lets go of the hosts of all slots whose hostnames are not the texts of their fields, and
then the settings are saved once; the command ends as that does. Nothing else changes. -/
theorem hosts_left_alone_iff (storage : W) (drives : D) (radio : Radio) (board : Board)
    (digester : Digester) (moves : List (Move W D)) (payload : Bytes) :
    let d : Device W R D := (Device.start storage drives radio board digester).run moves
    let write : Action (Device W R D) Unit := replaceHostnames payload
    let e := write.after d
    let name (i : Fin 8) := Text.ofField ((payload.drop (32 * i)).take 31)
    let released := d.rack.letGoAll name
    (payload.length ≠ 256 → write.outcome d = .error .payloadSize ∧ e = d) ∧
    (payload.length = 256 →
      (∀ i, (e.rack.hosts.get i).hostname = Text.clip 31 (name i) ∧
        ((e.rack.hosts.get i).hostname ≠ (d.rack.hosts.get i).hostname →
          (e.rack.hosts.get i).mount = none ∧ e.rack.cursorOn i = none) ∧
        ((e.rack.hosts.get i).hostname = (d.rack.hosts.get i).hostname →
          ((e.rack.hosts.get i).mount = (d.rack.hosts.get i).mount ∧
              e.rack.cursorOn i = d.rack.cursorOn i ↔
            Text.size (name i) ≤ 31 ∨
              (d.rack.hosts.get i).mount = none ∧ d.rack.cursorOn i = none))) ∧
      e.settings = e.currentSettings ∧
      e.rack.storage = (SettingsStore.save e.settings).after released ∧
      write.outcome d = (SettingsStore.save e.settings).outcome released ∧
      e = { d with settings := e.settings }.setRack { d.rack with
        storage := e.rack.storage, hosts := e.rack.hosts, cursor := e.rack.cursor }) := by
  intro d write e name released
  refine ⟨fun h => ?_, fun h => ?_⟩
  · have hwrite : write d = .error .payloadSize d := replaceHostnames_of_length_ne h d
    exact ⟨by unfold outcome; rw [hwrite], after_of_error hwrite⟩
  obtain ⟨hslots, hsaved⟩ := after_replaceHostnames h d
  refine ⟨fun i => ?_, hsaved⟩
  have hsize : Text.size (d.rack.hosts.get i).hostname ≤ HostSlot.nameLimit :=
    ((wellFormed_run storage drives radio board digester moves).host i).hostname
  have hhost : e.rack.hosts.get i = (d.rack.hosts.get i).renamed (name i) := (hslots i).1
  have hcursor : e.rack.cursorOn i = if (d.rack.hosts.get i).hostname = name i
      then d.rack.cursorOn i else none := (hslots i).2
  rw [hhost, hcursor]
  refine ⟨HostSlot.hostname_renamed hsize (name i), fun hother => ?_, fun hsame => ?_⟩
  · have hne : (d.rack.hosts.get i).hostname ≠ name i := fun hn =>
      hother (congrArg HostSlot.hostname (if_pos hn))
    unfold HostSlot.renamed
    rw [if_neg hne, if_neg hne]
    exact ⟨rfl, rfl⟩
  · have hiff := HostSlot.hostname_eq_iff hsize hsame
    show _ ↔ Text.size (name i) ≤ HostSlot.nameLimit ∨ _
    rw [← hiff]
    unfold HostSlot.renamed
    by_cases hn : (d.rack.hosts.get i).hostname = name i
    · simp [hn]
    · simp [hn, eq_comm]

/-- The block of two hostnames. -/
def twoNamesBlock (first second : UInt8) : Bytes :=
  first :: List.replicate 31 0 ++ second :: List.replicate 223 0

/-- A device in memory with two hosts mounted and a listing open on the first one. -/
def twoHosts : Memory.Adapter :=
  (Device.start ({ hosts := (({} : Memory.Hosts).withHost "a").withHost "b" } : Memory.Storage)
    ({} : Memory.Drives) {} { version := "dummy-0.1.0" } DigestAlgorithm.digest).run
    [.call (.replaceHostnames (twoNamesBlock 97 98)), .call (.mountHost 0), .call (.mountHost 1),
      .call (.openDirectory 0 "/" none)]

/-- The device after the second host was given another name. -/
def twoHostsAfter : Memory.Adapter := (replaceHostnames (twoNamesBlock 97 99)).after twoHosts

/-- The second host gets another name, the first one stays mounted with its listing. A block of no
bytes is refused. -/
theorem hosts_left_alone_iff_two_hosts :
    (twoHosts.rack.hosts.get 0).isMounted ∧ (twoHosts.rack.hosts.get 1).isMounted ∧
      twoHosts.rack.cursorOn 0 = some { openOn := some 0 } ∧
      (twoHostsAfter.rack.hosts.get 0).mount = (twoHosts.rack.hosts.get 0).mount ∧
      twoHostsAfter.rack.cursorOn 0 = twoHosts.rack.cursorOn 0 ∧
      (twoHostsAfter.rack.hosts.get 1).mount = none ∧
      (replaceHostnames []).after twoHosts = twoHosts := by
  obtain ⟨storage, moves, hrun⟩ : ∃ storage moves, twoHosts = (Device.start storage
      ({} : Memory.Drives) {} { version := "dummy-0.1.0" } DigestAlgorithm.digest).run moves :=
    ⟨_, _, rfl⟩
  have hblock := hosts_left_alone_iff storage ({} : Memory.Drives) {}
    { version := "dummy-0.1.0" } DigestAlgorithm.digest moves
  simp only [← hrun] at hblock
  obtain ⟨hslots, -⟩ := (hblock (twoNamesBlock 97 99)).2 (by decide +kernel)
  rw [← twoHostsAfter] at hslots
  have hfirst : (twoHostsAfter.rack.hosts.get 0).hostname =
      (twoHosts.rack.hosts.get 0).hostname := by decide +kernel
  have hsecond : (twoHostsAfter.rack.hosts.get 1).hostname ≠
      (twoHosts.rack.hosts.get 1).hostname := by decide +kernel
  obtain ⟨hmount, hcursor⟩ := ((hslots 0).2.2 hfirst).2 (.inl (by decide +kernel))
  obtain ⟨hgone, -⟩ := (hslots 1).2.1 hsecond
  obtain ⟨-, hrefused⟩ := (hblock []).1 (by decide)
  exact ⟨by decide +kernel, by decide +kernel, by decide +kernel, hmount, hcursor, hgone, hrefused⟩

/-- A block with a hostname of 32 bytes, which ends in the middle of a character. -/
def cutNameBlock : Bytes :=
  List.replicate 30 104 ++ Text.encode "é" ++ List.replicate 224 0

/-- A device in memory that was given the hostname and has mounted the host, with a listing open. -/
def cutNameHost : Memory.Adapter :=
  (Memory.Surroundings.start { storage :=
    { hosts := ({} : Memory.Hosts).withHost (String.ofList (List.replicate 30 'h')) } }).run
    [.call (.replaceHostnames cutNameBlock), .call (.mountHost 0),
      .call (.openDirectory 0 "/" none)]

/-- The same block once more leaves the hostname as it is, but unmounts the host and closes the
listing. -/
theorem host_with_cut_name_unmounted :
    let e := (replaceHostnames cutNameBlock).after cutNameHost
    (e.rack.hosts.get 0).hostname = (cutNameHost.rack.hosts.get 0).hostname ∧
      (cutNameHost.rack.hosts.get 0).isMounted = true ∧
      (e.rack.hosts.get 0).isMounted = false ∧
      cutNameHost.rack.cursorOn 0 = some { openOn := some 0 } ∧ e.rack.cursorOn 0 = none := by
  decide +kernel

end StorageAdapter
