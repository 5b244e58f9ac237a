import StorageAdapter.Proofs.ClientPaths
import StorageAdapter.Proofs.Run

/-! # Hosts in a folder

The hostname of a slot is resolved as a path below the directory of all hosts. It leads to a
directory further down if it has a name, and is refused if it climbs; but a hostname of slashes and
dots alone leads to the directory of all hosts itself, and so to the files of every other host
(`hosts_served_below_iff`). What a slot serves once it is mounted is what its hostname leads to, in
every state of every run (`Served`). -/

namespace StorageAdapter.Folder

open StorageAdapter.Action StorageAdapter.Device

/-! ### Where a hostname leads -/

theorem names_eq_nil_iff {path : String} : names path.toList = [] ↔ SamePlace path "" := by
  rw [← names_eq_iff]
  rfl

/-- A hostname of slashes and dots leads to the directory of all hosts. -/
theorem Storage.hostRoot_of_samePlace {name : String} (h : SamePlace name "") (s : Storage) :
    s.hostRoot name .tnfs = .ok s.hosts := by
  show placeBelow s.hosts name = _
  rw [placeBelow_eq, names_eq_nil_iff.2 h]
  simp

/-- **Any other hostname** is refused or leads further down. -/
theorem Storage.hostRoot_of_not_samePlace {name : String} (h : ¬SamePlace name "") (s : Storage) :
    (∃ e, s.hostRoot name .tnfs = .error e) ∨
      ∃ below, below ≠ [] ∧ (∀ part ∈ below, IsName part) ∧
        s.hostRoot name .tnfs = .ok (s.hosts ++ below) := by
  by_cases hclimb : HasPart ".." name
  · exact .inl ⟨_, placeBelow_of_hasPart hclimb s.hosts⟩
  · exact .inr ⟨names name.toList, mt names_eq_nil_iff.1 h, fun _ => isName_of_mem_names hclimb,
      placeBelow_of_not_hasPart hclimb s.hosts⟩

/-- The hostname is refused or leads further down than to the directory of all hosts. -/
def Storage.LeadsBelow (s : Storage) (name : String) : Prop :=
  (∃ e, s.hostRoot name .tnfs = .error e) ∨
    ∃ below, below ≠ [] ∧ s.hostRoot name .tnfs = .ok (s.hosts ++ below)

theorem Storage.leadsBelow_iff {s : Storage} {name : String} :
    s.LeadsBelow name ↔ ¬SamePlace name "" := by
  constructor
  · intro hbelow hsame
    have hroot := s.hostRoot_of_samePlace hsame
    rcases hbelow with ⟨e, he⟩ | ⟨below, hne, hplace⟩
    · exact nomatch he.symm.trans hroot
    · have happend : s.hosts = s.hosts ++ below := Except.ok.inj (hroot.symm.trans hplace)
      exact hne (List.self_eq_append_right.1 happend)
  · intro hother
    obtain he | ⟨below, hne, -, hplace⟩ := s.hostRoot_of_not_samePlace hother
    · exact .inl he
    · exact .inr ⟨below, hne, hplace⟩

/-! ### What the storage keeps -/

namespace Storage

theorem keeps_hosts_onTree {α : Type} (hosts : Path) (report : Fault → Error)
    (change : FileTree.Change α) :
    Keeps (fun s : Storage => s.hosts = hosts) (onTree report change) := by
  intro s hs
  unfold onTree
  rcases change s.tree with ⟨a, tree⟩ | ⟨f, tree⟩ <;> exact hs

theorem keeps_hosts_save (hosts : Path) (settings : Settings) :
    Keeps (fun s : Storage => s.hosts = hosts) (save settings) :=
  Keeps.get.bind fun _ => keeps_hosts_onTree hosts _ _

theorem keeps_hosts_createDir (hosts : Path) (path : String) :
    Keeps (fun s : Storage => s.hosts = hosts) (createDir path) :=
  Keeps.get.bind fun _ => (Keeps.lift _).bind fun _ => keeps_hosts_onTree hosts _ _

theorem keeps_hosts_writeKey (hosts : Path) (path : String) (data : Bytes) :
    Keeps (fun s : Storage => s.hosts = hosts) (writeKey path data) :=
  Keeps.get.bind fun _ => (Keeps.lift _).bind fun _ =>
    (keeps_hosts_onTree hosts _ _).bind_pure

/-- Reaching a host looks for its directory. -/
theorem keeps_connect (P : Storage → Prop) (name : String) (kind : HostKind) :
    Keeps P (connect name kind) :=
  Keeps.get.bind fun _ => (Keeps.lift _).bind fun _ => Keeps.guard fun _ => Keeps.pure _

theorem keeps_openImage (P : Storage → Prop) (root : Path) (path : String) (mode : AccessMode) :
    Keeps P (openImage root path mode) := by
  refine (Keeps.lift _).bind fun place => Keeps.get.bind fun s => ?_
  split
  · exact Ends.ite (fun _ => Keeps.throw _) fun _ => Keeps.pure _
  · exact Keeps.throw _

/-- A host that is reached is known by the directory that its name leads to. -/
theorem hostRoot_of_connect {name : String} {kind : HostKind} {s t : Storage} {root : Path}
    (h : connect name kind s = .ok root t) : s.hostRoot name kind = .ok root := by
  unfold connect at h
  rw [bind_apply, get_apply] at h
  simp only at h
  rcases hroot : s.hostRoot name kind with e | place
  · rw [hroot] at h
    cases h
  · rw [hroot, lift_ok_bind] at h
    split at h <;> cases h
    rfl

/-- **Using the storage** leaves the hosts where they are. -/
theorem hosts_reached {s t : Storage} (h : Reached s t) : t.hosts = s.hosts := by
  set P : Storage → Prop := fun t => t.hosts = s.hosts
  induction h with
  | nothing => rfl
  | connect name kind _ ih => exact keeps_iff.1 (keeps_connect P name kind) _ ih
  | openImage root path mode _ ih => exact keeps_iff.1 (keeps_openImage P root path mode) _ ih
  | release root _ ih => exact ih

end Storage

/-! ### What is served -/

variable {D : Type} {hosts : Path}

/-- The host slot, if it is mounted, serves what its hostname leads to. -/
def Serves (hosts : Path) (h : HostSlot Path) : Prop :=
  ∀ m, h.mount = some m → h.kind = .tnfs → placeBelow hosts h.hostname = .ok m.root

theorem serves_unmounted (hosts : Path) {h : HostSlot Path} (hm : h.mount = none) :
    Serves hosts h := fun _ hmount => nomatch hm.symm.trans hmount

/-- A mounted host may be used in any way. -/
theorem Serves.map {h : HostSlot Path} (hs : Serves hosts h) {f : Mounted Path → Mounted Path}
    (hf : ∀ m, (f m).root = m.root) : Serves hosts { h with mount := h.mount.map f } := by
  intro m hm hk
  obtain ⟨m, hbefore, rfl⟩ := Option.map_eq_some_iff.1 hm
  rw [hf]
  exact hs m hbefore hk

/-- All host slots serve what their hostnames lead to. -/
structure Served (hosts : Path) (r : Rack Storage Path D) : Prop where
  place : r.storage.hosts = hosts
  slot : ∀ i, Serves hosts (r.hosts.get i)

namespace Served

theorem empty (storage : Storage) (drives : D) :
    Served storage.hosts ({ storage, drives } : Rack Storage Path D) := by
  refine ⟨rfl, fun i => ?_⟩
  show Serves storage.hosts (Slots.get (Vector.replicate 8 {}) i)
  rw [Slots.get_replicate]
  exact serves_unmounted _ rfl

variable {r : Rack Storage Path D} (h : Served hosts r)
include h

theorem setStorage {w : Storage} (hw : w.hosts = r.storage.hosts) : Served hosts (r.setStorage w) :=
  ⟨hw.trans h.place, h.slot⟩

theorem setHost {i : Fin 8} {host : HostSlot Path} (hs : Serves hosts host) :
    Served hosts (r.setHost i host) := by
  refine ⟨h.place, fun j => ?_⟩
  show Serves hosts ((r.hosts.set i host).get j)
  rw [Slots.get_set]
  split
  · exact hs
  · exact h.slot j

theorem unmount (i : Fin 8) : Served hosts (r.setHost i { r.hosts.get i with mount := none }) :=
  h.setHost (serves_unmounted hosts rfl)

theorem useHost (i : Fin 8) {f : Mounted Path → Mounted Path} (hf : ∀ m, (f m).root = m.root) :
    Served hosts (r.setHost i { r.hosts.get i with mount := (r.hosts.get i).mount.map f }) :=
  h.setHost ((h.slot i).map hf)

theorem setListing {i : Fin 8} {m : Mounted Path} (hm : (r.hosts.get i).mount = some m)
    (listing : Option Listing) : Served hosts (Rack.setMounted i { m with listing } r) := by
  have huse := h.useHost i (f := fun m => { m with listing }) fun _ => rfl
  rw [hm] at huse
  exact huse

/-- **Mounting a host** serves what its hostname leads to. -/
theorem connect (i : Fin 8) : Served hosts ((Rack.connect i).after r) := by
  obtain hc | ⟨-, -, hc⟩ := Rack.connect_eq i r <;> rw [hc]
  · exact h
  have hreached : ∀ {w}, (HostStorage.connect (r.hosts.get i).hostname (r.hosts.get i).kind).after
      r.storage = w → w.hosts = r.storage.hosts := by
    rintro w rfl
    exact Storage.hosts_reached (.connect _ _ .nothing)
  rcases hroot : HostStorage.connect (r.hosts.get i).hostname (r.hosts.get i).kind r.storage with
    ⟨root, w⟩ | ⟨e, w⟩
  · refine (h.setStorage (hreached (after_of_ok hroot))).setHost ?_
    rintro m ⟨⟩ hk
    have hplace := Storage.hostRoot_of_connect hroot
    rw [show (r.hosts.get i).kind = .tnfs from hk] at hplace
    rw [← h.place]
    exact hplace
  · exact h.setStorage (hreached (after_of_error hroot))

theorem disconnect (i : Fin 8) : Served hosts ((Rack.disconnect i).after r) := by
  obtain ⟨w, hw, hc⟩ := Rack.after_disconnect i r
  rw [hc]
  exact (h.setStorage (Storage.hosts_reached hw)).unmount i

theorem renameHost (i : Fin 8) (name : String) : Served hosts (renameHost i name r) := by
  obtain ⟨w, cursor, hw, hr⟩ := renameHost_eq i name r
  have hnamed := (h.setStorage (Storage.hosts_reached hw)).setHost (i := i)
    (serves_unmounted hosts (h := .named name) rfl)
  rw [hr]
  exact ⟨hnamed.place, hnamed.slot⟩

theorem closeDirectory : Served hosts r.closeDirectory := by
  unfold Rack.closeDirectory
  rcases r.cursor.openOn with _ | i
  · exact ⟨h.place, h.slot⟩
  · have hclosed := h.useHost i (f := Mounted.closed) fun _ => rfl
    exact ⟨hclosed.place, hclosed.slot⟩

theorem openDirectory (slot : UInt8) (path : String) (pattern : Option String) :
    Served hosts ((Rack.openDirectory slot path pattern).after r) := by
  have hready : Served hosts r.readyToOpen := by
    unfold Rack.readyToOpen
    split
    · exact h.closeDirectory
    · exact h
  unfold after
  obtain ⟨e, -, ho⟩ | ⟨e, ho⟩ | ⟨e, i, m, hm, ho⟩ | ⟨i, m, entries, -, hm, -, ho⟩ :=
    Rack.openDirectory_cases slot path pattern r <;> rw [ho]
  · exact h
  · exact hready
  · exact hready.setListing hm none
  · have hopen := hready.setListing hm (some { entries })
    exact ⟨hopen.place, hopen.slot⟩

theorem fill [DriveBay D] (settings : Settings) : Served hosts (r.fill settings) := by
  refine ⟨(Storage.hosts_reached (Rack.fill_reached settings r).1).trans h.place, fun i => ?_⟩
  rw [Rack.hosts_fill]
  unfold HostSlot.filled
  split
  · exact h.slot i
  · exact serves_unmounted _ rfl

theorem assign [DriveBay D] (i : Fin 8) (disk : DiskSlot) : Served hosts (r.assign i disk) := by
  obtain ⟨drives, hr⟩ := Rack.assign_eq i disk r
  rw [hr]
  exact ⟨h.place, h.slot⟩

end Served

/-! ### All runs -/

variable [DriveBay D]

theorem calm_served (hosts : Path) : Calm (fun d : Device Storage Path D => Served hosts d.rack)
    fun d => Served hosts d.rack where
  weaken h := h
  connect h i := h.connect i
  aside h _ _ := h
  wifi h _ := h
  boot h _ _ := h
  switch h _ _ := ⟨h.place, h.slot⟩
  save {d} h := by
    rw [after_save]
    exact h.setStorage (keeps_iff.1 (Storage.keeps_hosts_save _ _) d.rack.storage rfl)

theorem steady_served (hosts : Path) :
    Steady (fun d : Device Storage Path D => Served hosts d.rack)
      fun d => Served hosts d.rack where
  toCalm := calm_served hosts
  openImage h root path mode :=
    h.setStorage (Storage.hosts_reached (.openImage root path mode .nothing))
  during := ⟨fun h i => h.connect i, fun h root path mode =>
    h.setStorage (Storage.hosts_reached (.openImage root path mode .nothing))⟩
  load h _ _ _ := ⟨h.place, h.slot⟩

theorem hosted_served (hosts : Path) :
    Hosted (fun d : Device Storage Path D => Served hosts d.rack)
      fun d => Served hosts d.rack where
  toCalm := calm_served hosts
  disconnect {d} h i := by
    refine Served.disconnect ?_ i
    unfold Rack.leave
    split
    · exact h.closeDirectory
    · exact h
  close h := h.closeDirectory
  follow _ := ⟨fun h _ => ⟨h.place, h.slot⟩, fun h _ hm _ _ => h.setListing hm _,
    fun h _ => ⟨h.place, h.slot⟩⟩
  rename h i name := h.renameHost i name

/-- An operation on mounted hosts, on their listings or on keys leaves the slots as they serve. -/
theorem keeps_served (hosts : Path) {o : Operation} (ho : o.handlesHosts ∨ o.handlesKeys) :
    Keeps (fun d : Device Storage Path D => Served hosts d.rack) o.perform := by
  rcases ho with ho | ho
  · refine (hosted_served hosts).keeps_hosts ho fun slot path pattern heq => ?_
    subst heq
    exact ends_onRack fun d => keeps_iff.2 fun r hr => hr.openDirectory slot path pattern
  · refine keeps_keys ho (fun hd _ => hd) fun {d} hd data => hd.setStorage ?_
    have hwrite := keeps_writeFile (Storage.keeps_hosts_createDir d.rack.storage.hosts)
      (Storage.keeps_hosts_writeKey d.rack.storage.hosts) d.appKey data
    exact keeps_iff.1 hwrite d.rack.storage rfl

/-- **One move** leaves the slots serving what their hostnames lead to, if the directory of all
hosts stays in its place. -/
theorem served_move {d : Device Storage Path D} (h : Served hosts d.rack) {m : Move Storage D}
    (hout : ∀ f g k, m = .outside f g k → ∀ s, (f s).hosts = s.hosts) :
    Served hosts (d.move m).rack := by
  refine keeps_move (I := fun d => Served hosts d.rack) (fun h _ _ _ => h) m (fun o _ => ?_)
    (fun _ h => h.closeDirectory) (fun f g k hm hd => ?_) h
  · exact (steady_served hosts).perform o (keeps_served hosts) (fun _ d hd _ => hd)
      (fun _ d hd => hd.fill d.settings) (fun i _ d hd => ⟨hd.place, hd.slot⟩)
      fun i _ d hd filename host mode => hd.assign i _
  · subst hm
    have hs := hd.setStorage (hout f g k rfl d.rack.storage)
    exact ⟨hs.place, hs.slot⟩

theorem served_start (storage : Storage) (drives : D) (radio : Radio) (board : Board)
    (digester : Digester) : Served storage.hosts
      (Device.start storage drives radio board digester : Device Storage Path D).rack := by
  rw [rack_start]
  have hfill := (Served.empty storage drives).fill
    (Device.start storage drives radio board digester : Device Storage Path D).settings
  exact ⟨hfill.place, hfill.slot⟩

/-- **Which hostnames are served below the directory of all hosts.** A hostname, other than that of
the card, is refused or leads to names below that directory if and only if it does not consist of
slashes and dots that lead nowhere. If it does, it leads to the directory of all hosts itself. In
every state of every run of a device on a folder, a host slot that is mounted under such a hostname
serves the directory of all hosts, and one that is mounted under any other hostname serves a
directory below it, as long as the directory of all hosts is not put elsewhere from outside. -/
theorem hosts_served_below_iff :
    (∀ (s : Storage) (name : String), (s.LeadsBelow name ↔ ¬SamePlace name "") ∧
      (SamePlace name "" → s.hostRoot name .tnfs = .ok s.hosts)) ∧
    ∀ (storage : Storage) (drives : D) (radio : Radio) (board : Board) (digester : Digester)
      (moves : List (Move Storage D)),
      (∀ f g k, Move.outside f g k ∈ moves → ∀ s, (f s).hosts = s.hosts) →
      let d : Device Storage Path D :=
        (Device.start storage drives radio board digester).run moves
      ∀ i m, (d.rack.hosts.get i).mount = some m → (d.rack.hosts.get i).kind = .tnfs →
        (SamePlace (d.rack.hosts.get i).hostname "" ∧ m.root = storage.hosts) ∨
        (¬SamePlace (d.rack.hosts.get i).hostname "" ∧
          ∃ below, below ≠ [] ∧ (∀ part ∈ below, IsName part) ∧
            m.root = storage.hosts ++ below) := by
  refine ⟨fun s name => ⟨Storage.leadsBelow_iff, fun h => s.hostRoot_of_samePlace h⟩, ?_⟩
  intro storage drives radio board digester moves hout d i m hm hk
  have hserved : Served storage.hosts d.rack := by
    refine List.foldlRecOn moves Device.move (motive := fun e => Served storage.hosts e.rack)
      (served_start storage drives radio board digester) fun e he m hm => ?_
    exact served_move he fun f g k ho => hout f g k (ho ▸ hm)
  have hroot : storage.hostRoot (d.rack.hosts.get i).hostname .tnfs = .ok m.root :=
    hserved.slot i m hm hk
  by_cases hsame : SamePlace (d.rack.hosts.get i).hostname ""
  · have hplace := storage.hostRoot_of_samePlace hsame
    exact .inl ⟨hsame, Except.ok.inj (hroot.symm.trans hplace)⟩
  · obtain ⟨e, he⟩ | ⟨below, hne, hnames, hplace⟩ := storage.hostRoot_of_not_samePlace hsame
    · exact nomatch he.symm.trans hroot
    · exact .inr ⟨hsame, below, hne, hnames, Except.ok.inj (hroot.symm.trans hplace)⟩

/-- A folder with one host that has one file. -/
def oneHost : Storage :=
  .below ["data"] (({} : FileTree).putBelow ["data", "hosts", "tnfs.local", "a.d64"]
    (.file { bytes := [], zeros := 174848 }))

/-- A device on the folder with one host, which asks the first slot for a host. -/
def askingFor (name : String) : Adapter :=
  (Device.start oneHost {} (.offline hostname) board DigestAlgorithm.digest).run
    [.call (.nameHost 0 name), .call (.mountHost 0), .call (.openDirectory 0 "/" none)]

/-- The host is served from its own directory. -/
theorem hosts_served_below_iff_one_host :
    (oneHost.hostRoot "tnfs.local" .tnfs = .ok ["data", "hosts", "tnfs.local"]) ∧
      ¬SamePlace "tnfs.local" "" ∧
      ∃ m, ((askingFor "tnfs.local").rack.hosts.get 0).mount = some m ∧
        ((askingFor "tnfs.local").rack.hosts.get 0).kind = .tnfs ∧
        ∃ below, below ≠ [] ∧ (∀ part ∈ below, IsName part) ∧
          m.root = ["data", "hosts"] ++ below := by
  obtain ⟨-, hrun⟩ := hosts_served_below_iff (D := TrackedDrives)
  have hname : ¬SamePlace ((askingFor "tnfs.local").rack.hosts.get 0).hostname "" := by
    decide +kernel
  have hkind : ((askingFor "tnfs.local").rack.hosts.get 0).kind = .tnfs := by decide +kernel
  have hmounted : ((askingFor "tnfs.local").rack.hosts.get 0).mount.isSome := by decide +kernel
  obtain ⟨m, hm⟩ := Option.isSome_iff_exists.1 hmounted
  have hserved := hrun oneHost {} (.offline hostname) board DigestAlgorithm.digest
    [.call (.nameHost 0 "tnfs.local"), .call (.mountHost 0), .call (.openDirectory 0 "/" none)]
    (fun f g k h => by simp at h) 0 m hm hkind
  refine ⟨by decide +kernel, by decide +kernel, m, hm, hkind, ?_⟩
  obtain ⟨hsame, -⟩ | ⟨-, hbelow⟩ := hserved
  · exact absurd hsame hname
  · exact hbelow

/-- A host that is named by a dot is the directory of all hosts, and lists the other ones. -/
theorem hosts_served_under_dot :
    HostKind.ofHostname "." = .tnfs ∧ ¬oneHost.LeadsBelow "." ∧
      (((askingFor ".").rack.hosts.get 0).mount.map (·.root)) = some oneHost.hosts ∧
      (Rack.readDirectory 32 0).outcome (askingFor ".").rack = .ok (Text.encode "tnfs.local/") := by
  refine ⟨by decide +kernel, fun h => ?_, by decide +kernel, by decide +kernel⟩
  exact Storage.leadsBelow_iff.1 h (by decide +kernel)

end StorageAdapter.Folder
