import StorageAdapter.Proofs.ListingReplies

/-! # Complete listings

A tree that is built by adding hosts, directories and files has one node at each path
(`onePerPath_built`). So the listing of a directory shows each of the nodes in it that match the
pattern, once and in order (`shows_of_listTree`), and reading on yields them all, one after the
other, and then the end mark, whatever else happens meanwhile (`directory_listed_completely`). -/

namespace StorageAdapter

open StorageAdapter.Action StorageAdapter.Device

namespace Memory

/-! ### Trees that are built -/

/-- What may be added to the hosts. -/
inductive HostEdit where
  | host (name : String)
  | dir (name path : String)
  | file (name path : String) (size : Nat) (modified : Int)

/-- The hosts with something added. -/
def Hosts.edit (h : Hosts) : HostEdit → Hosts
  | .host name => h.withHost name
  | .dir name path => h.withDir name path
  | .file name path size modified => h.withFile name path size modified

/-- The hosts that are built by adding one thing after the other. -/
def Hosts.built (edits : List HostEdit) : Hosts := edits.foldl Hosts.edit {}

/-- There is one node at most at each path. -/
def OnePerPath (tree : List Node) : Prop := (tree.map Node.path).Nodup

theorem OnePerPath.addNode {tree : List Node} (h : OnePerPath tree) (n : Node) :
    OnePerPath (addNode tree n) := by
  unfold Memory.addNode
  split
  · exact h
  · next hn =>
    refine List.nodup_cons.2 ⟨fun hmem => hn ?_, h⟩
    obtain ⟨n', hn', hpath⟩ := List.mem_map.1 hmem
    exact List.any_eq_true.2 ⟨n', hn', beq_iff_eq.2 hpath⟩

theorem onePerPath_addNodes {h : Hosts} (hh : ∀ name, OnePerPath (h.tree name)) (name : String)
    (nodes : List Node) (name' : String) : OnePerPath ((h.addNodes name nodes).tree name') := by
  unfold Hosts.addNodes Hosts.tree
  by_cases hname : name' = name
  · subst hname
    rw [Catalog.get?_put_self]
    exact List.foldlRecOn nodes addNode (hh name') fun tree ht n _ => ht.addNode n
  · rw [Catalog.get?_put_of_ne _ hname]
    exact hh name'

/-- **Trees that are built** have one node at each path. -/
theorem onePerPath_built (edits : List HostEdit) (name : String) :
    OnePerPath ((Hosts.built edits).tree name) := by
  have hempty : ∀ name, OnePerPath (({} : Hosts).tree name) := fun _ => List.nodup_nil
  refine List.foldlRecOn edits Hosts.edit (motive := fun h => ∀ name, OnePerPath (h.tree name))
    hempty (fun h hh edit _ => ?_) name
  cases edit with
  | host name => exact onePerPath_addNodes hh name _
  | dir name path => exact onePerPath_addNodes hh name _
  | file name path size modified => exact onePerPath_addNodes hh name _

end Memory

/-! ### The order of listings -/

namespace DirectoryEntry

theorem precedes_iff {a b : DirectoryEntry} : precedes a b = true ↔
    (b.isDir → a.isDir) ∧ (a.isDir = b.isDir → Text.encode a.name ≤ Text.encode b.name) := by
  unfold precedes
  split
  · next h => simp [h]
  · next h =>
    rcases ha : a.isDir <;> rcases hb : b.isDir <;> simp [ha, hb] at h ⊢

theorem precedes_trans (a b c : DirectoryEntry) (hab : precedes a b = true)
    (hbc : precedes b c = true) : precedes a c = true := by
  rw [precedes_iff] at hab hbc ⊢
  refine ⟨fun hc => hab.1 (hbc.1 hc), fun hac => ?_⟩
  -- what stands between two of a kind is of that kind
  have hb : a.isDir = b.isDir := by
    have h1 := hab.1
    have h2 := hbc.1
    rw [← hac] at h2
    exact Bool.eq_iff_iff.2 ⟨h2, h1⟩
  exact List.le_trans (hab.2 hb) (hbc.2 (hb.symm.trans hac))

theorem precedes_total (a b : DirectoryEntry) : (precedes a b || precedes b a) = true := by
  rw [Bool.or_eq_true]
  unfold precedes
  by_cases h : a.isDir = b.isDir
  · rw [if_pos h, if_pos h.symm, decide_eq_true_eq, decide_eq_true_eq]
    exact List.le_total _ _
  · rw [if_neg h, if_neg (Ne.symm h)]
    rcases ha : a.isDir <;> rcases hb : b.isDir <;> simp [ha, hb] at h ⊢

end DirectoryEntry

namespace Memory

/-- The nodes in a directory whose names match the pattern, each of them once, directories first and
then by the bytes of their names. -/
structure Shows (tree : List Node) (path : String) (pattern : Option String)
    (shown : List Node) : Prop where
  mem_iff : ∀ n, n ∈ shown ↔ n ∈ tree ∧ directoryOf n.path = treePath path ∧
    ∀ p ∈ pattern, Text.matchesPattern p (lastName n.path)
  once : (shown.map Node.path).Nodup
  dirsFirst : shown.Pairwise fun a b => b.isDir → a.isDir
  byName : shown.Pairwise fun a b =>
    a.isDir = b.isDir → Text.encode (lastName a.path) ≤ Text.encode (lastName b.path)

/-- **The listing of a directory** has the entries of the nodes that it should show. -/
theorem shows_of_listTree {tree : List Node} (htree : OnePerPath tree) {path : String}
    {pattern : Option String} {entries : List DirectoryEntry}
    (h : listTree tree path pattern = .ok entries) :
    ∃ shown, entries = shown.map Node.entry ∧ Shows tree path pattern shown := by
  unfold listTree at h
  simp only at h
  split at h
  case isFalse => cases h
  cases h
  set inside := tree.reverse.filter fun n => directoryOf n.path == treePath path &&
    pattern.all fun p => Text.matchesPattern p (lastName n.path) with hinside
  set shown := inside.mergeSort fun a b => DirectoryEntry.precedes a.entry b.entry with hshown
  have hperm : shown.Perm inside := List.mergeSort_perm _ _
  have horder : shown.Pairwise fun a b => DirectoryEntry.precedes a.entry b.entry = true :=
    List.pairwise_mergeSort (fun a b c => DirectoryEntry.precedes_trans a.entry b.entry c.entry)
      (fun a b => DirectoryEntry.precedes_total a.entry b.entry) inside
  have hentries : shown.map Node.entry = DirectoryEntry.inOrder (inside.map Node.entry) :=
    List.map_mergeSort fun _ _ _ _ => rfl
  refine ⟨shown, hentries.symm, ⟨fun n => ?_, ?_, ?_, ?_⟩⟩
  · rw [hperm.mem_iff, hinside]
    simp [Option.all_eq_true]
  · have hinsidePaths : (inside.map Node.path).Nodup :=
      ((tree.reverse_perm.map Node.path).nodup_iff.2 htree).sublist
        (List.filter_sublist.map Node.path)
    exact (hperm.map Node.path).nodup_iff.2 hinsidePaths
  · exact horder.imp fun h => (DirectoryEntry.precedes_iff.1 h).1
  · exact horder.imp fun h => (DirectoryEntry.precedes_iff.1 h).2

end Memory

/-! ### What is read -/

section Read

variable {W R D : Type}

/-- Closing listings leaves the hosts mounted that are mounted. -/
theorem Rack.mounted_of_readyToOpen {r : Rack W R D} {i : Fin 8} {m : Mounted R}
    (h : (r.readyToOpen.hosts.get i).mount = some m) :
    ∃ m', (r.hosts.get i).mount = some m' ∧ m'.root = m.root := by
  unfold Rack.readyToOpen Rack.closeDirectory at h
  split at h
  · split at h
    · next j hj =>
      have h : ((r.hosts.set j _).get i).mount = some m := h
      rw [Slots.get_set] at h
      split at h
      · next hij =>
        subst hij
        obtain ⟨m', hm', rfl⟩ := Option.map_eq_some_iff.1 h
        exact ⟨m', hm', rfl⟩
      · exact ⟨m, h, rfl⟩
    · exact ⟨m, h, rfl⟩
  · exact ⟨m, h, rfl⟩

variable [HostStorage W R] [SettingsStore W] [KeyStorage W] [DriveBay D]

/-- A listing that is opened has the entries that the host lists, and is at the first of them. -/
theorem Rack.reads_of_succeeds {d : Device W R D} {m : Move W D} {slot : UInt8} {path : String}
    {pattern : Option String} (hm : m.request d = .ok (some (.openDirectory slot path pattern)))
    (hok : m.succeeds d) : ∃ i mounted entries, Rack.hostIndex slot = .ok i ∧
      (d.rack.hosts.get i).mount = some mounted ∧
      HostStorage.list mounted.root path (pattern.filter (· != "")) d.rack.storage = .ok entries ∧
      (d.move m).rack.Reads i entries 0 := by
  obtain ⟨e, he⟩ := (succeeds_iff hm rfl).1 hok
  have hrack := (Device.move_opening hm).1
  have hopen : onRack (Rack.openDirectory slot path pattern) d = .ok () e := he
  have hfails : ∀ {err s}, Rack.openDirectory slot path pattern d.rack ≠ .error err s := by
    intro err s hs
    unfold onRack Action.on at hopen
    rw [hs] at hopen
    cases hopen
  obtain ⟨err, -, ho⟩ | ⟨err, ho⟩ | ⟨err, i, m, -, ho⟩ | ⟨i, m, entries, hi, hmount, hlist, ho⟩ :=
    openDirectory_cases slot path pattern d.rack
  · exact absurd ho hfails
  · exact absurd ho hfails
  · exact absurd ho hfails
  · obtain ⟨mounted, hmounted, hroot⟩ := Rack.mounted_of_readyToOpen hmount
    have hstorage : d.rack.readyToOpen.storage = d.rack.storage := by
      unfold Rack.readyToOpen
      split
      · exact (Rack.SameButListings.refl d.rack).closeDirectory.storage
      · rfl
    rw [hstorage, ← hroot] at hlist
    refine ⟨i, mounted, entries, hi, hmounted, hlist, ?_⟩
    rw [hrack, after_of_ok ho]
    exact reads_openedOn i m entries _

end Read

variable {D : Type} [DriveBay D]

/-- **A directory is listed completely.** On hosts that were built by adding to them, a listing that
is opened shows all nodes in the directory that match the pattern, each of them once and in order.
However it is read from then on, by opcodes, lines or calls, and whatever happens meanwhile short of
seeking, opening or closing a listing and unmounting the host: the frame that asks for an entry when
`n` have been read is told the one of number `n`, or the end mark if there are no more. -/
theorem directory_listed_completely {edits : List Memory.HostEdit}
    {d : Device Memory.Storage String D}
    (hbuilt : d.rack.storage.hosts.trees = (Memory.Hosts.built edits).trees)
    {m : Move Memory.Storage D} {slot : UInt8} {path : String} {pattern : Option String}
    (hm : m.request d = .ok (some (.openDirectory slot path pattern))) (hok : m.succeeds d) :
    ∃ i mounted shown, Rack.hostIndex slot = .ok i ∧
      (d.rack.hosts.get i).mount = some mounted ∧
      Memory.Shows (d.rack.storage.hosts.tree mounted.root) path (pattern.filter (· != "")) shown ∧
      ∀ moves, (d.move m).KeepsListing i moves →
        (∀ r ∈ (d.move m).requests moves, ¬r.seeks) →
        let n := ((d.move m).requests moves).countP Request.reads
        let e := (d.move m).run moves
        ∀ payload limit options, asked payload e = .ok (some (.readDirectory limit options)) →
          (receive payload e).1.Tells (.ok
            ((shown[n]?.map (·.entry.format limit options)).getD DirectoryEntry.endMark)) := by
  obtain ⟨i, mounted, entries, hi, hmounted, hlist, hreads⟩ := Rack.reads_of_succeeds hm hok
  have htree : Memory.OnePerPath (d.rack.storage.hosts.tree mounted.root) := by
    unfold Memory.Hosts.tree
    rw [hbuilt]
    exact Memory.onePerPath_built edits mounted.root
  obtain ⟨shown, rfl, hshown⟩ := Memory.shows_of_listTree htree hlist
  refine ⟨i, mounted, shown, hi, hmounted, hshown, fun moves hkeeps hseeks => ?_⟩
  intro n e payload limit options hasked
  have hread := hreads.run hkeeps
  rw [place_of_reads (Nat.zero_le _) hseeks, Nat.zero_add] at hread
  have htells := hread.tells_entry hasked
  rw [getElem?_min_length, List.getElem?_map, Option.map_map] at htells
  exact htells

/-- An entry is read by an opcode, another file is added that matches, and the next reading, by a
line, finds the end of the listing as it was when it was opened. -/
theorem directory_listed_completely_games :
    let edits : List Memory.HostEdit :=
      [.file "h" "/games/zork.d64" 20 0, .dir "h" "games/demos/", .file "h" "/games/elite.d64" 10 0]
    let d : Memory.Adapter :=
      (Memory.Surroundings.start { storage := { hosts := Memory.Hosts.built edits } }).run
        [.call (.nameHost 0 "h"), .call (.mountHost 0)]
    let m : Move Memory.Storage Memory.Drives := .frame (Text.encode "OPENDIR:0,/games/~?lite.d64")
    let moves : List (Move Memory.Storage Memory.Drives) :=
      [.frame (ClientCommand.openFrame .readDirEntry), .frame [32, 0],
        .outside (Memory.Storage.changeHosts fun h => h.withFile "h" "/games/flite.d64" 1 0) id id]
    d.rack.storage.hosts.trees = (Memory.Hosts.built edits).trees ∧
      m.request d = .ok (some (.openDirectory 0 "/games" (some "?lite.d64"))) ∧ m.succeeds d ∧
      (d.move m).KeepsListing 0 moves ∧
      ((d.move m).requests moves).countP Request.reads = 1 ∧
      ∃ shown, Memory.Shows (d.rack.storage.hosts.tree "h") "/games" (some "?lite.d64") shown ∧
        (receive (Text.encode "READDIR:20,128") ((d.move m).run moves)).1.Tells (.ok
          ((shown[1]?.map (·.entry.format 20 128)).getD DirectoryEntry.endMark)) := by
  intro edits d m moves
  have hbuilt : d.rack.storage.hosts.trees = (Memory.Hosts.built edits).trees := by decide +kernel
  have hm : m.request d = .ok (some (.openDirectory 0 "/games" (some "?lite.d64"))) := by
    decide +kernel
  have hok : m.succeeds d := by decide +kernel
  have hmount : (d.rack.hosts.get 0).mount = some { root := "h" } := by decide +kernel
  have hkeeps : (d.move m).KeepsListing 0 moves :=
    ⟨⟨by decide +kernel, nofun, by decide +kernel⟩, ⟨by decide +kernel, nofun, by decide +kernel⟩,
      ⟨by decide +kernel, nofun, by decide +kernel⟩, trivial⟩
  have hseeks : ∀ r ∈ (d.move m).requests moves, ¬r.seeks := by decide +kernel
  have hcount : ((d.move m).requests moves).countP Request.reads = 1 := by decide +kernel
  have hasked : asked (Text.encode "READDIR:20,128") ((d.move m).run moves) =
      .ok (some (.readDirectory 20 128)) := by decide +kernel
  obtain ⟨i, mounted, shown, hi, hmounted, hshown, htold⟩ :=
    directory_listed_completely hbuilt hm hok
  obtain rfl : 0 = i := Except.ok.inj hi
  obtain rfl := Option.some.inj (hmount.symm.trans hmounted)
  have htells := htold moves hkeeps hseeks _ 20 128 hasked
  rw [hcount] at htells
  exact ⟨hbuilt, hm, hok, hkeeps, hcount, shown, hshown, htells⟩

end StorageAdapter
