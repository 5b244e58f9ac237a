import StorageAdapter.Folder.Adapter
import StorageAdapter.Proofs.ListingReplies

/-! # Positions as bookmarks

The position that a host tells is a word, and one word stands for no position. As far as words
reach, the position marks the place where it was told: seeking it at any later time goes on reading
from there (`positions_are_bookmarks`). A folder tells no position behind the last one that a word
can stand for, so there it marks that one; in memory the words are used up and begin again. So far
behind, the place is lost in both. -/

namespace StorageAdapter

open StorageAdapter.Action StorageAdapter.Device

section Bookmarks

variable {W R D : Type} [HostStorage W R] [SettingsStore W] [KeyStorage W] [DriveBay D]

/-- The position is a bookmark at place `k` of the listing: whenever it is sought while the listing
is open, that succeeds, and what is read from then on are the entries from number `k` on, one after
the other, and then the end mark. -/
def Device.Bookmarks (d : Device W R D) (o : Opening) (k : Nat) (position : UInt16) : Prop :=
  ∀ moves, d.KeepsListing o.slot moves →
    let e := d.run moves
    ∀ m, m.request e = .ok (some (.seekDirectory position)) →
      HostStorage.canSeek e.rack.storage → m.succeeds e ∧
      ∀ later, (e.move m).KeepsListing o.slot later →
        (∀ r ∈ (e.move m).requests later, ¬r.seeks) →
        let n := ((e.move m).requests later).countP Request.reads
        let f := (e.move m).run later
        ∀ payload limit options, asked payload f = .ok (some (.readDirectory limit options)) →
          (receive payload f).1.Tells (.ok
            ((o.entries[k + n]?.map (·.format limit options)).getD DirectoryEntry.endMark))

/-- Frames that ask for the position are told one, which is a bookmark at place `k`. -/
def Device.Marks (d : Device W R D) (o : Opening) (k : Nat) : Prop :=
  ∀ payload, asked payload d = .ok (some .directoryPosition) →
    ∃ position ≠ Listing.noPosition, (receive payload d).1.TellsPosition position ∧
      (receive payload d).2.Bookmarks o k position

namespace Rack.Reads

variable {o : Opening} {k : Nat} {d : Device W R D}

/-- A position in the listing is a bookmark at the place of that number. -/
theorem bookmarks (h : d.rack.Reads o.slot o.entries k) {position : UInt16}
    (hp : position.toNat ≤ o.entries.length) : d.Bookmarks o position.toNat position := by
  intro moves hmoves e m hm hseek
  have he : e.rack.Reads o.slot o.entries _ := h.run hmoves
  refine ⟨he.succeeds_seek hm hseek hp, fun later hlater hseeks => ?_⟩
  intro n f payload limit options hasked
  have hf := (he.sought hm hseek hp).run hlater
  rw [place_of_reads hp hseeks] at hf
  have htells := hf.tells_entry hasked
  rwa [getElem?_min_length] at htells

/-- **What is told as the position** is a bookmark at the place of that number. -/
theorem marks (h : d.rack.Reads o.slot o.entries k)
    (hp : (HostStorage.position d.rack.storage k).toNat ≤ o.entries.length)
    (hsome : HostStorage.position d.rack.storage k ≠ Listing.noPosition) :
    d.Marks o (HostStorage.position d.rack.storage k).toNat := by
  intro payload hasked
  refine ⟨_, hsome, h.tells_position hasked, ?_⟩
  have hafter : (receive payload d).2.rack.Reads o.slot o.entries k := by
    rw [h.rack_told hasked]
    exact h
  exact hafter.bookmarks hp

end Rack.Reads

end Bookmarks

theorem ofNat_ne_noPosition {n : Nat} (h : n < 65535) : UInt16.ofNat n ≠ Listing.noPosition := by
  intro he
  have hn : (UInt16.ofNat n).toNat = 65535 := congrArg UInt16.toNat he
  rw [UInt16.toNat_ofNat_of_lt' (Nat.lt_succ_of_lt h)] at hn
  exact absurd hn (Nat.ne_of_lt h)

/-- A host that tells the number of a place in the listing, as a word that stands for a position,
marks that place. -/
theorem Rack.Reads.marks_of_position {W R D : Type} [HostStorage W R] [SettingsStore W]
    [KeyStorage W] [DriveBay D] {o : Opening} {d : Device W R D} {k n : Nat}
    (h : d.rack.Reads o.slot o.entries k)
    (hp : HostStorage.position d.rack.storage k = UInt16.ofNat n) (hn : n < 65535)
    (hle : n ≤ o.entries.length) : d.Marks o n := by
  have hnat : (UInt16.ofNat n).toNat = n := UInt16.toNat_ofNat_of_lt' (Nat.lt_succ_of_lt hn)
  have hmarks := h.marks (by rwa [hp, hnat]) (by rw [hp]; exact ofNat_ne_noPosition hn)
  rwa [hp, hnat] at hmarks

/-! ### Reading on -/

section ReadingOn

variable {W R D : Type} [HostStorage W R] [SettingsStore W] [KeyStorage W] [DriveBay D]
  {i : Fin 8} {entries : List DirectoryEntry} {k : Nat} {d : Device W R D}

/-- The moves that read some entries. -/
def readingOn (n : Nat) : List (Move W D) := List.replicate n (.call (.readDirectory 32 0))

/-- Reading leaves the listing open. -/
theorem Rack.Reads.keepsListing_read (h : d.rack.Reads i entries k) (limit options : UInt8) :
    (Move.call (.readDirectory limit options)).KeepsListing i d := by
  refine ⟨nofun, nofun, ?_⟩
  obtain ⟨s, hs, hread, -⟩ := h.readDirectory limit options
  have hrack : (d.move (.call (.readDirectory limit options))).rack = s := by
    rw [rack_move_read rfl, after_of_ok hs]
  rintro (hgone | ⟨hrefills, -⟩)
  · obtain ⟨mounted, hm, -⟩ := hread.listing
    rw [hrack, hm] at hgone
    cases hgone
  · cases hrefills

/-- **Reading on and on** leaves the listing open and, once it is read, at its end. -/
theorem Rack.Reads.readingOn (h : d.rack.Reads i entries k) (n : Nat) :
    let e := d.run (readingOn n)
    d.KeepsListing i (readingOn n) ∧
      d.place entries.length k (readingOn n) = min (k + n) entries.length ∧
      e.rack.storage = d.rack.storage ∧ e.pending = d.pending := by
  induction n generalizing d k with
  | zero => exact ⟨trivial, (Nat.min_eq_left h.bound).symm, rfl, rfl⟩
  | succ n ih =>
    obtain ⟨s, hs, hread, hstorage⟩ := h.readDirectory 32 0
    have hrack : (d.move (.call (.readDirectory 32 0))).rack = s := by
      rw [rack_move_read rfl, after_of_ok hs]
    obtain ⟨hkeeps, hplace, hlast, hpending⟩ := ih (d := d.move (.call (.readDirectory 32 0)))
      (hrack.symm ▸ hread)
    refine ⟨⟨h.keepsListing_read 32 0, hkeeps⟩, hplace.trans ?_, ?_, ?_⟩
    · omega
    · exact hlast.trans ((congrArg Rack.storage hrack).trans hstorage)
    · exact hpending.trans (pending_call d _)

/-- The frame that asks for the position. -/
def positionFrame : Bytes := ClientCommand.openFrame .getDirectoryPosition

/-- **Reading some of the topmost directory** leads to the place of that number, where the position
can be asked for. -/
theorem Device.ReadyToList.reading (h : d.ReadyToList entries) {n : Nat}
    (hn : n ≤ entries.length) :
    let e := (d.move openingTop).run (readingOn n)
    (d.move openingTop).KeepsListing 0 (readingOn n) ∧
      (d.move openingTop).place entries.length 0 (readingOn n) = n ∧
      e.rack.Reads 0 entries n ∧ e.rack.storage = d.rack.storage ∧ e.pending = .idle ∧
      asked positionFrame e = .ok (some .directoryPosition) := by
  intro e
  obtain ⟨hopen, hstorage, hidle⟩ := h.opened
  have hfirst : (d.move openingTop).rack.Reads 0 entries 0 := Rack.reads_of_opening hopen
  obtain ⟨hkeeps, hplace, hkept, hpending⟩ := hfirst.readingOn n
  rw [Nat.zero_add, Nat.min_eq_left hn] at hplace
  have hread := hfirst.run hkeeps
  rw [hplace] at hread
  have hidle : e.pending = .idle := hpending.trans hidle
  refine ⟨hkeeps, hplace, hread, hkept.trans hstorage, hidle, ?_⟩
  unfold asked
  rw [hidle]
  rfl

end ReadingOn

/-- What the directory of the card shows without a pattern. -/
def Folder.shown (t : FileTree) : List (String × Folder.Item) :=
  (t.children ["sd"]).filter fun x => Storage.isListed none x.1

theorem Folder.list_top {w : Folder.Storage} (h : w.tree.item? ["sd"] = some .dir) :
    HostStorage.list (["sd"] : Folder.Path) "/" none w = .ok
      (DirectoryEntry.inOrder ((shown w.tree).map fun x => Storage.entryOf x.1 x.2)) := by
  have hwalk : w.tree.walk ["sd"] = .ok ["sd"] := by
    have hfault : Folder.Path.fault? ["sd"] = none := by decide +kernel
    have hlimit : ¬Folder.Path.nameLimit < Text.size "sd" := by decide
    unfold Folder.FileTree.walk
    simp only [hfault, Folder.FileTree.walkFrom, List.nil_append, h, if_neg hlimit]
    rfl
  have hplace : Folder.placeBelow ["sd"] "/" = .ok ["sd"] := by decide
  have hdir : w.tree.isDirAt ["sd"] := by
    unfold Folder.FileTree.isDirAt
    rw [h]
    rfl
  show Folder.Storage.list ["sd"] "/" none w = _
  unfold Folder.Storage.list
  simp only [hplace, ok_bind, hwalk, Except.mapError, hdir, if_true]
  rfl

/-! ### Positions -/

/-- **Positions are bookmarks.** For every listing that is opened and every run that keeps it open,
with `k` the place that reading and seeking have led to: a host in memory that tells positions tells
a bookmark at `k`, as long as `k` is less than what stands for no position, and a folder tells a
bookmark at `k` or, behind the last place that a position can stand for, at that one. -/
theorem positions_are_bookmarks {D : Type} [DriveBay D] :
    (∀ (d : Device Memory.Storage String D) m o, m.opening? d = some o →
      ∀ moves, (d.move m).KeepsListing o.slot moves →
        let e := (d.move m).run moves
        let k := (d.move m).place o.entries.length 0 moves
        e.rack.storage.faults.tell = false → k < Listing.noPosition.toNat → e.Marks o k) ∧
    ∀ (d : Device Folder.Storage Folder.Path D) m o, m.opening? d = some o →
      ∀ moves, (d.move m).KeepsListing o.slot moves →
        let e := (d.move m).run moves
        let k := (d.move m).place o.entries.length 0 moves
        e.Marks o (min k (Listing.noPosition.toNat - 1)) := by
  constructor
  · intro d m o hopen moves hmoves e k htell hk
    have hread : e.rack.Reads o.slot o.entries k := (Rack.reads_of_opening hopen).run hmoves
    refine hread.marks_of_position ?_ hk hread.bound
    show (if e.rack.storage.faults.tell then Listing.noPosition else UInt16.ofNat k) = _
    rw [htell]
    rfl
  · intro d m o hopen moves hmoves e k
    have hread : e.rack.Reads o.slot o.entries k := (Rack.reads_of_opening hopen).run hmoves
    have hlast : min k (Listing.noPosition.toNat - 1) < 65535 :=
      Nat.lt_of_le_of_lt (Nat.min_le_right _ _) (by decide)
    exact hread.marks_of_position rfl hlast (Nat.le_trans (Nat.min_le_left _ _) hread.bound)

/-- A listing of three images in memory and in a folder: two of them are read, and the position
told then is a bookmark at the third one. -/
theorem positions_are_bookmarks_elite :
    let o : Opening := ⟨0, [⟨"elite.d64", false, 10, 0⟩, ⟨"pac.d64", false, 20, 0⟩,
      ⟨"zork.d64", false, 30, 0⟩]⟩
    let d : Memory.Adapter := (Memory.Surroundings.start { storage := {
      hosts := ((({} : Memory.Hosts).withFile "h" "/elite.d64" 10 0).withFile "h" "/pac.d64" 20
        0).withFile "h" "/zork.d64" 30 0 } }).run [.call (.nameHost 0 "h"), .call (.mountHost 0)]
    let image (zeros : Nat) : Folder.Item := .file { bytes := [], zeros }
    let f : Folder.Adapter := (Device.start
      (.below [] ⟨⟨[(["sd"], .dir), (["sd", "elite.d64"], image 10), (["sd", "pac.d64"], image 20),
        (["sd", "zork.d64"], image 30)]⟩⟩)
      {} (.offline Folder.hostname) Folder.board DigestAlgorithm.digest).run
        [.call (.nameHost 0 "SD"), .call (.mountHost 0)]
    let x := (d.move openingTop).run (readingOn 2)
    let y := (f.move openingTop).run (readingOn 2)
    (Move.opening? d openingTop = some o ∧ (d.move openingTop).KeepsListing 0 (readingOn 2) ∧
      (d.move openingTop).place 3 0 (readingOn 2) = 2 ∧
      x.rack.storage.faults.tell = false ∧
      asked positionFrame x = .ok (some .directoryPosition) ∧
      ∃ position ≠ Listing.noPosition, (receive positionFrame x).1.TellsPosition position ∧
        (receive positionFrame x).2.Bookmarks o 2 position) ∧
    Move.opening? f openingTop = some o ∧ (f.move openingTop).KeepsListing 0 (readingOn 2) ∧
      (f.move openingTop).place 3 0 (readingOn 2) = 2 ∧
      asked positionFrame y = .ok (some .directoryPosition) ∧
      ∃ position ≠ Listing.noPosition, (receive positionFrame y).1.TellsPosition position ∧
        (receive positionFrame y).2.Bookmarks o 2 position := by
  intro o d image f x y
  have hsorted : o.entries.Pairwise fun a b => DirectoryEntry.precedes a b := by decide
  constructor
  · have hready : d.ReadyToList o.entries := by
      have hd : d.rack.cursor.openOn = none ∧ d.pending = .idle ∧
          (d.rack.hosts.get 0).mount = some { root := "h" } ∧
          Memory.Storage.topmost (d.rack.storage.hosts.tree "h") = o.entries := by
        decide +kernel
      obtain ⟨hclosed, hidle, hmount, htop⟩ := hd
      exact Memory.readyToList hclosed hidle hmount htop hsorted
    obtain ⟨hkeeps, hplace, -, hstorage, -, hasked⟩ := hready.reading (n := 2) (by decide)
    have htell : x.rack.storage.faults.tell = false := by
      rw [hstorage]
      decide +kernel
    have hopen := hready.opened.1
    have hmarks := positions_are_bookmarks.1 d openingTop o hopen _ hkeeps htell
      (hplace ▸ by decide) positionFrame hasked
    rw [hplace] at hmarks
    exact ⟨hopen, hkeeps, hplace, htell, hasked, hmarks⟩
  · have hready : f.ReadyToList o.entries := by
      have hf : f.rack.cursor.openOn = none ∧ f.pending = .idle ∧
          (f.rack.hosts.get 0).mount = some { root := ["sd"] } ∧
          f.rack.storage.tree.item? ["sd"] = some .dir ∧
          (Folder.shown f.rack.storage.tree).map (fun x => Folder.Storage.entryOf x.1 x.2) =
            o.entries := by
        decide +kernel
      obtain ⟨hclosed, hidle, hmount, hdir, hshown⟩ := hf
      refine ⟨hclosed, hidle, _, hmount, (Folder.list_top hdir).trans ?_⟩
      rw [hshown, DirectoryEntry.inOrder_of_pairwise hsorted]
    obtain ⟨hkeeps, hplace, -, -, -, hasked⟩ := hready.reading (n := 2) (by decide)
    have hopen := hready.opened.1
    have hmarks := positions_are_bookmarks.2 f openingTop o hopen _ hkeeps positionFrame hasked
    rw [hplace] at hmarks
    exact ⟨hopen, hkeeps, hplace, hasked, hmarks⟩

/-! ### Behind the last word -/

section Behind

variable {W R D : Type} [HostStorage W R] [SettingsStore W] [KeyStorage W] [DriveBay D]
  {i : Fin 8} {entries : List DirectoryEntry} {k : Nat} {d : Device W R D}

/-- What is read of a directory is not the end mark. -/
theorem DirectoryEntry.format_ne_endMark {e : DirectoryEntry} (h : e.isDir)
    (limit options : UInt8) : e.format limit options ≠ endMark := by
  intro he
  have hlast : (e.format limit options).getLast? = some 47 := by
    unfold format
    rw [h]
    simp
  rw [he] at hlast
  exact absurd hlast (by decide)

/-- A position with a directory at it is no bookmark at the end. -/
theorem Rack.Reads.not_bookmarks {o : Opening} (h : d.rack.Reads o.slot o.entries k)
    (hd : d.pending = .idle) (hseek : HostStorage.canSeek d.rack.storage)
    (hdirs : ∀ e ∈ o.entries, e.isDir) {position : UInt16}
    (hp : position.toNat < o.entries.length) :
    ¬d.Bookmarks o o.entries.length position := by
  intro hmark
  have hm : Move.request d (.call (.seekDirectory position)) =
      .ok (some (.seekDirectory position)) := rfl
  set e := d.move (.call (.seekDirectory position)) with he
  have hread : e.rack.Reads o.slot o.entries position.toNat :=
    h.sought hm hseek (Nat.le_of_lt hp)
  have hasked : asked (Text.encode "READDIR:32") e = .ok (some (.readDirectory 32 0)) := by
    unfold asked
    rw [he, pending_call, hd]
    rfl
  have htold := hread.tells_entry hasked
  have hend := (hmark [] trivial _ hm hseek).2 [] trivial nofun _ 32 0 hasked
  have hentry := htold.2.symm.trans hend.2
  rw [List.getElem?_eq_getElem hp, List.getElem?_eq_none (Nat.le_add_right _ _)] at hentry
  exact DirectoryEntry.format_ne_endMark (hdirs _ (List.getElem_mem hp)) 32 0 hentry

end Behind

/-! ### Many directories -/

/-- A name of one character, another one for each number that a word can be. -/
def wordName (n : Nat) : String := String.ofList [Char.ofNat (65536 + n)]

theorem toNat_ofNat_cases (n : Nat) : (Char.ofNat n).toNat = n ∨ (Char.ofNat n).toNat = 0 := by
  by_cases h : n.isValidChar
  · exact .inl (congrArg Char.toNat (dif_pos h))
  · exact .inr (congrArg Char.toNat (dif_neg h))

/-- The character is no slash and no dot. -/
theorem wordName_plain (n : Nat) : ∃ c, wordName n = String.ofList [c] ∧ c ≠ '/' ∧ c ≠ '.' := by
  have h := toNat_ofNat_cases (65536 + n)
  refine ⟨_, rfl, fun hc => ?_, fun hc => ?_⟩
  · rw [hc, show '/'.toNat = 47 from rfl] at h
    omega
  · rw [hc, show '.'.toNat = 46 from rfl] at h
    omega

/-- Putting directories in order leaves their number and makes no files of them. -/
theorem inOrder_dirs {entries : List DirectoryEntry} (h : ∀ e ∈ entries, e.isDir) :
    (DirectoryEntry.inOrder entries).length = entries.length ∧
      ∀ e ∈ DirectoryEntry.inOrder entries, e.isDir := by
  have hperm : (DirectoryEntry.inOrder entries).Perm entries := List.mergeSort_perm _ _
  exact ⟨hperm.length_eq, fun e he => h e (hperm.mem_iff.1 he)⟩

/-- The nodes of directories with these names. -/
def Memory.dirsOf (names : List String) : List Memory.Node :=
  names.map fun name => .dir ("/" ++ name)

theorem directoryOf_top {c : Char} (hc : c ≠ '/') :
    Memory.directoryOf ("/" ++ String.ofList [c]) = "/" := by
  unfold Memory.directoryOf
  rw [String.toList_append, String.toList_ofList]
  simp [hc]

theorem Memory.list_dirs {w : Memory.Storage} {name : String} {n : Nat}
    (hw : w.hosts.tree name = Memory.dirsOf ((List.range n).map wordName)) :
    ∃ entries, HostStorage.list name "/" none w = .ok entries ∧ entries.length = n ∧
      ∀ e ∈ entries, e.isDir := by
  set inside := (Memory.dirsOf ((List.range n).map wordName)).reverse with hinside
  have htop : ∀ node ∈ inside, node.isDir ∧ Memory.directoryOf node.path = "/" := by
    intro node hnode
    rw [hinside, List.mem_reverse] at hnode
    obtain ⟨name, hname, rfl⟩ := List.mem_map.1 hnode
    obtain ⟨k, -, rfl⟩ := List.mem_map.1 hname
    obtain ⟨c, hc, hslash, -⟩ := wordName_plain k
    rw [hc]
    exact ⟨rfl, directoryOf_top hslash⟩
  have hlist : HostStorage.list name "/" none w =
      .ok (DirectoryEntry.inOrder (inside.map Memory.Node.entry)) := by
    rw [Memory.Storage.list_top, hw]
    unfold Memory.Storage.topmost
    rw [List.filter_eq_self.2 fun node hnode => by simp [(htop node hnode).2]]
  have hdirs : ∀ e ∈ inside.map Memory.Node.entry, e.isDir := by
    intro e he
    obtain ⟨node, hnode, rfl⟩ := List.mem_map.1 he
    exact (htop node hnode).1
  obtain ⟨hlength, hall⟩ := inOrder_dirs hdirs
  refine ⟨_, hlist, hlength.trans ?_, hall⟩
  simp [hinside, Memory.dirsOf]

/-- A folder with directories of these names in one directory. -/
def Folder.itemsOf (dir : String) (names : List String) : List (Folder.Path × Folder.Item) :=
  ([dir], .dir) :: names.map fun name => ([dir, name], .dir)

/-- The directory is there. -/
theorem Folder.item?_itemsOf {t : FileTree} {dir : String} {names : List String}
    (ht : t.items.entries = itemsOf dir names) : t.item? [dir] = some .dir := by
  unfold FileTree.item? Catalog.get?
  rw [ht]
  simp [itemsOf]

theorem Folder.children_itemsOf {t : FileTree} {dir : String} {names : List String}
    (ht : t.items.entries = itemsOf dir names) :
    t.children [dir] = names.map fun name => (name, .dir) := by
  unfold FileTree.children
  rw [ht]
  unfold itemsOf
  rw [List.filterMap_cons, List.filterMap_map]
  simp

/-- The name does not hide what has it. -/
theorem Folder.isListed_wordName (n : Nat) : Storage.isListed none (wordName n) := by
  obtain ⟨c, hc, -, hdot⟩ := wordName_plain n
  unfold Storage.isListed
  rw [hc, String.startsWith_string_eq_false_iff.2]
  · rfl
  · rw [String.toList_ofList]
    simpa using fun h => hdot h.symm

theorem Folder.list_dirs {w : Folder.Storage} {n : Nat}
    (hw : w.tree.items.entries = Folder.itemsOf "sd" ((List.range n).map wordName)) :
    ∃ entries, HostStorage.list (["sd"] : Folder.Path) "/" none w = .ok entries ∧
      entries.length = n ∧ ∀ e ∈ entries, e.isDir := by
  set names := (List.range n).map wordName with hnames
  have hchildren := children_itemsOf hw
  have hlisted : ∀ x ∈ names.map fun name => (name, Folder.Item.dir),
      Folder.Storage.isListed none x.1 := by
    intro x hx
    obtain ⟨name, hname, rfl⟩ := List.mem_map.1 hx
    obtain ⟨k, -, rfl⟩ := List.mem_map.1 hname
    exact isListed_wordName k
  have hlist : HostStorage.list (["sd"] : Folder.Path) "/" none w =
      .ok (DirectoryEntry.inOrder (names.map fun name => Folder.Storage.entryOf name .dir)) := by
    rw [list_top (item?_itemsOf hw)]
    unfold shown
    rw [hchildren, List.filter_eq_self.2 hlisted, List.map_map]
    rfl
  have hdirs : ∀ e ∈ names.map fun name => Folder.Storage.entryOf name .dir, e.isDir := by
    intro e he
    obtain ⟨name, -, rfl⟩ := List.mem_map.1 he
    rfl
  obtain ⟨hlength, hall⟩ := inOrder_dirs hdirs
  refine ⟨_, hlist, hlength.trans ?_, hall⟩
  simp [hnames]

/-! ### The end of long listings -/

section Long

variable {W R D : Type} [HostStorage W R] [SettingsStore W] [KeyStorage W] [DriveBay D]

/-- When the topmost directory is opened and `n` entries are read, the listing is at place `n`, and
the position that is told there is none, or is no bookmark at that place. -/
def Device.LosesPlace (d : Device W R D) (n : Nat) (position : UInt16) : Prop :=
  ∃ o, Move.opening? d openingTop = some o ∧
    (d.move openingTop).KeepsListing o.slot (readingOn n) ∧
    (d.move openingTop).place o.entries.length 0 (readingOn n) = n ∧
    let e := (d.move openingTop).run (readingOn n)
    asked positionFrame e = .ok (some .directoryPosition) ∧
      (receive positionFrame e).1.TellsPosition position ∧
      (position = Listing.noPosition ∨ ¬(receive positionFrame e).2.Bookmarks o n position)

variable {d : Device W R D} {entries : List DirectoryEntry}

/-- **Behind the positions that a word can stand for, the place is lost**: where the host tells no
position or, at the end of nothing but directories, one before the end. -/
theorem Device.ReadyToList.losesPlace (h : d.ReadyToList entries) {n : Nat} {position : UInt16}
    (hn : n ≤ entries.length) (hdirs : ∀ e ∈ entries, e.isDir)
    (hseek : HostStorage.canSeek d.rack.storage)
    (hposition : HostStorage.position d.rack.storage n = position)
    (hp : position = Listing.noPosition ∨ n = entries.length ∧ position.toNat < n) :
    d.LosesPlace n position := by
  obtain ⟨hkeeps, hplace, hread, hstorage, hidle, hasked⟩ := h.reading hn
  set e := (d.move openingTop).run (readingOn n)
  have htold := hread.tells_position hasked
  rw [hstorage, hposition] at htold
  refine ⟨⟨0, entries⟩, h.opened.1, hkeeps, hplace, hasked, htold, hp.imp_right fun hp => ?_⟩
  obtain ⟨rfl, hp⟩ := hp
  have hrack := hread.rack_told hasked
  have hidle : (receive positionFrame e).2.pending = .idle := by
    rw [pending_receive, hidle]
    rfl
  have hafter : (receive positionFrame e).2.rack.Reads 0 entries entries.length := hrack ▸ hread
  exact Rack.Reads.not_bookmarks (o := ⟨0, entries⟩) hafter hidle
    (by rw [hrack, hstorage]; exact hseek) hdirs hp

end Long

/-- A host in memory is mounted, and then `n` directories are made on it. -/
def Memory.crowded (n : Nat) : Memory.Adapter :=
  (Memory.Surroundings.start { storage := { hosts := ({} : Memory.Hosts).withHost "h" } }).run
    [.call (.nameHost 0 "h"), .call (.mountHost 0),
      .outside (Memory.Storage.changeHosts fun h =>
        { h with trees := h.trees.put "h" (Memory.dirsOf ((List.range n).map wordName)) }) id id]

/-- The card of a folder is mounted, and then `n` directories are made on it. -/
def Folder.crowded (n : Nat) : Folder.Adapter :=
  (Device.start (.below [] ⟨⟨[(["sd"], .dir)]⟩⟩) {} (.offline Folder.hostname) Folder.board
    DigestAlgorithm.digest).run
      [.call (.nameHost 0 "SD"), .call (.mountHost 0),
        .outside (fun w => { w with
          tree := ⟨⟨Folder.itemsOf "sd" ((List.range n).map wordName)⟩⟩ }) id id]

theorem Memory.readyToList_crowded (n : Nat) :
    (∃ entries, (crowded n).ReadyToList entries ∧ entries.length = n ∧ ∀ e ∈ entries, e.isDir) ∧
      (crowded n).rack.storage.faults = {} := by
  -- what the directories are makes no difference until they are listed
  let d : Memory.Adapter := (Memory.Surroundings.start { storage := {
    hosts := ({} : Memory.Hosts).withHost "h" } }).run
      [.call (.nameHost 0 "h"), .call (.mountHost 0)]
  have hd : d.rack.cursor.openOn = none ∧ d.pending = .idle ∧
      (d.rack.hosts.get 0).mount = some { root := "h" } ∧ d.rack.storage.faults = {} := by
    decide +kernel
  have hsame : (crowded n).rack.cursor = d.rack.cursor ∧ (crowded n).pending = d.pending ∧
    (crowded n).rack.hosts = d.rack.hosts ∧
    (crowded n).rack.storage.faults = d.rack.storage.faults := ⟨rfl, rfl, rfl, rfl⟩
  have htree : (crowded n).rack.storage.hosts.tree "h" = dirsOf ((List.range n).map wordName) :=
    congrArg (Option.getD · []) (Catalog.get?_put_self _ "h" _)
  obtain ⟨hclosed, hidle, hmount, hfaults⟩ := hd
  obtain ⟨entries, hlist, hlength, hdirs⟩ := list_dirs htree
  exact ⟨⟨entries, ⟨hsame.1 ▸ hclosed, hsame.2.1 ▸ hidle, _, hsame.2.2.1 ▸ hmount, hlist⟩,
    hlength, hdirs⟩, hsame.2.2.2.trans hfaults⟩

theorem Folder.readyToList_crowded (n : Nat) :
    ∃ entries, (crowded n).ReadyToList entries ∧ entries.length = n ∧ ∀ e ∈ entries, e.isDir := by
  let f : Folder.Adapter := (Device.start (.below [] ⟨⟨[(["sd"], .dir)]⟩⟩) {}
    (.offline Folder.hostname) Folder.board DigestAlgorithm.digest).run
      [.call (.nameHost 0 "SD"), .call (.mountHost 0)]
  have hf : f.rack.cursor.openOn = none ∧ f.pending = .idle ∧
      (f.rack.hosts.get 0).mount = some { root := ["sd"] } := by
    decide +kernel
  have hsame : (crowded n).rack.cursor = f.rack.cursor ∧ (crowded n).pending = f.pending ∧
    (crowded n).rack.hosts = f.rack.hosts := ⟨rfl, rfl, rfl⟩
  obtain ⟨hclosed, hidle, hmount⟩ := hf
  obtain ⟨entries, hlist, hlength, hdirs⟩ := list_dirs (w := (crowded n).rack.storage) rfl
  exact ⟨entries, ⟨hsame.1 ▸ hclosed, hsame.2.1 ▸ hidle, _, hsame.2.2 ▸ hmount, hlist⟩,
    hlength, hdirs⟩

/-- On a host in memory with as many directories as there are words, no position is told when all
but one have been read, and at the end the position of the first one is told. In a folder with one
directory less, the position of the last one is told at the end. -/
theorem place_lost_behind_words :
    (Memory.crowded 65536).LosesPlace 65535 0xFFFF ∧ (Memory.crowded 65536).LosesPlace 65536 0 ∧
      (Folder.crowded 65535).LosesPlace 65535 65534 := by
  obtain ⟨⟨entries, hready, hlength, hdirs⟩, hfaults⟩ := Memory.readyToList_crowded 65536
  obtain ⟨files, hfready, hcount, hfileDirs⟩ := Folder.readyToList_crowded 65535
  have hseek : HostStorage.canSeek (Memory.crowded 65536).rack.storage := by
    show (!(Memory.crowded 65536).rack.storage.faults.seek) = true
    rw [hfaults]
    rfl
  have hposition (n : Nat) :
      HostStorage.position (Memory.crowded 65536).rack.storage n = UInt16.ofNat n := by
    show (if (Memory.crowded 65536).rack.storage.faults.tell then _ else _) = _
    rw [hfaults]
    rfl
  generalize Memory.crowded 65536 = d at *
  generalize Folder.crowded 65535 = f at *
  refine ⟨?_, ?_, ?_⟩
  · exact hready.losesPlace (by omega) hdirs hseek (hposition 65535) (.inl rfl)
  · exact hready.losesPlace (by omega) hdirs hseek (hposition 65536)
      (.inr ⟨hlength.symm, by decide⟩)
  · exact hfready.losesPlace (by omega) hfileDirs rfl rfl (.inr ⟨hcount.symm, by decide⟩)

end StorageAdapter
