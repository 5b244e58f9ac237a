import StorageAdapter.Proofs.EntryFormat
import StorageAdapter.Proofs.ListingReplies

/-! # The end mark

A client learns of the end of a listing by two bytes, and some names read as these two bytes
(`LooksLikeEnd`). A client that reads a listing to its end (`Device.ReadsToEnd`) is told the entries
before the first such one, and so all of them exactly if there is none. -/

namespace StorageAdapter

open StorageAdapter.Action StorageAdapter.Device

/-! ### Entries that read as the end -/

namespace DirectoryEntry

/-- A file whose name begins with the two bytes of the end mark, read without a record into a buffer
that has room for these two and, if there is more of the name, for neither its next character nor
dots. -/
def LooksLikeEnd (e : DirectoryEntry) (limit options : UInt8) : Prop :=
  isExtended options = false ∧ e.isDir = false ∧ 2 ≤ limit.toNat ∧
    ∃ rest, e.name.toList = '\x7f' :: '\x7f' :: rest ∧
      ∀ c ∈ rest.head?, limit.toNat < 5 ∧ limit.toNat < 2 + c.utf8Size

theorem encode_eq_endMark_iff {s : String} : Text.encode s = endMark ↔ s = "\x7f\x7f" := by
  constructor
  · intro h
    have hdecoded := congrArg Text.decodeLossy h
    rw [Text.decodeLossy_encode] at hdecoded
    exact hdecoded.trans (by decide)
  · rintro rfl
    decide

/-- A dotted text is not the one that reads as the end mark. -/
theorem dotted_ne (front back : String) : front ++ "..." ++ back ≠ "\x7f\x7f" := by
  intro h
  have hdot : '.' ∈ (front ++ "..." ++ back).toList := by simp
  rw [h] at hdot
  exact absurd hdot (by decide)

/-- Texts that are shown as the one that reads as the end mark. -/
theorem shorten_eq_mark_iff {limit : Nat} {s : String} : Text.shorten limit s = "\x7f\x7f" ↔
    2 ≤ limit ∧ ∃ rest, s.toList = '\x7f' :: '\x7f' :: rest ∧
      ∀ c ∈ rest.head?, limit < 5 ∧ limit < 2 + c.utf8Size := by
  have hwidth : Text.width ['\x7f', '\x7f'] = 2 := by decide
  constructor
  · intro h
    have hle := Text.size_shorten_le limit s
    rw [h] at hle
    refine ⟨hle, ?_⟩
    unfold Text.shorten at h
    split at h
    · exact ⟨[], by rw [h]; rfl, nofun⟩
    · split at h
      · next hdots =>
        have hcut := congrArg String.toList h
        unfold Text.clip at hcut
        rw [String.toList_ofList] at hcut
        obtain ⟨rest, hrest, -, hnext⟩ := Text.headWithin_eq_iff.1 hcut
        exact ⟨rest, hrest.symm, fun c hc => ⟨hdots, hnext c hc⟩⟩
      · exact absurd h (dotted_ne _ _)
  · rintro ⟨hle, rest, hs, hnext⟩
    have hcut : Text.clip limit s = "\x7f\x7f" := by
      unfold Text.clip
      rw [Text.headWithin_eq_iff.2 ⟨rest, hs.symm, hwidth ▸ hle, fun c hc => (hnext c hc).2⟩]
    unfold Text.shorten
    split
    · next hfits => rwa [Text.clip_of_size_le hfits] at hcut
    · next hlong =>
      -- there is more of the text, as it does not fit
      rcases rest with _ | ⟨c, rest⟩
      · rw [Text.size_eq_width, hs, hwidth] at hlong
        exact absurd hle hlong
      · rw [if_pos (hnext c rfl).1, hcut]

/-- **What reads as the end mark.** -/
theorem format_eq_endMark_iff {e : DirectoryEntry} {limit options : UInt8} :
    e.format limit options = endMark ↔ e.LooksLikeEnd limit options := by
  have hformat := e.format_eq limit options
  unfold LooksLikeEnd
  rcases hext : isExtended options
  · rcases hdir : e.isDir
    · have hroom : e.nameRoom limit options = limit.toNat := by
        unfold nameRoom
        rw [hext, hdir]
        rfl
      rw [hext, hdir, if_neg Bool.false_ne_true, if_neg Bool.false_ne_true, List.nil_append,
        List.append_nil, shownName, hroom] at hformat
      rw [hformat, encode_eq_endMark_iff, shorten_eq_mark_iff]
      exact ⟨fun h => ⟨rfl, rfl, h⟩, fun h => h.2.2⟩
    · -- the slash is no byte of the mark
      refine iff_of_false (fun h => ?_) fun h => absurd h.2.1 (by decide)
      rw [hdir, if_pos rfl] at hformat
      have hlast := congrArg List.getLast? (hformat.symm.trans h)
      rw [List.getLast?_concat] at hlast
      exact absurd hlast (by decide)
  · -- the record is longer than the mark
    refine iff_of_false (fun h => ?_) fun h => absurd h.1 (by decide)
    have hlength := e.length_format limit options
    rw [h, overhead, hext] at hlength
    simp only [if_true, endMark, List.length_cons, List.length_nil] at hlength
    omega

end DirectoryEntry

/-! ### Reading to the end -/

/-- What a client takes for the entries that are left, if it reads them to the end. -/
def taken (limit options : UInt8) (entries : List DirectoryEntry) : List Bytes :=
  (entries.map (·.format limit options)).takeWhile (· != DirectoryEntry.endMark)

theorem taken_drop (limit options : UInt8) (entries : List DirectoryEntry) (k : Nat) :
    let data := (entries[k]?.map (·.format limit options)).getD DirectoryEntry.endMark
    taken limit options (entries.drop k) = if data = DirectoryEntry.endMark then [] else
      data :: taken limit options (entries.drop (min (k + 1) entries.length)) := by
  intro data
  unfold taken
  rcases he : entries[k]? with _ | e
  · have hdata : data = DirectoryEntry.endMark := by
      show (entries[k]?.map _).getD _ = _
      rw [he]
      rfl
    rw [if_pos hdata, List.drop_eq_nil_of_le (List.getElem?_eq_none_iff.1 he)]
    rfl
  · have hdata : data = e.format limit options := by
      show (entries[k]?.map _).getD _ = _
      rw [he]
      rfl
    obtain ⟨hk, rfl⟩ := List.getElem?_eq_some_iff.1 he
    rw [hdata, Nat.min_eq_left hk, List.drop_eq_getElem_cons hk, List.map_cons,
      List.takeWhile_cons]
    simp only [bne_iff_ne, ne_eq, ite_not]

section Client

variable {W R D : Type} [HostStorage W R] [SettingsStore W] [KeyStorage W] [DriveBay D]

/-- A frame asks for an entry, and whatever was done before it left the listing open and neither
read nor sought. -/
structure Device.AsksNext (i : Fin 8) (limit options : UInt8) (d : Device W R D)
    (moves : List (Move W D)) (payload : Bytes) : Prop where
  keeps : d.KeepsListing i moves
  calm : ∀ r ∈ d.requests moves, ¬r.reads ∧ ¬r.seeks
  asks : asked payload (d.run moves) = .ok (some (.readDirectory limit options))

/-- A client that reads a listing to its end: it asks for one entry after the other, by opcodes or
lines, until it is told the end mark. What it was told before is what it takes for the entries. -/
inductive Device.ReadsToEnd (i : Fin 8) (limit options : UInt8) :
    Device W R D → List Bytes → Prop where
  | ended {d : Device W R D} {moves : List (Move W D)} {payload : Bytes}
      (hasks : d.AsksNext i limit options moves payload)
      (htold : (receive payload (d.run moves)).1.Tells (.ok DirectoryEntry.endMark)) :
      ReadsToEnd i limit options d []
  | entry {d : Device W R D} {moves : List (Move W D)} {payload data : Bytes} {told : List Bytes}
      (hasks : d.AsksNext i limit options moves payload)
      (htold : (receive payload (d.run moves)).1.Tells (.ok data))
      (hdata : data ≠ DirectoryEntry.endMark)
      (hrest : ReadsToEnd i limit options (receive payload (d.run moves)).2 told) :
      ReadsToEnd i limit options d (data :: told)

variable {i : Fin 8} {entries : List DirectoryEntry} {k : Nat} {d : Device W R D}
  {limit options : UInt8}

/-- **The frame that asks for an entry** is told the one at the place of the listing, which moves on
by one. -/
theorem Device.AsksNext.told (h : d.rack.Reads i entries k) {moves : List (Move W D)}
    {payload : Bytes} (hasks : d.AsksNext i limit options moves payload) :
    (receive payload (d.run moves)).1.Tells
        (.ok ((entries[k]?.map (·.format limit options)).getD DirectoryEntry.endMark)) ∧
      (receive payload (d.run moves)).2.rack.Reads i entries (min (k + 1) entries.length) := by
  have hplace : d.place entries.length k moves = k := by
    have hnone : (d.requests moves).countP Request.reads = 0 :=
      List.countP_eq_zero.2 fun r hr => (hasks.calm r hr).1
    rw [place_of_reads h.bound fun r hr => (hasks.calm r hr).2, hnone]
    exact Nat.min_eq_left h.bound
  have hread := h.run hasks.keeps
  rw [hplace] at hread
  obtain ⟨s, hs, hnext, -⟩ := hread.readDirectory limit options
  have hrack := rack_move_read (m := .frame payload) hasks.asks
  rw [after_of_ok hs] at hrack
  exact ⟨hread.tells_entry hasks.asks, hrack ▸ hnext⟩

/-- A move that asks for nothing and leaves the rack as it is leaves the listing open. -/
theorem Rack.Reads.keepsListing_idle (h : d.rack.Reads i entries k) {m : Move W D}
    (hreset : m ≠ .resetBus) (hnone : m.request d = .ok none) (hrack : (d.move m).rack = d.rack) :
    m.KeepsListing i d := by
  refine ⟨?_, hreset, ?_⟩
  · rw [hnone]
    exact Bool.false_ne_true
  · obtain ⟨mounted, hm, -⟩ := h.listing
    rintro (hgone | ⟨hrefills, -⟩)
    · rw [hrack, hm] at hgone
      cases hgone
    · rw [hnone] at hrefills
      cases hrefills

/-- A client asks by the opcode: its frame does nothing yet, and the next frame is its data. -/
theorem asksNext_opcode (h : d.rack.Reads i entries k) (hd : d.pending = .idle)
    (limit options : UInt8) :
    d.AsksNext i limit options [.frame (ClientCommand.openFrame .readDirEntry)]
      [limit, options] := by
  set frame := ClientCommand.openFrame .readDirEntry
  have hnone : asked frame d = .ok none := by
    unfold asked
    rw [hd]
    rfl
  have hopened : (receive frame d).2.rack = d.rack ∧
      (receive frame d).2.pending = .waiting .readDirEntry := by
    obtain ⟨status, he⟩ := receive_eq frame d
    rw [he, hnone, hd]
    exact ⟨rfl, rfl⟩
  refine ⟨⟨h.keepsListing_idle nofun hnone hopened.1, trivial⟩, fun r hr => ?_, ?_⟩
  · obtain rfl : r = asked frame d := List.mem_singleton.1 hr
    rw [hnone]
    exact ⟨Bool.false_ne_true, Bool.false_ne_true⟩
  · show asked [limit, options] (receive frame d).2 = _
    unfold asked
    rw [hopened.2]
    rfl

/-- **A client can read the listing to its end.** The induction is on the entries that are left. -/
theorem Rack.Reads.exists_readsToEnd (h : d.rack.Reads i entries k) (hd : d.pending = .idle)
    (limit options : UInt8) : ∃ told, d.ReadsToEnd i limit options told := by
  induction hn : entries.length - k generalizing d k with
  | zero =>
    have hasks := asksNext_opcode h hd limit options
    have htold := (hasks.told h).1
    rw [List.getElem?_eq_none (Nat.le_of_sub_eq_zero hn)] at htold
    exact ⟨[], .ended hasks htold⟩
  | succ n ih =>
    have hasks := asksNext_opcode h hd limit options
    obtain ⟨htold, hnext⟩ := hasks.told h
    by_cases hend : (entries[k]?.map (·.format limit options)).getD DirectoryEntry.endMark =
        DirectoryEntry.endMark
    · exact ⟨[], .ended hasks (hend ▸ htold)⟩
    · rw [Nat.min_eq_left (by omega)] at hnext
      have hidle : (receive [limit, options]
          (d.run [.frame (ClientCommand.openFrame .readDirEntry)])).2.pending = .idle := by
        rw [pending_receive]
        show ((receive (ClientCommand.openFrame .readDirEntry) d).2.pending).next _ = _
        rw [pending_receive, hd]
        rfl
      obtain ⟨told, hrest⟩ := ih hnext hidle (by omega)
      exact ⟨_, .entry hasks htold hend hrest⟩

/-- **What is told of a listing that is read to its end** are the entries before the first one that
reads as the end mark. -/
theorem Device.ReadsToEnd.told_eq {told : List Bytes} (hr : d.ReadsToEnd i limit options told)
    (h : d.rack.Reads i entries k) : told = taken limit options (entries.drop k) := by
  induction hr generalizing k with
  | ended hasks htold =>
    have hend := (hasks.told h).1.2.symm.trans htold.2
    rw [taken_drop, if_pos hend]
  | entry hasks htold hdata hrest ih =>
    obtain ⟨hentry, hnext⟩ := hasks.told h
    have heq := hentry.2.symm.trans htold.2
    rw [taken_drop, heq, if_neg hdata, ← ih hnext]

/-- All entries of a listing are taken for entries if none reads as the end mark. -/
theorem taken_eq_iff : taken limit options entries = entries.map (·.format limit options) ↔
    ∀ e ∈ entries, ¬e.LooksLikeEnd limit options := by
  unfold taken
  induction entries with
  | nil => exact iff_of_true rfl nofun
  | cons e entries ih =>
    rw [List.map_cons, List.takeWhile_cons, List.forall_mem_cons, ← ih,
      ← DirectoryEntry.format_eq_endMark_iff]
    by_cases h : e.format limit options = DirectoryEntry.endMark <;> simp [h]

open DirectoryEntry in
/-- **What is told as the end may be a file.** An entry reads as the end mark exactly if it looks
like it. For every listing that is opened, a client can read it to the end, with any options and any
limit; however it does, and whatever is done in between that leaves the listing open and its place
as it is, it is told the entries before the first one that looks like the end, and so it is told all
of them exactly if none does. -/
theorem listing_read_to_end_iff :
    (∀ (e : DirectoryEntry) (limit options : UInt8),
      e.format limit options = endMark ↔ e.LooksLikeEnd limit options) ∧
    ∀ (d : Device W R D) (m : Move W D) (o : Opening), m.opening? d = some o →
      ∀ limit options,
        ((d.move m).pending = .idle → ∃ told, (d.move m).ReadsToEnd o.slot limit options told) ∧
        ∀ told, (d.move m).ReadsToEnd o.slot limit options told →
          told = (o.entries.map (·.format limit options)).takeWhile (· != endMark) ∧
          (told = o.entries.map (·.format limit options) ↔
            ∀ e ∈ o.entries, ¬e.LooksLikeEnd limit options) := by
  refine ⟨fun e limit options => format_eq_endMark_iff, fun d m o hopen limit options => ?_⟩
  have hread : (d.move m).rack.Reads o.slot o.entries 0 := Rack.reads_of_opening hopen
  refine ⟨fun hidle => hread.exists_readsToEnd hidle limit options, fun told htold => ?_⟩
  obtain rfl : told = taken limit options o.entries := htold.told_eq hread
  exact ⟨rfl, taken_eq_iff⟩

end Client

/-- A listing of three images is read to its end, the last one of them named by one character of
the two that look like the end. -/
theorem listing_read_to_end_elite :
    let d : Memory.Adapter := (Memory.Surroundings.start { storage := {
      hosts := ((({} : Memory.Hosts).withFile "h" "/elite.d64" 10 0).withFile "h" "/pac.d64" 20
        0).withFile "h" "/\x7f" 30 0 } }).run [.call (.nameHost 0 "h"), .call (.mountHost 0)]
    let entries : List DirectoryEntry :=
      [⟨"elite.d64", false, 10, 0⟩, ⟨"pac.d64", false, 20, 0⟩, ⟨"\x7f", false, 30, 0⟩]
    Move.opening? d openingTop = some ⟨0, entries⟩ ∧ (d.move openingTop).pending = .idle ∧
      (∃ told, (d.move openingTop).ReadsToEnd 0 32 0 told) ∧
      ∀ told, (d.move openingTop).ReadsToEnd 0 32 0 told →
        told = ["elite.d64", "pac.d64", "\x7f"].map Text.encode := by
  intro d entries
  have hready : d.ReadyToList entries := by
    have hd : d.rack.cursor.openOn = none ∧ d.pending = .idle ∧
        (d.rack.hosts.get 0).mount = some { root := "h" } ∧
        Memory.Storage.topmost (d.rack.storage.hosts.tree "h") = entries := by
      decide +kernel
    obtain ⟨hclosed, hidle, hmount, htop⟩ := hd
    exact Memory.readyToList hclosed hidle hmount htop (by decide)
  obtain ⟨hopen, -, hidle⟩ := hready.opened
  obtain ⟨hreads, htold⟩ := listing_read_to_end_iff.2 d openingTop ⟨0, entries⟩ hopen 32 0
  have htaken : (entries.map (·.format 32 0)).takeWhile (· != DirectoryEntry.endMark) =
      ["elite.d64", "pac.d64", "\x7f"].map Text.encode := by decide
  exact ⟨hopen, hidle, hreads hidle, fun told h => (htold told h).1.trans htaken⟩

/-- The name of an image is cut to what reads as the end mark, so a client with room for two bytes
takes the listing for an empty one. -/
theorem listing_taken_for_empty :
    let game : DirectoryEntry := ⟨"\x7f\x7fgame.d64", false, 683, 0⟩
    let d : Memory.Adapter := (Memory.Surroundings.start { storage := {
      hosts := ({} : Memory.Hosts).withFile "h" "/\x7f\x7fgame.d64" 683 0 } }).run
        [.call (.nameHost 0 "h"), .call (.mountHost 0)]
    let m : Move Memory.Storage Memory.Drives := .call (.openDirectory 0 "/" none)
    '/' ∉ game.name.toList ∧ game.format 2 0 = DirectoryEntry.endMark ∧
      m.opening? d = some ⟨0, [game]⟩ ∧ (d.move m).ReadsToEnd 0 2 0 [] := by
  intro game d m
  have hgame : game.format 2 0 = DirectoryEntry.endMark := by decide
  have hopen : m.opening? d = some ⟨0, [game]⟩ := by decide +kernel
  have hidle : (d.move m).pending = .idle := by decide +kernel
  have hread : (d.move m).rack.Reads 0 [game] 0 := Rack.reads_of_opening hopen
  have hasks := asksNext_opcode hread hidle 2 0
  have htold := (hasks.told hread).1
  exact ⟨by decide, hgame, hopen, .ended hasks (hgame ▸ htold)⟩

end StorageAdapter
