import StorageAdapter.Memory.Adapter
import StorageAdapter.Proofs.KeySession
import StorageAdapter.Proofs.Memory

/-! # Key files on a card in memory

Every key has a file of its own (`AppKey.filename_inj`), in a directory that a write makes first.
A write under a key that may be written, with the card in place, replaces that file
(`card_writeKey`); no other move changes the card (`card_move`). -/

namespace StorageAdapter

open StorageAdapter.Action StorageAdapter.Device

/-! ### Names of key files -/

namespace Bytes

theorem hexDigit_inj : ∀ m < 16, ∀ n < 16, hexDigit m = hexDigit n → m = n := by decide

theorem hexDigit_ne_slash : ∀ n < 16, hexDigit n ≠ '/' := by decide

theorem hexPair_inj {a b : UInt8} (h : hexPair a = hexPair b) : a = b := by
  have ha := a.toNat_lt
  have hb := b.toNat_lt
  obtain ⟨hhigh, hlow⟩ : hexDigit (a.toNat / 16) = hexDigit (b.toNat / 16) ∧
      hexDigit (a.toNat % 16) = hexDigit (b.toNat % 16) := by
    simpa [hexPair] using h
  have hdiv := hexDigit_inj _ (by omega) _ (by omega) hhigh
  have hmod := hexDigit_inj _ (by omega) _ (by omega) hlow
  exact UInt8.toNat_inj.1 (by omega)

theorem flatMap_hexPair_injective : Function.Injective (List.flatMap hexPair) := by
  intro xs
  induction xs with
  | nil =>
    rintro (_ | ⟨y, ys⟩) h
    · rfl
    · cases h
  | cons x xs ih =>
    rintro (_ | ⟨y, ys⟩) h
    · cases h
    · rw [List.flatMap_cons, List.flatMap_cons] at h
      obtain ⟨hpair, hrest⟩ := List.append_inj h rfl
      rw [hexPair_inj hpair, ih hrest]

theorem hex_injective : Function.Injective hex := fun _ _ h =>
  flatMap_hexPair_injective (String.ofList_injective h)

theorem slash_notMem_hex (bs : Bytes) : '/' ∉ (hex bs).toList := by
  unfold hex
  rw [String.toList_ofList, List.mem_flatMap]
  rintro ⟨b, -, hb⟩
  have hlt := b.toNat_lt
  unfold hexPair at hb
  rcases List.mem_cons.1 hb with h | h
  · exact hexDigit_ne_slash _ (by omega) h.symm
  · exact hexDigit_ne_slash _ (by omega) (List.mem_singleton.1 h).symm

end Bytes

namespace AppKey

theorem creator_inj {c c' : UInt16}
    (hhigh : UInt8.ofNat (c.toNat / 256) = UInt8.ofNat (c'.toNat / 256))
    (hlow : UInt8.ofNat c.toNat = UInt8.ofNat c'.toNat) : c = c' := by
  have hc := c.toNat_lt
  have hc' := c'.toNat_lt
  have hhigh := congrArg UInt8.toNat hhigh
  have hlow := congrArg UInt8.toNat hlow
  rw [UInt8.toNat_ofNat', UInt8.toNat_ofNat'] at hhigh hlow
  exact UInt16.toNat_inj.1 (by omega)

/-- **Different keys have different files.** -/
theorem filename_inj {k k' : AppKey} : k.filename = k'.filename ↔ k.name = k'.name := by
  constructor
  · intro h
    have hhex := (String.append_right_inj _).1 ((String.append_left_inj _).1 h)
    obtain ⟨hhigh, hlow, happ, hkey⟩ : UInt8.ofNat (k.creator.toNat / 256) =
          UInt8.ofNat (k'.creator.toNat / 256) ∧
        UInt8.ofNat k.creator.toNat = UInt8.ofNat k'.creator.toNat ∧
          k.app = k'.app ∧ k.key = k'.key := by
      simpa only [List.cons.injEq, and_true] using Bytes.hex_injective hhex
    unfold name
    rw [creator_inj hhigh hlow, happ, hkey]
  · intro h
    obtain ⟨hcreator, happ, hkey⟩ : k.creator = k'.creator ∧ k.app = k'.app ∧ k.key = k'.key := by
      simpa [name] using h
    unfold filename
    rw [hcreator, happ, hkey]

end AppKey

/-! ### The card -/

namespace Memory.Card

theorem dirOf_append {dir base : String} (h : '/' ∉ base.toList) :
    dirOf (dir ++ "/" ++ base) = dir := by
  have hbase : ∀ c ∈ base.toList.reverse, (c != '/') = true := by
    intro c hc
    rw [bne_iff_ne]
    rintro rfl
    exact h (List.mem_reverse.1 hc)
  have hpath : (dir ++ "/" ++ base).toList.reverse =
      base.toList.reverse ++ '/' :: dir.toList.reverse := by
    simp
  unfold dirOf
  rw [hpath, List.dropWhile_append_of_pos hbase, List.dropWhile_cons_of_neg (by decide),
    List.tail_cons, List.reverse_reverse, String.ofList_toList]

theorem dirOf_filename (k : AppKey) : dirOf k.filename = AppKey.directory := by
  have hslash : '/' ∉ (Bytes.hex [UInt8.ofNat (k.creator.toNat / 256),
      UInt8.ofNat k.creator.toNat, k.app, k.key] ++ ".key").toList := by
    rw [String.toList_append, List.mem_append, not_or]
    exact ⟨Bytes.slash_notMem_hex _, by decide⟩
  unfold AppKey.filename
  rw [String.append_assoc, dirOf_append hslash]

/-- The directories of a card on which keys were written. -/
def keyDirs (c : Card) : List String :=
  if AppKey.directory ∈ c.dirs then c.dirs else c.dirs ++ [AppKey.directory]

theorem directory_mem_keyDirs (c : Card) : AppKey.directory ∈ c.keyDirs := by
  unfold keyDirs
  split
  · next h => exact h
  · exact List.mem_concat_self

/-- The card after a write under a key. -/
def withKey (k : AppKey) (data : Bytes) (c : Card) : Card :=
  { c with
    dirs := c.keyDirs
    files := c.files.put k.filename (c.stored (data.take AppKey.limit)) }

theorem createDir_apply (c : Card) :
    KeyStorage.createDir AppKey.directory c = .ok ⟨⟩ { c with dirs := c.keyDirs } := by
  show EStateM.Result.ok PUnit.unit (if AppKey.directory ∈ c.dirs then c
    else { c with dirs := c.dirs ++ [AppKey.directory] }) = _
  unfold keyDirs
  split <;> rfl

theorem write_apply (k : AppKey) (bs : Bytes) {c : Card} (h : AppKey.directory ∈ c.dirs) :
    KeyStorage.write k.filename bs c =
      .ok (c.stored bs).length (c.withFile k.filename (c.stored bs)) := by
  have hdir : ¬(dirOf k.filename ≠ "" ∧ dirOf k.filename ∉ c.dirs) := by
    rw [dirOf_filename]
    exact fun hn => hn.2 h
  show write k.filename bs c = _
  unfold write
  rw [bind_apply, get_apply]
  simp only [if_neg hdir]
  rfl

end Memory.Card

namespace Memory.Storage

variable {k : AppKey} {w : Storage}

/-- A write that is refused leaves the storage as it is. -/
theorem writeFile_refused (h : ¬(k.Writable ∧ w.card.inserted)) (data : Bytes) :
    ∃ e, KeySession.writeFile k data w = .error e w := by
  by_cases hk : k.creator = 0 ∨ k.access ≠ .write
  · refine ⟨.parameter "creator information missing", ?_⟩
    unfold KeySession.writeFile
    rw [if_pos hk]
    rfl
  · have hcard : KeyStorage.available w = false := by
      rw [not_or, not_not] at hk
      exact Bool.eq_false_iff.2 fun hw => h ⟨hk, hw⟩
    refine ⟨.noCard, ?_⟩
    unfold KeySession.writeFile
    rw [if_neg hk]
    simp [bind_apply, hcard]

/-- **A write that is not refused** replaces the file of the key, and fails if the card cut it
short. -/
theorem writeFile_stored (h : k.Writable ∧ w.card.inserted) (data : Bytes) :
    let v := { w with card := w.card.withKey k data }
    let written := (w.card.stored (data.take AppKey.limit)).length
    KeySession.writeFile k data w =
      if written ≠ (data.take AppKey.limit).length then
        .error (KeySession.shortWrite written (data.take AppKey.limit).length) v
      else .ok written v := by
  intro v written
  have hk : ¬(k.creator = 0 ∨ k.access ≠ .write) := by
    rw [not_or, not_not]
    exact h.1
  have hcard : KeyStorage.available w = true := h.2
  have hdir : (KeyStorage.createDir AppKey.directory : Action Storage PUnit) w =
      .ok ⟨⟩ { w with card := { w.card with dirs := w.card.keyDirs } } := by
    show onCard (KeyStorage.createDir AppKey.directory) w = _
    unfold onCard Action.on
    rw [Card.createDir_apply]
  -- by then the directory exists, whether or not it did before
  have hwrite : (KeyStorage.write k.filename (data.take AppKey.limit) : Action Storage Nat)
      { w with card := { w.card with dirs := w.card.keyDirs } } = .ok written v := by
    show onCard (KeyStorage.write k.filename _) _ = _
    unfold onCard Action.on
    rw [Card.write_apply k _ (Card.directory_mem_keyDirs w.card)]
    rfl
  unfold KeySession.writeFile
  rw [if_neg hk]
  simp only [bind_apply, get_apply, hcard, hdir, hwrite, Bool.not_true,
    Bool.false_eq_true, if_false]
  split <;> rfl

theorem after_writeFile (data : Bytes) : ((KeySession.writeFile k data).after w).card =
    if k.Writable ∧ w.card.inserted then w.card.withKey k data else w.card := by
  unfold after
  by_cases h : k.Writable ∧ w.card.inserted
  · rw [if_pos h, writeFile_stored h data]
    by_cases hcut : (w.card.stored (data.take AppKey.limit)).length =
        (data.take AppKey.limit).length
    · rw [if_neg (not_not.2 hcut)]
    · rw [if_pos hcut]
  · obtain ⟨e, he⟩ := writeFile_refused h data
    rw [if_neg h, he]

theorem keeps_card (S : Card → Prop) (settings : Settings) :
    Keeps (fun w : Storage => S w.card) (save settings) :=
  Keeps.get.bind fun _ => Keeps.guard fun _ => ends_modify fun _ h => h

theorem untouched_card (S : Card → Prop) : Untouched fun w : Storage => S w.card where
  reached h hw := of_reached (P := fun w => S w.card) (fun h _ => h) hw h
  save {w} h settings := keeps_iff.1 (keeps_card S settings) w h

end Memory.Storage

/-! ### One move -/

variable {D : Type} [DriveBay D]

/-- The card of a device with storage in memory. -/
abbrev Device.card (d : Device Memory.Storage String D) : Memory.Card := d.rack.storage.card

theorem card_start (storage : Memory.Storage) (drives : D) (radio : Radio) (board : Board)
    (digester : Digester) : (Device.start storage drives radio board digester :
      Device Memory.Storage String D).card = storage.card :=
  (Memory.Storage.untouched_card fun c => c = storage.card).reached rfl
    (start_reached storage drives radio board digester).1

variable {d : Device Memory.Storage String D} {m : Move Memory.Storage D}

/-- **A write** replaces the file of the key that is open, if that may be written and the card is in
place. -/
theorem card_writeKey {data : Bytes} (hm : m.request d = .ok (some (.writeKey data))) :
    (d.move m).card =
      if d.appKey.Writable ∧ d.card.inserted then d.card.withKey d.appKey data else d.card := by
  unfold Device.card
  rw [(move_writeKey hm).2, Memory.Storage.after_writeFile]

/-- **Nothing but a write** changes the card from inside. -/
theorem card_move {S : Memory.Card → Prop}
    (hwrite : ∀ data, m.request d ≠ .ok (some (.writeKey data)))
    (hout : ∀ storage drives radio, m = .outside storage drives radio →
      S d.card → S (storage d.rack.storage).card) (h : S d.card) : S (d.move m).card := by
  have hd : d.Holding d.appKey fun w => S w.card := ⟨rfl, h⟩
  exact (hd.move (Memory.Storage.untouched_card S) hwrite hout).2

end StorageAdapter
