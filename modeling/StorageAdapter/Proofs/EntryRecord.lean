import StorageAdapter.Directory.Entry
import StorageAdapter.Proofs.Calendar

/-! # What an entry's record tells

The record is read back by its format (`EntryRecord.ofBytes?`): six bytes that are a date of the
calendar, a word, two flags and the number of a media type. -/

namespace StorageAdapter

/-! ### The order of bytes -/

namespace Bytes

theorem ofNat_lt_ofNat {m n : Nat} (hn : n < 256) (h : m < n) : UInt8.ofNat m < UInt8.ofNat n := by
  refine UInt8.lt_iff_toNat_lt.2 ?_
  rwa [UInt8.toNat_ofNat_of_lt' (h.trans hn), UInt8.toNat_ofNat_of_lt' hn]

/-- The first byte decides the order, or leaves it to what follows. -/
theorem cons_lt_cons {m n : Nat} {a b : Bytes} {p : Prop} (hn : n < 256)
    (h : m < n ∨ m = n ∧ p) (hp : p → a < b) : UInt8.ofNat m :: a < UInt8.ofNat n :: b :=
  List.cons_lt_cons_iff.2 <| h.imp (ofNat_lt_ofNat hn) fun ⟨hmn, h⟩ =>
    ⟨congrArg UInt8.ofNat hmn, hp h⟩

/-- Runs of bytes that differ before the end of the shorter one stay in their order. -/
theorem append_lt_append {a b : Bytes} (hlength : a.length = b.length) (h : a < b) (c d : Bytes) :
    a ++ c < b ++ d := by
  induction a generalizing b with
  | nil =>
    rw [List.length_eq_zero_iff.1 hlength.symm] at h
    exact absurd h (List.lt_irrefl _)
  | cons x a ih =>
    obtain ⟨y, b, rfl⟩ := List.exists_cons_of_length_eq_add_one hlength.symm
    rw [List.cons_append, List.cons_append, List.cons_lt_cons_iff]
    exact (List.cons_lt_cons_iff.1 h).imp_right fun ⟨hhead, htail⟩ =>
      ⟨hhead, ih (Nat.succ.inj hlength) htail⟩

end Bytes

/-! ### Reading a record -/

/-- What the record of an entry tells. -/
structure EntryRecord where
  time : DateTime
  size : Nat
  isDir : Bool
  shortened : Bool
  media : MediaType
deriving DecidableEq, Repr

/-- A record read by its format. With another flag, or the number of no media type, it is none. -/
def EntryRecord.ofBytes? : Bytes → Option EntryRecord
  | [year, month, day, hour, minute, second, low, high, flags, code] => do
    let media ← MediaType.ofCode? code
    let isDir := flags &&& DirectoryEntry.dirFlag != 0
    let shortened := flags &&& DirectoryEntry.shortenedFlag != 0
    guard (flags &&& ~~~(DirectoryEntry.dirFlag ||| DirectoryEntry.shortenedFlag) = 0)
    return { time := ⟨1900 + year.toNat, month.toNat, day.toNat, hour.toNat, minute.toNat,
        second.toNat⟩, size := (Bytes.word low high).toNat, isDir, shortened, media }
  | _ => none

theorem MediaType.ofCode?_code (m : MediaType) : ofCode? m.code = some m := by
  cases m <;> rfl

namespace DirectoryEntry

open DateTime

/-- The bytes of a date and time. -/
def timeBytes (t : DateTime) : Bytes :=
  [yearByte t.year, UInt8.ofNat t.month, UInt8.ofNat t.day,
    UInt8.ofNat t.hour, UInt8.ofNat t.minute, UInt8.ofNat t.second]

theorem flags_isDir (isDir shortened : Bool) :
    (flags isDir shortened &&& dirFlag != 0) = isDir := by
  revert isDir shortened
  decide

theorem flags_shortened (isDir shortened : Bool) :
    (flags isDir shortened &&& shortenedFlag != 0) = shortened := by
  revert isDir shortened
  decide

theorem flags_others (isDir shortened : Bool) :
    flags isDir shortened &&& ~~~(dirFlag ||| shortenedFlag) = 0 := by
  revert isDir shortened
  decide

variable (e : DirectoryEntry) (shortened : Bool)

theorem record_eq : e.record shortened = timeBytes (DateTime.ofSeconds e.modified) ++
    (Bytes.ofWord (UInt16.ofNat (min e.size 65535)) ++
      [flags e.isDir shortened, (MediaType.ofFilename e.name).code]) := rfl

theorem length_record : (e.record shortened).length = recordLength := rfl

/-- The date and time that the bytes of one tell. -/
def told (t : DateTime) : DateTime :=
  ⟨1900 + (yearByte t.year).toNat, (UInt8.ofNat t.month).toNat, (UInt8.ofNat t.day).toNat,
    (UInt8.ofNat t.hour).toNat, (UInt8.ofNat t.minute).toNat, (UInt8.ofNat t.second).toNat⟩

/-- **Every record can be read.** All but the time is always that of the entry. -/
theorem ofBytes?_record : EntryRecord.ofBytes? (e.record shortened) =
    some ⟨told (ofSeconds e.modified), min e.size 65535, e.isDir, shortened,
      MediaType.ofFilename e.name⟩ := by
  have hsize : (UInt16.ofNat (min e.size 65535)).toNat = min e.size 65535 :=
    UInt16.toNat_ofNat_of_lt' (show min e.size 65535 < 65536 by omega)
  simp only [record, Bytes.ofWord, List.cons_append, List.nil_append, EntryRecord.ofBytes?,
    MediaType.ofCode?_code, flags_isDir, flags_shortened, flags_others, Bytes.word_ofWord]
  rw [hsize]
  rfl

/-! ### The time -/

theorem toNat_yearByte {year : Int} (h : 1900 ≤ year ∧ year ≤ 2155) :
    1900 + ((yearByte year).toNat : Int) = year := by
  unfold yearByte
  rw [UInt8.toNat_ofNat_of_lt' (show min (year - 1900).toNat 255 < 256 by omega)]
  omega

theorem yearByte_of_le {year : Int} (h : year ≤ 1900) : yearByte year = 0 := by
  unfold yearByte
  rw [show (year - 1900).toNat = 0 by omega]
  rfl

theorem yearByte_of_ge {year : Int} (h : 2155 ≤ year) : yearByte year = 255 := by
  unfold yearByte
  rw [show min (year - 1900).toNat 255 = 255 by omega]
  rfl

theorem yearByte_lt {y z : Int} (hy : 1900 ≤ y) (hz : z ≤ 2155) (h : y < z) :
    yearByte y < yearByte z := by
  have hybyte := @toNat_yearByte y ⟨hy, by omega⟩
  have hzbyte := @toNat_yearByte z ⟨by omega, hz⟩
  exact UInt8.lt_iff_toNat_lt.2 (by omega)

/-- The parts of a date and time are bytes. -/
theorem byte_of_valid {t : DateTime} (ht : t.Valid) :
    t.month < 256 ∧ t.day < 256 ∧ t.hour < 256 ∧ t.minute < 256 ∧ t.second < 256 := by
  have := ht.month
  have := ht.day
  have := Calendar.daysInMonth_le t.year t.month
  have := ht.hour
  have := ht.minute
  have := ht.second
  omega

/-- The bytes tell a date and time of the years that the first one reaches. -/
theorem told_eq {t : DateTime} (ht : t.Valid) (hyear : 1900 ≤ t.year ∧ t.year ≤ 2155) :
    told t = t := by
  obtain ⟨hmonth, hday, hhour, hminute, hsecond⟩ := byte_of_valid ht
  unfold told
  rw [toNat_yearByte hyear, UInt8.toNat_ofNat_of_lt' hmonth, UInt8.toNat_ofNat_of_lt' hday,
    UInt8.toNat_ofNat_of_lt' hhour, UInt8.toNat_ofNat_of_lt' hminute,
    UInt8.toNat_ofNat_of_lt' hsecond]

/-- **The earlier of two times** has the smaller bytes. -/
theorem timeBytes_lt {t u : DateTime} (ht : t.Valid) (hu : u.Valid) (htyear : 1900 ≤ t.year)
    (huyear : u.year ≤ 2155) (h : t.seconds < u.seconds) : timeBytes t < timeBytes u := by
  obtain ⟨hmonth, hday, hhour, hminute, hsecond⟩ := byte_of_valid hu
  unfold timeBytes
  refine List.cons_lt_cons_iff.2 ((ht.earlier hu h).imp (yearByte_lt htyear huyear)
    fun ⟨hyear, h⟩ => ⟨congrArg yearByte hyear, ?_⟩)
  refine Bytes.cons_lt_cons hmonth h fun h => ?_
  refine Bytes.cons_lt_cons hday h fun h => ?_
  refine Bytes.cons_lt_cons hhour h fun h => ?_
  refine Bytes.cons_lt_cons hminute h fun h => ?_
  exact List.cons_lt_cons_iff.2 (.inl (Bytes.ofNat_lt_ofNat hsecond h))

/-- The time of an entry of certain years is a date of one of them. -/
theorem time_of_inYears {e : DirectoryEntry} {first last : Int} (h : InYears first last e.modified)
    (hfirst : firstYear ≤ first) (hlast : last ≤ lastYear) :
    let t := ofSeconds e.modified
    t.Valid ∧ t.seconds = e.modified ∧ first ≤ t.year ∧ t.year ≤ last := by
  obtain ⟨hvalid, hseconds⟩ := ofSeconds_spec (h.mono hfirst hlast)
  exact ⟨hvalid, hseconds, hvalid.year_mem (by rwa [hseconds])⟩

/-- **A later time has the greater bytes**, and so has the whole record. -/
theorem record_lt {e f : DirectoryEntry} (he : InYears 1900 2155 e.modified)
    (hf : InYears 1900 2155 f.modified) (h : e.modified < f.modified)
    (shortened shortened' : Bool) :
    (e.record shortened).take 6 < (f.record shortened').take 6 ∧
      e.record shortened < f.record shortened' := by
  obtain ⟨hvalid, hseconds, hyear, -⟩ := time_of_inYears he (by decide) (by decide)
  obtain ⟨hvalid', hseconds', -, hyear'⟩ := time_of_inYears hf (by decide) (by decide)
  have hlt := timeBytes_lt hvalid hvalid' hyear hyear' (by rwa [hseconds, hseconds'])
  refine ⟨hlt, ?_⟩
  rw [record_eq, record_eq]
  exact Bytes.append_lt_append (by rfl) hlt _ _

end DirectoryEntry

open DirectoryEntry DateTime in
/-- **The record of an entry tells the entry**, apart from the size, which is told up to 65535. In
the years that the first byte reaches, the time is a date of the calendar that is as many seconds
from the beginning of 1970 as the entry's, and a later time has the greater bytes. Of an earlier
year the first byte is 0, and of a later one 255. -/
theorem record_tells_entry :
    (∀ (e : DirectoryEntry) (shortened : Bool), ∃ time,
      EntryRecord.ofBytes? (e.record shortened) =
        some ⟨time, min e.size 65535, e.isDir, shortened, MediaType.ofFilename e.name⟩ ∧
      (InYears 1900 2155 e.modified → time.Valid ∧ time.seconds = e.modified)) ∧
    (∀ (e f : DirectoryEntry) (shortened shortened' : Bool),
      InYears 1900 2155 e.modified → InYears 1900 2155 f.modified →
      (e.modified < f.modified →
        (e.record shortened).take 6 < (f.record shortened').take 6 ∧
          e.record shortened < f.record shortened') ∧
      (e.modified ≠ f.modified → e.record shortened ≠ f.record shortened')) ∧
    (∀ (e : DirectoryEntry) (shortened : Bool),
      (InYears firstYear 1899 e.modified → (e.record shortened).head? = some 0) ∧
      (InYears 2156 lastYear e.modified → (e.record shortened).head? = some 255)) := by
  refine ⟨fun e shortened => ⟨_, ofBytes?_record e shortened, fun h => ?_⟩,
    fun e f shortened shortened' he hf => ⟨fun h => record_lt he hf h _ _, fun hne heq => ?_⟩,
    fun e shortened => ⟨fun h => ?_, fun h => ?_⟩⟩
  · obtain ⟨hvalid, hseconds, hyear⟩ := time_of_inYears h (by decide) (by decide)
    rw [told_eq hvalid hyear]
    exact ⟨hvalid, hseconds⟩
  · rcases Int.lt_or_gt_of_ne hne with h | h
    · exact List.lt_irrefl _ (heq ▸ (record_lt he hf h shortened shortened').2)
    · exact List.lt_irrefl _ (heq ▸ (record_lt hf he h shortened' shortened).2)
  · obtain ⟨-, -, -, hyear⟩ := time_of_inYears h (by decide) (by decide)
    exact congrArg some (yearByte_of_le (by omega))
  · obtain ⟨-, -, hyear, -⟩ := time_of_inYears h (by decide) (by decide)
    exact congrArg some (yearByte_of_ge (by omega))

open DirectoryEntry DateTime in
/-- A disk of the last leap day before 1970, a directory of a later time, and years that the first
byte does not reach. -/
theorem record_tells_entry_leap_day :
    let disk : DirectoryEntry := ⟨"GAME.D64", false, 174848, -58015504⟩
    let games : DirectoryEntry := ⟨"games", true, 4660, 1709649015⟩
    (∃ time, EntryRecord.ofBytes? (disk.record true) =
        some ⟨time, 65535, false, true, MediaType.d64⟩ ∧
      time.Valid ∧ time.seconds = -58015504) ∧
    (disk.record true).take 6 < (games.record false).take 6 ∧
    disk.record true ≠ games.record false ∧
    (DirectoryEntry.record ⟨"old.prg", false, 9, -3786825600⟩ false).head? = some 0 ∧
    (DirectoryEntry.record ⟨"new.prg", false, 9, 10413792000⟩ false).head? = some 255 := by
  intro disk games
  obtain ⟨hread, horder, hbounds⟩ := record_tells_entry
  obtain ⟨time, htold, hvalid⟩ := hread disk true
  obtain ⟨hlt, hne⟩ := horder disk games true false (by decide) (by decide)
  have hmedia : MediaType.ofFilename disk.name = .d64 := by decide
  rw [hmedia] at htold
  exact ⟨⟨time, htold, hvalid (by decide)⟩, (hlt (by decide)).1, hne (by decide),
    (hbounds _ false).1 (by decide), (hbounds _ false).2 (by decide)⟩

end StorageAdapter
