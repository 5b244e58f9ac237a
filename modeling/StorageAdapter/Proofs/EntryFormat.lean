import StorageAdapter.Proofs.EntryRecord
import StorageAdapter.Proofs.Shorten

/-! # Entries as clients read them

An entry is fitted into the client's buffer: the record and the slash come first, and the name has
what they leave. -/

namespace StorageAdapter

namespace DirectoryEntry

variable (e : DirectoryEntry) (limit options : UInt8)

/-! ### Fitting the buffer -/

/-- The bytes that an entry takes beside its name. -/
def overhead : Nat := (if isExtended options then 10 else 0) + (if e.isDir then 1 else 0)

theorem nameRoom_eq : e.nameRoom limit options = limit.toNat - e.overhead options :=
  Nat.sub_sub _ _ _

/-- The name as a client reads it. -/
def shownName : String := Text.shorten (e.nameRoom limit options) e.name

/-- A name is flagged as shortened if it is not shown as it is. -/
theorem format_eq : e.format limit options =
    (if isExtended options then e.record (e.shownName limit options ≠ e.name) else []) ++
      Text.encode (e.shownName limit options) ++ (if e.isDir then [47] else []) := by
  have hflag : decide (e.nameRoom limit options < Text.size e.name) =
      decide (e.shownName limit options ≠ e.name) :=
    decide_eq_decide.2 <| by rw [shownName, Ne, Text.shorten_eq_iff, Nat.not_le]
  rw [← hflag]
  rfl

theorem size_shownName_le : Text.size (e.shownName limit options) ≤ e.nameRoom limit options :=
  Text.size_shorten_le _ _

theorem length_format : (e.format limit options).length =
    e.overhead options + Text.size (e.shownName limit options) := by
  rw [format_eq, List.length_append, List.length_append]
  unfold overhead Text.size
  cases isExtended options <;> cases e.isDir <;> simp [length_record, recordLength] <;> omega

end DirectoryEntry

open DirectoryEntry in
/-- **An entry fits the client's buffer**, whatever its size and whatever is asked for. The record
is there exactly when it was asked for, and the slash exactly behind directories; unless these two
alone take more than the buffer has, the whole entry fits. The name between them is shown as it is
if there is room for it and abridged to what there is otherwise, and the record flags just that. -/
theorem entry_fits_buffer (e : DirectoryEntry) (limit options : UInt8) :
    let o := (if isExtended options then 10 else 0) + (if e.isDir then 1 else 0)
    ∃ (record : Bytes) (shown : String),
      e.format limit options = record ++ Text.encode shown ++ (if e.isDir then [47] else []) ∧
      (e.format limit options).length ≤ max limit.toNat o ∧
      (Text.size e.name ≤ limit.toNat - o → shown = e.name) ∧
      (limit.toNat - o < Text.size e.name →
        Text.Abridged e.name shown ∧ Text.size shown ≤ limit.toNat - o) ∧
      (isExtended options = false → record = []) ∧
      (isExtended options = true →
        record = e.record (shown ≠ e.name) ∧ record.length = 10 ∧
        ∃ flags, record[8]? = some flags ∧ (flags &&& shortenedFlag ≠ 0 ↔ shown ≠ e.name)) := by
  intro o
  have hroom : e.nameRoom limit options = limit.toNat - o := e.nameRoom_eq limit options
  have hsize := e.size_shownName_le limit options
  refine ⟨_, e.shownName limit options, e.format_eq limit options, ?_, fun h => ?_, fun h => ?_,
    fun h => ?_, fun h => ?_⟩
  · have hlength : (e.format limit options).length = o + Text.size (e.shownName limit options) :=
      e.length_format limit options
    omega
  · exact Text.shorten_of_size_le (hroom ▸ h)
  · exact ⟨Text.abridged_shorten (hroom ▸ h), hroom ▸ hsize⟩
  · rw [h]
    rfl
  · rw [if_pos h]
    refine ⟨rfl, rfl, _, rfl, ?_⟩
    have hflag := flags_shortened e.isDir (e.shownName limit options ≠ e.name)
    rw [← bne_iff_ne, hflag, decide_eq_true_iff]

open DirectoryEntry in
/-- The record and the slash leave 9 of 20 bytes for the name of a directory. -/
theorem entry_fits_buffer_long_directory :
    let games : DirectoryEntry := ⟨"directory_name", true, 0, 0⟩
    ∃ (record : Bytes) (shown : String),
      games.format 20 extendedOption = record ++ Text.encode shown ++ [47] ∧
      (games.format 20 extendedOption).length ≤ 20 ∧
      Text.Abridged games.name shown ∧ Text.size shown ≤ 9 ∧
      ∃ flags, record[8]? = some flags ∧ (flags &&& shortenedFlag ≠ 0 ↔ shown ≠ games.name) := by
  intro games
  obtain ⟨record, shown, hformat, hlength, -, habridged, -, hrecord⟩ :=
    entry_fits_buffer games 20 extendedOption
  obtain ⟨hshown, hsize⟩ := habridged (by decide)
  obtain ⟨-, -, hflags⟩ := hrecord (by decide)
  exact ⟨record, shown, hformat, hlength, hshown, hsize, hflags⟩

/-- Nine bytes beside the dots hold two characters of two bytes at each end. -/
example : DirectoryEntry.format ⟨"ääääääääää", false, 683, 0⟩ 12 0 = Text.encode "ää...ää" := by
  decide

end StorageAdapter
