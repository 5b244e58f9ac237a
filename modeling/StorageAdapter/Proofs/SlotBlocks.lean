import StorageAdapter.Proofs.DiskBlock
import StorageAdapter.Proofs.StrictText

/-! # Writing and reading blocks of slots

The blocks of host slots and of disk slots are written and read by functions that invert each other
(`slot_blocks_inverse`). What fits its field is read back as it was written, and what does not is
read back as far as the field goes, a character that is cut through being replaced. In the other
direction, a block is written back byte for byte if its fields hold text filled up with NUL
(`Bytes.HoldsText`): then nothing is lost when they are read. -/

namespace StorageAdapter

/-! ### Fields -/

namespace Bytes

/-- The field holds text, and beyond its first NUL nothing else. -/
structure HoldsText (field : Bytes) : Prop where
  text : (Text.decode? field.beforeNul).isSome = true
  zeros : ∀ b ∈ field.drop field.beforeNul.length, b = 0

instance (field : Bytes) : Decidable field.HoldsText :=
  decidable_of_iff ((Text.decode? field.beforeNul).isSome = true ∧
    (field.drop field.beforeNul.length).all (· == 0) = true)
    ⟨fun h => ⟨h.1, fun b hb => by simpa using List.all_eq_true.1 h.2 b hb⟩,
      fun h => ⟨h.text, List.all_eq_true.2 fun b hb => by simpa using h.zeros b hb⟩⟩

theorem beforeNul_append_drop (field : Bytes) :
    field.beforeNul ++ field.drop field.beforeNul.length = field := by
  have htake : field.beforeNul = field.take field.beforeNul.length :=
    List.prefix_iff_eq_take.1 (List.takeWhile_prefix _)
  conv_lhs => lhs; rw [htake]
  exact List.take_append_drop _ field

namespace HoldsText

variable {field : Bytes} (h : field.HoldsText)
include h

theorem encode_ofField : Text.encode (Text.ofField field) = field.beforeNul := by
  obtain ⟨s, hs⟩ := Option.isSome_iff_exists.1 h.text
  have hbytes := Text.decode?_eq_some_iff.1 hs
  unfold Text.ofField
  rw [← hbytes, Text.decodeLossy_encode]

/-- **A field that holds text is written back as it is.** -/
theorem padded_ofField : padded field.length (Text.encode (Text.ofField field)) = field := by
  have hsplit := beforeNul_append_drop field
  have hlength := congrArg List.length hsplit
  have hzeros := List.eq_replicate_of_mem h.zeros
  rw [List.length_append, List.length_drop] at hlength
  rw [List.length_drop] at hzeros
  rw [h.encode_ofField]
  unfold padded
  rw [List.take_of_length_le (by omega), ← hzeros, hsplit]

end HoldsText

/-- A narrower field holds the first part of what a wider one holds. -/
theorem take_padded {narrow wide : Nat} (h : narrow ≤ wide) (bs : Bytes) :
    (padded wide bs).take narrow = padded narrow bs := by
  unfold padded
  rw [List.take_append, List.take_take, List.take_replicate, Nat.min_eq_left h, List.length_take]
  congr 2
  omega

/-! ### Pieces -/

theorem pieces_eq (width n : Nat) (bs : Bytes) :
    pieces width n bs =
      (List.finRange n).map fun i : Fin n => (bs.drop (width * i)).take width := by
  induction n generalizing bs with
  | zero => rfl
  | succ n ih =>
    rw [pieces, ih, List.finRange_succ, List.map_cons, List.map_map]
    refine congrArg _ (List.map_congr_left fun i _ => ?_)
    rw [List.drop_drop]
    show _ = (bs.drop (width * (i + 1))).take width
    rw [Nat.mul_succ, Nat.add_comm]

theorem mem_pieces {width n : Nat} {piece bs : Bytes} (h : piece ∈ pieces width n bs) :
    ∃ i < n, piece = (bs.drop (width * i)).take width := by
  rw [pieces_eq, List.mem_map] at h
  obtain ⟨i, -, rfl⟩ := h
  exact ⟨i, i.isLt, rfl⟩

theorem flatten_pieces (width n : Nat) (bs : Bytes) :
    (pieces width n bs).flatten = bs.take (width * n) := by
  induction n generalizing bs with
  | zero => rfl
  | succ n ih =>
    rw [pieces, List.flatten_cons, ih, Nat.mul_succ, Nat.add_comm, List.take_add]

/-- **Pieces that are each written back as they were** make up the bytes again. -/
theorem flatMap_pieces {α : Type} {width n : Nat} {read : Bytes → α} {write : α → Bytes}
    {bs : Bytes} (hlength : bs.length = width * n)
    (h : ∀ piece ∈ pieces width n bs, write (read piece) = piece) :
    ((pieces width n bs).map read).flatMap write = bs := by
  have hback : (pieces width n bs).map (write ∘ read) = pieces width n bs := by
    conv_rhs => rw [← List.map_id (pieces width n bs)]
    exact List.map_congr_left h
  rw [List.flatMap_def, List.map_map, hback, flatten_pieces,
    List.take_of_length_le (Nat.le_of_eq hlength)]

end Bytes

/-! ### Host slots -/

namespace HostBlock

/-- The name fits its field and can be told from what that is filled up with. -/
structure Fits (name : String) : Prop where
  size : Text.size name ≤ 31
  nul_notMem : '\x00' ∉ name.toList

instance (name : String) : Decidable (Fits name) :=
  decidable_of_iff (Text.size name ≤ 31 ∧ '\x00' ∉ name.toList)
    ⟨fun h => ⟨h.1, h.2⟩, fun h => ⟨h.size, h.nul_notMem⟩⟩

/-- The part of a name that is read back from a block. -/
def shown (name : String) : String := Text.ofField ((Text.encode name).take 31)

theorem Fits.shown_eq {name : String} (h : Fits name) : shown name = name := by
  have hnul : 0 ∉ Text.encode name :=
    mt (Text.mem_of_mem_encode (c := '\x00') (by decide)) h.nul_notMem
  unfold shown Text.ofField
  rw [List.take_of_length_le h.size, Text.beforeNul_of_notMem hnul, Text.decodeLossy_encode]

/-- The names that a block is made of. -/
def fields (names : List String) : Bytes :=
  names.flatMap fun name => Bytes.padded nameWidth (Text.encode name)

theorem encode_eq {names : List String} (h : names.length = 8) : encode names = fields names := by
  have hlength : (fields names).length = size := by
    unfold fields
    rw [Bytes.length_flatMap fun name => Bytes.length_padded nameWidth (Text.encode name), h]
    rfl
  unfold encode
  rw [List.take_of_length_le (Nat.le_of_eq h)]
  show (fields names).take size ++ List.replicate (size - (fields names).length) 0 = fields names
  rw [hlength, List.take_of_length_le (Nat.le_of_eq hlength), Nat.sub_self]
  exact List.append_nil _

theorem length_encode (names : List String) : (encode names).length = size :=
  Bytes.length_padded size _

/-- **A block of names is read back as it shows them.** -/
theorem decode_encode {names : List String} (h : names.length = 8) :
    decode (encode names) = .ok (names.map shown) := by
  have hpieces : Bytes.pieces nameWidth 8 (fields names) =
      names.map fun name => Bytes.padded nameWidth (Text.encode name) :=
    h ▸ Bytes.pieces_flatMap (fun name => Bytes.length_padded nameWidth (Text.encode name)) names
  have hread : ∀ name ∈ names,
      Text.ofField ((Bytes.padded nameWidth (Text.encode name)).take (nameWidth - 1)) =
        shown name := by
    intro name _
    rw [Bytes.take_padded (Nat.sub_le nameWidth 1), Bytes.ofField_padded]
    rfl
  unfold decode
  rw [if_pos (length_encode names), encode_eq h, hpieces, List.map_map]
  exact congrArg Except.ok (List.map_congr_left hread)

/-- Every field of the block holds text and ends in NUL. -/
structure Canonical (payload : Bytes) : Prop where
  length : payload.length = 256
  field : ∀ i < 8, Bytes.HoldsText ((payload.drop (32 * i)).take 32)
  terminated : ∀ i < 8, payload[32 * i + 31]? = some 0

instance (payload : Bytes) : Decidable (Canonical payload) :=
  decidable_of_iff (payload.length = 256 ∧
    (∀ i < 8, Bytes.HoldsText ((payload.drop (32 * i)).take 32)) ∧
    ∀ i < 8, payload[32 * i + 31]? = some 0)
    ⟨fun h => ⟨h.1, h.2.1, h.2.2⟩, fun h => ⟨h.length, h.field, h.terminated⟩⟩

/-- The last byte of a field is not read, so it makes no difference if it is NUL. -/
theorem ofField_take {field : Bytes} (hlength : field.length = 32) (hlast : field[31]? = some 0) :
    Text.ofField (field.take 31) = Text.ofField field := by
  have hfield : field = field.take 31 ++ List.replicate 1 0 := by
    conv_lhs => rw [← List.take_append_drop 31 field]
    rw [List.drop_eq_getElem_cons (by omega), List.drop_of_length_le (by omega)]
    obtain ⟨hlt, hzero⟩ := List.getElem?_eq_some_iff.1 hlast
    rw [hzero]
    rfl
  conv_rhs => rw [hfield]
  unfold Text.ofField
  rw [Bytes.beforeNul_append_zeros]

/-- **A block whose fields hold text** is written for the names that are read from it. -/
theorem Canonical.encode_decode {payload : Bytes} (h : Canonical payload) :
    ∃ names, decode payload = .ok names ∧ encode names = payload := by
  have hback : ∀ field ∈ Bytes.pieces nameWidth 8 payload,
      Bytes.padded nameWidth (Text.encode (Text.ofField (field.take (nameWidth - 1)))) =
        field := by
    intro field hfield
    obtain ⟨i, hi, rfl⟩ := Bytes.mem_pieces hfield
    have hsize := h.length
    have hlength : ((payload.drop (32 * i)).take 32).length = 32 := by
      rw [List.length_take, List.length_drop]
      omega
    have hlast : ((payload.drop (32 * i)).take 32)[31]? = some 0 := by
      rw [List.getElem?_take_of_lt (by decide), List.getElem?_drop]
      exact h.terminated i hi
    have hpadded := (h.field i hi).padded_ofField
    rw [hlength, ← ofField_take hlength hlast] at hpadded
    exact hpadded
  refine ⟨_, if_pos h.length, ?_⟩
  rw [encode_eq (by rw [List.length_map, Bytes.length_pieces])]
  exact Bytes.flatMap_pieces h.length hback

end HostBlock

/-! ### Disk slots -/

instance (r : DeviceRecord) : Decidable r.Fits :=
  decidable_of_iff
    (Text.size r.filename ≤ DeviceBlock.filenameWidth ∧ '\x00' ∉ r.filename.toList)
    ⟨fun h => ⟨h.1, h.2⟩, fun h => ⟨h.size, h.nul_notMem⟩⟩

namespace DeviceBlock

/-- Every filename field of the block holds text; the bytes of host and mode are arbitrary. -/
structure Canonical (payload : Bytes) : Prop where
  length : payload.length = 304
  field : ∀ i < 8, Bytes.HoldsText ((payload.drop (38 * i + 2)).take 36)

instance (payload : Bytes) : Decidable (Canonical payload) :=
  decidable_of_iff (payload.length = 304 ∧
    ∀ i < 8, Bytes.HoldsText ((payload.drop (38 * i + 2)).take 36))
    ⟨fun h => ⟨h.1, h.2⟩, fun h => ⟨h.length, h.field⟩⟩

/-- **A record whose filename is text** is written back as it is. -/
theorem encodeRecord_decodeRecord {bs : Bytes} (hlength : bs.length = recordSize)
    (h : Bytes.HoldsText (bs.drop 2)) : encodeRecord (decodeRecord bs) = bs := by
  rcases bs with _ | ⟨host, _ | ⟨mode, filename⟩⟩
  · exact nomatch hlength
  · exact nomatch hlength
  have hwidth : filename.length = filenameWidth := Nat.succ.inj (Nat.succ.inj hlength)
  have hpadded : Bytes.padded filename.length (Text.encode (Text.ofField filename)) = filename :=
    h.padded_ofField
  rw [hwidth] at hpadded
  show host :: mode :: Bytes.padded filenameWidth (Text.encode (Text.ofField filename)) = _
  rw [hpadded]

/-- **A block whose filenames are text** is written for the records that are read from it. -/
theorem Canonical.encode_decode {payload : Bytes} (h : Canonical payload) :
    ∃ records, decode payload = .ok records ∧ encode records = payload := by
  have hback : ∀ piece ∈ Bytes.pieces recordSize 8 payload,
      encodeRecord (decodeRecord piece) = piece := by
    intro piece hpiece
    obtain ⟨i, hi, rfl⟩ := Bytes.mem_pieces hpiece
    have hsize := h.length
    refine encodeRecord_decodeRecord ?_ ?_
    · show ((payload.drop (38 * i)).take 38).length = 38
      rw [List.length_take, List.length_drop]
      omega
    · rw [List.drop_take, List.drop_drop]
      exact h.field i hi
  have hcount : ((Bytes.pieces recordSize 8 payload).map decodeRecord).length = 8 := by
    rw [List.length_map, Bytes.length_pieces]
  refine ⟨_, if_pos h.length, ?_⟩
  unfold encode
  rw [List.take_of_length_le (Nat.le_of_eq hcount)]
  exact Bytes.flatMap_pieces h.length hback

/-- Of a filename without a NUL, the first 36 bytes are read back. -/
theorem shown_of_notMem {r : DeviceRecord} (h : '\x00' ∉ r.filename.toList) :
    r.shown = { r with filename := Text.decodeLossy ((Text.encode r.filename).take 36) } := by
  have hnul : 0 ∉ (Text.encode r.filename).take 36 := fun hmem =>
    h (Text.mem_of_mem_encode (c := '\x00') (by decide) (List.mem_of_mem_take hmem))
  unfold DeviceRecord.shown Text.ofField
  rw [show filenameWidth = 36 from rfl, Text.beforeNul_of_notMem hnul]

end DeviceBlock

/-! ### Both blocks -/

/-- **Blocks of slots are written and read by functions that invert each other.**

Eight names of at most 31 bytes and eight records with filenames of at most 36 bytes, all without a
NUL, are written as blocks of 256 and of 304 bytes and are read back from them. Conversely, a block
of that size whose fields hold text filled up with NUL is written for what is read from it, if the
last byte of each name is NUL.

A longer filename is read back as the text of its first 36 bytes, of which a character that is cut
through is replaced. Blocks of other sizes are refused. -/
theorem slot_blocks_inverse :
    (∀ names : List String, names.length = 8 → (∀ name ∈ names, HostBlock.Fits name) →
      (HostBlock.encode names).length = 256 ∧
        HostBlock.decode (HostBlock.encode names) = .ok names) ∧
    (∀ records : List DeviceRecord, records.length = 8 → (∀ r ∈ records, r.Fits) →
      (DeviceBlock.encode records).length = 304 ∧
        DeviceBlock.decode (DeviceBlock.encode records) = .ok records) ∧
    (∀ payload, HostBlock.Canonical payload →
      ∃ names, HostBlock.decode payload = .ok names ∧ HostBlock.encode names = payload) ∧
    (∀ payload, DeviceBlock.Canonical payload →
      ∃ records, DeviceBlock.decode payload = .ok records ∧
        DeviceBlock.encode records = payload) ∧
    (∀ records : List DeviceRecord, records.length = 8 →
      (∀ r ∈ records, '\x00' ∉ r.filename.toList) →
      DeviceBlock.decode (DeviceBlock.encode records) =
        .ok (records.map fun r =>
          { r with filename := Text.decodeLossy ((Text.encode r.filename).take 36) })) ∧
    (∀ payload, payload.length ≠ 256 → HostBlock.decode payload = .error .payloadSize) ∧
    ∀ payload, payload.length ≠ 304 → DeviceBlock.decode payload = .error .payloadSize := by
  refine ⟨?names, ?records, fun payload h => h.encode_decode, fun payload h => h.encode_decode,
    ?cut, fun payload h => if_neg h, fun payload h => if_neg h⟩
  case names =>
    intro names hlength hfits
    have hshown : names.map HostBlock.shown = names.map id :=
      List.map_congr_left fun name hname => (hfits name hname).shown_eq
    rw [List.map_id] at hshown
    refine ⟨HostBlock.length_encode names, ?_⟩
    rw [HostBlock.decode_encode hlength, hshown]
  case records =>
    intro records hlength hfits
    have hshown : records.map DeviceRecord.shown = records.map id :=
      List.map_congr_left fun r hr => (hfits r hr).shown_eq
    rw [List.map_id] at hshown
    refine ⟨DeviceBlock.length_encode hlength, ?_⟩
    rw [DeviceBlock.decode_encode hlength, hshown]
  case cut =>
    intro records hlength hnul
    rw [DeviceBlock.decode_encode hlength]
    exact congrArg Except.ok
      (List.map_congr_left fun r hr => DeviceBlock.shown_of_notMem (hnul r hr))

/-- Names and filenames that fill their fields are kept, also with accents. A filename whose last
character lies across the end of its field loses that character. A block of one byte more or less is
refused. -/
theorem slot_blocks_inverse_full :
    let names := ["SD", "", "tnfs.example.org", "élite", "0123456789012345678901234567890", "",
      "", "01234567890123456789012345678é"]
    let records : List DeviceRecord := [⟨3, 2, "/games/élite.d64"⟩, ⟨255, 0, ""⟩,
      ⟨0, 1, "/games/0123456789012345678901234.d64"⟩, ⟨9, 77, "€"⟩, ⟨255, 1, ""⟩, ⟨7, 2, "/"⟩,
      ⟨255, 1, ""⟩, ⟨1, 1, "a b"⟩]
    let cut (filename : String) : List DeviceRecord := List.replicate 8 ⟨0, 1, filename⟩
    HostBlock.decode (HostBlock.encode names) = .ok names ∧
      DeviceBlock.decode (DeviceBlock.encode records) = .ok records ∧
      (∃ read, HostBlock.decode (HostBlock.encode names) = .ok read ∧
        HostBlock.encode read = HostBlock.encode names) ∧
      (∃ read, DeviceBlock.decode (DeviceBlock.encode records) = .ok read ∧
        DeviceBlock.encode read = DeviceBlock.encode records) ∧
      DeviceBlock.decode (DeviceBlock.encode (cut "/games/0123456789012345678901234567é")) =
        .ok (cut "/games/0123456789012345678901234567\uFFFD") ∧
      HostBlock.decode (0 :: HostBlock.encode names) = .error .payloadSize ∧
      DeviceBlock.decode (DeviceBlock.encode records).tail = .error .payloadSize := by
  intro names records cut
  obtain ⟨hnames, hrecords, hhosts, hdisks, hcut, hhostSize, hdiskSize⟩ := slot_blocks_inverse
  refine ⟨(hnames names rfl (by decide +kernel)).2, (hrecords records rfl (by decide +kernel)).2,
    hhosts _ (by decide +kernel), hdisks _ (by decide +kernel),
    (hcut (cut "/games/0123456789012345678901234567é") rfl (by decide +kernel)).trans ?_,
    hhostSize _ (by decide +kernel), hdiskSize _ (by decide +kernel)⟩
  decide +kernel

end StorageAdapter
