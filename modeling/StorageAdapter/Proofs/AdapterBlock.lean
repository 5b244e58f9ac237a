import StorageAdapter.Proofs.DiskBlock
import StorageAdapter.Proofs.Numeral

/-! # Adapter configuration blocks

A block is its fields in a row, and each field begins where those before it end
(`Bytes.slice_flatten`), so one list of fields with their offsets tells the whole layout
(`placed_fields`, `placed_extendedFields`). A text field ends in NUL and is read back as far as it
goes. An address as text always fits: it is a separator fewer than the digits and separators that
its field has room for (`AddressForm.size_text_lt`), and it is read back
(`AddressForm.ofText?_text`). Together this is `adapter_block_layout`. -/

namespace StorageAdapter

/-! ### Fields in a row -/

namespace Bytes

/-- The field of a block that begins at an offset. -/
def slice (offset width : Nat) (block : Bytes) : Bytes := (block.drop offset).take width

/-- Fields in a row, each with the offset at which it begins. -/
def placed (offset : Nat) : List Bytes → List (Nat × Bytes)
  | [] => []
  | field :: fields => (offset, field) :: placed (offset + field.length) fields

/-- **Each field stands at its offset.** Induction on the fields, with what stands before them. -/
theorem slice_append_flatten {before : Bytes} {fields : List Bytes} {offset : Nat} {field : Bytes}
    (h : (offset, field) ∈ placed before.length fields) :
    slice offset field.length (before ++ fields.flatten) = field := by
  induction fields generalizing before with
  | nil => cases h
  | cons first fields ih =>
    rcases List.mem_cons.1 h with h | h
    · obtain ⟨rfl, rfl⟩ := Prod.mk.inj h
      unfold slice
      rw [List.drop_left, List.flatten_cons, List.take_left]
    · rw [← List.length_append] at h
      rw [List.flatten_cons, ← List.append_assoc]
      exact ih h

theorem slice_flatten {fields : List Bytes} {offset : Nat} {field : Bytes}
    (h : (offset, field) ∈ placed 0 fields) : slice offset field.length fields.flatten = field :=
  @slice_append_flatten [] fields offset field h

/-- Cutting the block behind a field leaves the field as it is. -/
theorem slice_take {offset width n : Nat} (h : offset + width ≤ n) (block : Bytes) :
    slice offset width (block.take n) = slice offset width block := by
  unfold slice
  rw [List.drop_take, List.take_take, Nat.min_eq_left (by omega)]

/-! ### Terminated fields -/

theorem terminated_eq (width : Nat) (bs : Bytes) :
    terminated width bs = bs.take (width - 1) ++ List.replicate (width - 1 - bs.length + 1) 0 := by
  unfold terminated padded
  rw [List.append_assoc, List.replicate_succ']

theorem length_terminated {width : Nat} (h : 0 < width) (bs : Bytes) :
    (terminated width bs).length = width := by
  unfold terminated
  rw [List.length_append, length_padded, List.length_singleton]
  omega

theorem getLast?_terminated (width : Nat) (bs : Bytes) :
    (terminated width bs).getLast? = some 0 := List.getLast?_concat

/-- Bytes that leave room for the NUL are not cut. -/
theorem terminated_of_lt {width : Nat} {bs : Bytes} (h : bs.length < width) :
    terminated width bs = bs ++ List.replicate (width - bs.length) 0 := by
  rw [terminated_eq, List.take_of_length_le (by omega)]
  congr 2
  omega

theorem beforeNul_terminated (width : Nat) {bs : Bytes} (h : 0 ∉ bs) :
    (terminated width bs).beforeNul = bs.take (width - 1) := by
  rw [terminated_eq, beforeNul_append_zeros,
    Text.beforeNul_of_notMem fun hm => h (List.mem_of_mem_take hm)]

end Bytes

/-! ### Addresses as text -/

namespace Text

/-- Pieces without the separator are told apart again. -/
theorem splitAll_separated {sep : Char} {pieces : List (List Char)} (hne : pieces ≠ [])
    (h : ∀ piece ∈ pieces, sep ∉ piece) : splitAll sep ([sep].intercalate pieces) = pieces := by
  induction pieces with
  | nil => exact absurd rfl hne
  | cons piece pieces ih =>
    have hpiece := h piece List.mem_cons_self
    have hrest := fun p hp => h p (List.mem_cons_of_mem _ hp)
    rcases eq_or_ne pieces [] with rfl | hpieces
    · rw [List.intercalate_singleton, splitAll_of_notMem hpiece]
    · rw [List.intercalate_cons_of_ne_nil hpieces, List.append_assoc, List.singleton_append,
        splitAll_append hpiece, ih hpieces hrest]

theorem mem_separated {sep c : Char} {pieces : List (List Char)}
    (h : c ∈ [sep].intercalate pieces) : c = sep ∨ ∃ piece ∈ pieces, c ∈ piece := by
  induction pieces with
  | nil => cases h
  | cons piece pieces ih =>
    rcases eq_or_ne pieces [] with rfl | hpieces
    · rw [List.intercalate_singleton] at h
      exact .inr ⟨piece, List.mem_cons_self, h⟩
    · rw [List.intercalate_cons_of_ne_nil hpieces, List.append_assoc, List.singleton_append,
        List.mem_append, List.mem_cons] at h
      obtain h | h | h := h
      · exact .inr ⟨piece, List.mem_cons_self, h⟩
      · exact .inl h
      · exact (ih h).imp id fun ⟨p, hp, hc⟩ => ⟨p, List.mem_cons_of_mem _ hp, hc⟩

/-- A separator stands behind every piece but the last one. -/
theorem length_separated_lt {sep : Char} {width : Nat} {pieces : List (List Char)}
    (hne : pieces ≠ []) (h : ∀ piece ∈ pieces, piece.length ≤ width) :
    ([sep].intercalate pieces).length < (width + 1) * pieces.length := by
  induction pieces with
  | nil => exact absurd rfl hne
  | cons piece pieces ih =>
    have hpiece := h piece List.mem_cons_self
    have hrest := fun p hp => h p (List.mem_cons_of_mem _ hp)
    rw [List.length_cons, Nat.mul_succ]
    rcases eq_or_ne pieces [] with rfl | hpieces
    · rw [List.intercalate_singleton]
      omega
    · have := ih hpieces hrest
      rw [List.intercalate_cons_of_ne_nil hpieces]
      simp only [List.length_append, List.length_singleton]
      omega

end Text

/-- A way to write addresses: each byte in so many digits at most, and a separator between them. -/
structure AddressForm where
  separator : Char
  digits : Nat
  write : UInt8 → List Char
  read? : List Char → Option UInt8
  read?_write : ∀ b, read? (write b) = some b
  isDigit_write : ∀ b, ∀ c ∈ write b, Text.IsDigit c
  length_write : ∀ b, (write b).length ≤ digits
  separator_ascii : 0 < separator.toNat ∧ separator.toNat < 0x80
  separator_notDigit : ¬Text.IsDigit separator

namespace AddressForm

variable (f : AddressForm)

/-- The address of the bytes. -/
def text (bs : Bytes) : String := String.ofList ([f.separator].intercalate (bs.map f.write))

/-- Reads an address of `n` bytes. -/
def ofText? (n : Nat) (s : String) : Option (Vector UInt8 n) := do
  let bs ← (Text.splitAll f.separator s.toList).mapM f.read?
  if h : bs.length = n then some ⟨bs.toArray, h⟩ else none

theorem mem_text {bs : Bytes} {c : Char} (h : c ∈ (f.text bs).toList) :
    0 < c.toNat ∧ c.toNat < 0x80 := by
  unfold text at h
  rw [String.toList_ofList] at h
  obtain rfl | ⟨piece, hpiece, hc⟩ := Text.mem_separated h
  · exact f.separator_ascii
  · obtain ⟨b, -, rfl⟩ := List.mem_map.1 hpiece
    have hdigit := f.isDigit_write b c hc
    unfold Text.IsDigit at hdigit
    omega

/-- **The address fits its field**: a terminator takes the place of the separator that is not
written behind the last byte. -/
theorem size_text_lt {bs : Bytes} (hne : bs ≠ []) :
    Text.size (f.text bs) < (f.digits + 1) * bs.length := by
  have hlength : Text.size (f.text bs) = (f.text bs).toList.length := by
    unfold Text.size Text.encode
    rw [Text.flatMap_utf8EncodeChar_of_lt fun c hc => (f.mem_text hc).2, List.length_map]
  have hlt : ([f.separator].intercalate (bs.map f.write)).length <
      (f.digits + 1) * (bs.map f.write).length :=
    Text.length_separated_lt (by simpa using hne) fun piece hpiece => by
      obtain ⟨b, -, rfl⟩ := List.mem_map.1 hpiece
      exact f.length_write b
  rw [hlength]
  unfold text
  rw [String.toList_ofList]
  rwa [List.length_map] at hlt

/-- **The address is read back.** -/
theorem ofText?_text {n : Nat} (hn : 0 < n) (v : Vector UInt8 n) :
    f.ofText? n (f.text v.toList) = some v := by
  have hne : v.toList.map f.write ≠ [] := by
    intro h
    have hlength := congrArg List.length h
    rw [List.length_map, Vector.length_toList] at hlength
    exact absurd hlength (by simpa using Nat.ne_of_gt hn)
  have hsplit := Text.splitAll_separated hne fun piece hpiece => by
    obtain ⟨b, -, rfl⟩ := List.mem_map.1 hpiece
    exact fun hmem => f.separator_notDigit (f.isDigit_write b _ hmem)
  have hread : (v.toList.map f.write).mapM f.read? = some v.toList := by
    rw [List.mapM_map]
    induction v.toList with
    | nil => rfl
    | cons b bs ih => simp [List.mapM_cons, f.read?_write, ih]
  unfold ofText? text
  rw [String.toList_ofList, hsplit, hread]
  simp [Vector.toList]

/-- Four decimal numbers between dots. -/
def dotted : AddressForm where
  separator := '.'
  digits := 3
  write b := Nat.toDigits 10 b.toNat
  read? cs := ((Text.digits 10 cs).filter (· ≤ 255)).map UInt8.ofNat
  read?_write b := by
    have hle : b.toNat ≤ 255 := Nat.le_of_lt_succ b.toNat_lt
    rw [(Text.spells_toDigits b.toNat).digits (by decide) (by decide)]
    simp [hle]
  isDigit_write b := (Text.spells_toDigits b.toNat).isDigit (by decide) (by decide)
  length_write b := by
    have hall : ∀ n < 256, (Nat.toDigits 10 n).length ≤ 3 := by decide +kernel
    exact hall _ b.toNat_lt
  separator_ascii := by decide
  separator_notDigit := by unfold Text.IsDigit; decide

/-- The two digits of a byte. -/
theorem digits_hexDigit (b : UInt8) :
    Text.digits 16 [Error.hexDigit (b.toNat / 16), Error.hexDigit (b.toNat % 16)] =
      some b.toNat := by
  have hb := b.toNat_lt
  have hhigh := Text.digitValue_hexDigit (d := b.toNat / 16) (by omega)
  have hlow := Text.digitValue_hexDigit (d := b.toNat % 16) (Nat.mod_lt _ (by decide))
  have hvalue : (0 * 16 + b.toNat / 16) * 16 + b.toNat % 16 = b.toNat := by omega
  rw [Text.digits, Text.digitsFrom_cons, hhigh, Option.bind_eq_bind, Option.bind_some,
    Text.digitsFrom_cons, hlow, Option.bind_eq_bind, Option.bind_some, hvalue]
  · rfl
  · nofun

/-- Pairs of hexadecimal digits between colons. -/
def colons : AddressForm where
  separator := ':'
  digits := 2
  write b := [Error.hexDigit (b.toNat / 16), Error.hexDigit (b.toNat % 16)]
  read? cs := if cs.length = 2 then (Text.digits 16 cs).map UInt8.ofNat else none
  read?_write b := by
    show (Text.digits 16 _).map UInt8.ofNat = some b
    rw [digits_hexDigit, Option.map_some, UInt8.ofNat_toNat]
  isDigit_write b := by
    have hb := b.toNat_lt
    intro c hc
    rcases List.mem_cons.1 hc with rfl | hc
    · exact Text.isDigit_of_digitValue (by decide) (Text.digitValue_hexDigit (by omega))
    · rw [List.mem_singleton.1 hc]
      exact Text.isDigit_of_digitValue (by decide) (Text.digitValue_hexDigit (by omega))
  length_write b := Nat.le_refl 2
  separator_ascii := by decide
  separator_notDigit := by unfold Text.IsDigit; decide

theorem toText_ipv4 (a : Ipv4) : a.toText = dotted.text a.toList := by
  have hbytes : a.toList.map (String.toList ∘ fun b => toString b.toNat) =
      a.toList.map dotted.write := List.map_congr_left fun b _ => Nat.toList_repr
  unfold Ipv4.toText text
  refine String.toList_inj.1 ?_
  rw [String.toList_intercalate, List.map_map, hbytes]
  exact String.toList_ofList.symm

theorem toText_mac (a : Mac) : a.toText = colons.text a.toList := by
  have hbytes : a.toList.map (String.toList ∘ Error.hexPair) = a.toList.map colons.write :=
    List.map_congr_left fun b _ => String.toList_ofList
  unfold Mac.toText text
  refine String.toList_inj.1 ?_
  rw [String.toList_intercalate, List.map_map, hbytes]
  exact String.toList_ofList.symm

end AddressForm

/-! ### The layout -/

/-- A field of the block shows a text as far as it goes: it ends in NUL, and a text without NUL is
read back up to there. -/
structure Bytes.ShowsText (block : Bytes) (offset width : Nat) (s : String) : Prop where
  last : (slice offset width block).getLast? = some 0
  shown : '\x00' ∉ s.toList →
    (slice offset width block).beforeNul = (Text.encode s).take (width - 1)

/-- A field of the block shows an address as text, uncut and with NUL behind it, and what is read
from it are the bytes of another field. -/
structure Bytes.ShowsAddress (form : AddressForm) (n : Nat) (block : Bytes)
    (offset width : Nat) (text : String) (source : Nat) : Prop where
  room : Text.size text < width
  whole : slice offset width block = Text.encode text ++ List.replicate (width - Text.size text) 0
  readBack : ∃ v, form.ofText? n (Text.ofField (slice offset width block)) = some v ∧
    v.toList = slice source n block

namespace AdapterConfig

/-- The fields of the block. -/
def fields (c : AdapterConfig) : List Bytes :=
  [field ssidWidth c.net.ssid, field hostnameWidth c.net.hostname, c.net.ip.toList,
    c.net.gateway.toList, c.net.netmask.toList, c.net.dns.toList, c.net.mac.toList,
    c.net.bssid.toList, field versionWidth c.version]

/-- The fields that are added behind it. -/
def addressFields (c : AdapterConfig) : List Bytes :=
  [field ipTextWidth c.net.ip.toText, field ipTextWidth c.net.gateway.toText,
    field ipTextWidth c.net.dns.toText, field ipTextWidth c.net.netmask.toText,
    field macTextWidth c.net.mac.toText, field macTextWidth c.net.bssid.toText]

theorem toBlock_eq (c : AdapterConfig) : c.toBlock = c.fields.flatten := by
  simp [toBlock, fields]

theorem toExtendedBlock_eq (c : AdapterConfig) :
    c.toExtendedBlock = (c.fields ++ c.addressFields).flatten := by
  simp [toExtendedBlock, toBlock_eq, addressFields]

theorem length_field {width : Nat} (h : 0 < width) (s : String) : (field width s).length = width :=
  Bytes.length_terminated h _

/-- **The offsets of all fields.** -/
theorem placed_fields (c : AdapterConfig) : Bytes.placed 0 (c.fields ++ c.addressFields) =
    [(0, field 33 c.net.ssid), (33, field 64 c.net.hostname), (97, c.net.ip.toList),
      (101, c.net.gateway.toList), (105, c.net.netmask.toList), (109, c.net.dns.toList),
      (113, c.net.mac.toList), (119, c.net.bssid.toList), (125, field 15 c.version),
      (140, field 16 c.net.ip.toText), (156, field 16 c.net.gateway.toText),
      (172, field 16 c.net.dns.toText), (188, field 16 c.net.netmask.toText),
      (204, field 18 c.net.mac.toText), (222, field 18 c.net.bssid.toText)] := by
  simp [Bytes.placed, fields, addressFields, length_field, ssidWidth, hostnameWidth, versionWidth,
    ipTextWidth, macTextWidth]

theorem length_toBlock (c : AdapterConfig) : c.toBlock.length = 140 := by
  simp [toBlock_eq, fields, length_field, ssidWidth, hostnameWidth, versionWidth]

theorem length_addressFields (c : AdapterConfig) : c.addressFields.flatten.length = 100 := by
  simp [addressFields, length_field, ipTextWidth, macTextWidth]

theorem length_toExtendedBlock (c : AdapterConfig) : c.toExtendedBlock.length = 240 := by
  rw [toExtendedBlock_eq, List.flatten_append, ← toBlock_eq, List.length_append, length_toBlock,
    length_addressFields]

theorem take_toExtendedBlock (c : AdapterConfig) : c.toExtendedBlock.take 140 = c.toBlock := by
  rw [toExtendedBlock_eq, List.flatten_append, ← toBlock_eq]
  exact List.take_left' (length_toBlock c)

section Slice

variable {c : AdapterConfig} {offset width : Nat} {bytes : Bytes}
  (h : (offset, bytes) ∈ Bytes.placed 0 (c.fields ++ c.addressFields))
  (hwidth : bytes.length = width)
include h hwidth

theorem slice_toExtendedBlock : c.toExtendedBlock.slice offset width = bytes := by
  rw [toExtendedBlock_eq, ← hwidth]
  exact Bytes.slice_flatten h

theorem slice_toBlock (hle : offset + width ≤ 140) : c.toBlock.slice offset width = bytes := by
  rw [← take_toExtendedBlock, Bytes.slice_take hle]
  exact slice_toExtendedBlock h hwidth

end Slice

variable {block : Bytes} {offset width : Nat}

theorem showsText {s : String} (h : block.slice offset width = field width s) :
    block.ShowsText offset width s := by
  refine ⟨?_, fun hs => ?_⟩
  · rw [h]
    exact Bytes.getLast?_terminated width _
  · have hnul : 0 ∉ Text.encode s := mt (Text.mem_of_mem_encode (c := '\x00') (by decide)) hs
    rw [h]
    exact Bytes.beforeNul_terminated width hnul

/-- An address of `n` bytes is shown in a field with a place for each digit and each separator. -/
theorem showsAddress {form : AddressForm} {n source : Nat} {v : Vector UInt8 n} (hn : 0 < n)
    (hwidth : width = (form.digits + 1) * n)
    (h : block.slice offset width = field width (form.text v.toList))
    (hsource : block.slice source n = v.toList) :
    block.ShowsAddress form n offset width (form.text v.toList) source := by
  have hlength : v.toList.length = n := Vector.length_toList
  have hroom : Text.size (form.text v.toList) < width := by
    have hne : v.toList ≠ [] := List.ne_nil_of_length_pos (by omega)
    have hlt := form.size_text_lt hne
    rwa [hlength, ← hwidth] at hlt
  have hnul : 0 ∉ Text.encode (form.text v.toList) := fun hm =>
    absurd (form.mem_text (Text.mem_of_mem_encode (c := '\x00') (by decide) hm)).1 (by decide)
  refine ⟨hroom, h.trans (Bytes.terminated_of_lt hroom), v, ?_, hsource.symm⟩
  unfold Text.ofField
  rw [h, field, Bytes.beforeNul_terminated width hnul,
    List.take_of_length_le (by unfold Text.size at hroom; omega), Text.decodeLossy_encode]
  exact form.ofText?_text hn v

end AdapterConfig

open AdapterConfig in
/-- **The adapter configuration has a fixed layout.** The block has 140 bytes and the extended one
240, of which the first 140 are the block. The names and the version each end in NUL, and one
without a NUL in it is read back up to there, as far as its field goes. The addresses stand as bytes
at their offsets, and in the extended block also as text, which is never cut, ends in NUL and is
read back as the very bytes of the same block. -/
theorem adapter_block_layout (c : AdapterConfig) :
    let block := c.toBlock
    let extended := c.toExtendedBlock
    (block.length = 140 ∧ extended.length = 240 ∧ extended.take 140 = block) ∧
    (block.ShowsText 0 33 c.net.ssid ∧ block.ShowsText 33 64 c.net.hostname ∧
      block.ShowsText 125 15 c.version) ∧
    (block.slice 97 4 = c.net.ip.toList ∧ block.slice 101 4 = c.net.gateway.toList ∧
      block.slice 105 4 = c.net.netmask.toList ∧ block.slice 109 4 = c.net.dns.toList ∧
      block.slice 113 6 = c.net.mac.toList ∧ block.slice 119 6 = c.net.bssid.toList) ∧
    (extended.ShowsAddress .dotted 4 140 16 c.net.ip.toText 97 ∧
      extended.ShowsAddress .dotted 4 156 16 c.net.gateway.toText 101 ∧
      extended.ShowsAddress .dotted 4 172 16 c.net.dns.toText 109 ∧
      extended.ShowsAddress .dotted 4 188 16 c.net.netmask.toText 105) ∧
    extended.ShowsAddress .colons 6 204 18 c.net.mac.toText 113 ∧
    extended.ShowsAddress .colons 6 222 18 c.net.bssid.toText 119 := by
  intro block extended
  have hbytes : ∀ {n : Nat} (v : Vector UInt8 n), v.toList.length = n :=
    fun _ => Vector.length_toList
  have hplaced := placed_fields c
  rw [AddressForm.toText_ipv4, AddressForm.toText_ipv4, AddressForm.toText_ipv4,
    AddressForm.toText_ipv4, AddressForm.toText_mac, AddressForm.toText_mac] at hplaced ⊢
  refine ⟨⟨length_toBlock c, length_toExtendedBlock c, take_toExtendedBlock c⟩, ⟨?_, ?_, ?_⟩,
    ⟨?_, ?_, ?_, ?_, ?_, ?_⟩, ⟨?_, ?_, ?_, ?_⟩, ?_, ?_⟩
  iterate 3
    refine showsText (slice_toBlock ?_ (length_field (by decide) _) (by decide))
    simp [hplaced]
  iterate 6
    refine slice_toBlock ?_ (hbytes _) (by decide)
    simp [hplaced]
  iterate 6
    refine showsAddress (by decide) rfl
      (slice_toExtendedBlock ?_ (length_field (by decide) _)) (slice_toExtendedBlock ?_ (hbytes _))
    iterate 2
      simp [hplaced]

/-- A network name of 34 bytes is cut within its accented character, and the fields behind it stay
where they are. -/
theorem adapter_block_layout_long_name :
    let c : AdapterConfig :=
      { net :=
          { ssid := "0123456789012345678901234567890é!", hostname := "fujinet",
            ip := #v[192, 168, 1, 64], mac := #v[0xDE, 0xAD, 0xBE, 0xEF, 0, 1] },
        version := "v1.0" }
    '\x00' ∉ c.net.ssid.toList ∧
      (c.toBlock.slice 0 33).beforeNul = Text.encode "0123456789012345678901234567890" ++ [0xC3] ∧
      (c.toBlock.slice 33 64).beforeNul = Text.encode "fujinet" ∧
      c.toExtendedBlock.slice 140 16 = Text.encode "192.168.1.64" ++ List.replicate 4 0 ∧
      c.toExtendedBlock.slice 204 18 = Text.encode "DE:AD:BE:EF:00:01" ++ [0] := by
  intro c
  obtain ⟨-, ⟨hssid, hhostname, -⟩, -, ⟨hip, -⟩, hmac, -⟩ := adapter_block_layout c
  have hnul : '\x00' ∉ c.net.ssid.toList := by decide +kernel
  refine ⟨hnul, (hssid.shown hnul).trans ?_, (hhostname.shown (by decide +kernel)).trans ?_,
    hip.whole.trans ?_, hmac.whole.trans ?_⟩
  iterate 4 decide +kernel

end StorageAdapter
