import Mathlib.Data.List.Infix
import StorageAdapter.Proofs.Numeral
import StorageAdapter.Proofs.Utf8
import StorageAdapter.Text.Percent

/-! # Percent escapes

A text may be written with any of its characters as escapes of all their bytes, in digits of either
case (`Escapes`). As long as every `%` is, it is read back as it was (`percentDecode_of_escapes`);
and nothing is written but the characters that are kept, `%` and digits (`Escapes.mem`). A text in
which no `%` has two digits behind it is left as it is (`percentDecode_of_no_escape`). -/

namespace StorageAdapter.Text

/-- The bytes as escapes: `%` and two hexadecimal digits each, in either case. -/
inductive EscapedBytes : Bytes → List Char → Prop
  | nil : EscapedBytes [] []
  | cons {b : UInt8} {bs : Bytes} {high low : Char} {w : List Char}
      (hhigh : digitValue 16 high = some (b.toNat / 16))
      (hlow : digitValue 16 low = some (b.toNat % 16)) (h : EscapedBytes bs w) :
      EscapedBytes (b :: bs) ('%' :: high :: low :: w)

/-- **A text with escapes**: a character is kept, if it may be, or written as the escapes of its
bytes. -/
inductive Escapes (kept : Char → Prop) : List Char → List Char → Prop
  | nil : Escapes kept [] []
  | keep {c : Char} {cs ds : List Char} (hc : kept c) (h : Escapes kept cs ds) :
      Escapes kept (c :: cs) (c :: ds)
  | escape {c : Char} {cs w ds : List Char} (hw : EscapedBytes (String.utf8EncodeChar c) w)
      (h : Escapes kept cs ds) : Escapes kept (c :: cs) (w ++ ds)

/-! ### Reading escapes -/

/-- A digit has the same value as a byte and as a character. -/
theorem hexValue_ofNat : ∀ n < 128,
    hexValue (UInt8.ofNat n) = (digitValue 16 (Char.ofNat n)).map UInt8.ofNat := by decide +kernel

theorem toNat_lt_of_digitValue {c : Char} {v : Nat} (h : digitValue 16 c = some v) :
    c.toNat < 128 := by
  have hdigit := isDigit_of_digitValue (Nat.le_refl 16) h
  unfold IsDigit at hdigit
  omega

theorem hexValue_of_digitValue {c : Char} {v : Nat} (h : digitValue 16 c = some v) :
    hexValue (UInt8.ofNat c.toNat) = some (UInt8.ofNat v) := by
  rw [hexValue_ofNat _ (toNat_lt_of_digitValue h), Char.ofNat_toNat, h]
  rfl

/-- The digits of a byte stand for it. -/
theorem escaped_of_digitValue {b : UInt8} {high low : Char}
    (hhigh : digitValue 16 high = some (b.toNat / 16))
    (hlow : digitValue 16 low = some (b.toNat % 16)) :
    escaped (UInt8.ofNat high.toNat) (UInt8.ofNat low.toNat) = some b := by
  have hb := b.toNat_lt
  -- the sum does not wrap around, for the digits are those of a byte
  have hsum : UInt8.ofNat (b.toNat / 16) * 16 + UInt8.ofNat (b.toNat % 16) = b := by
    refine UInt8.toNat_inj.1 ?_
    rw [UInt8.toNat_add, UInt8.toNat_mul, UInt8.toNat_ofNat', UInt8.toNat_ofNat']
    simp only [UInt8.reduceToNat]
    omega
  unfold escaped
  rw [hexValue_of_digitValue hhigh, hexValue_of_digitValue hlow]
  exact congrArg some hsum

theorem unescapeBytes_escape {high low b : UInt8} (h : escaped high low = some b) (bs : Bytes) :
    unescapeBytes (37 :: high :: low :: bs) = b :: unescapeBytes bs := by
  rw [unescapeBytes, h]

theorem unescapeBytes_cons_of_ne {b : UInt8} (hb : b ≠ 37) (bs : Bytes) :
    unescapeBytes (b :: bs) = b :: unescapeBytes bs := by
  rw [unescapeBytes]
  exact fun _ _ _ h => absurd h hb

/-- What holds no `%` stands for itself. -/
theorem unescapeBytes_append {xs : Bytes} (h : 37 ∉ xs) (ys : Bytes) :
    unescapeBytes (xs ++ ys) = xs ++ unescapeBytes ys := by
  induction xs with
  | nil => rfl
  | cons x xs ih =>
    rw [List.mem_cons, not_or] at h
    rw [List.cons_append, unescapeBytes_cons_of_ne (Ne.symm h.1), ih h.2, List.cons_append]

/-- **Escapes are read as the bytes that they were written for.** -/
theorem EscapedBytes.unescapeBytes {bs : Bytes} {w : List Char} (h : EscapedBytes bs w)
    (rest : Bytes) :
    unescapeBytes (w.flatMap String.utf8EncodeChar ++ rest) = bs ++ unescapeBytes rest := by
  induction h with
  | nil => rfl
  | @cons b bs high low w hhigh hlow _ ih =>
    have hwritten : ('%' :: high :: low :: w).flatMap String.utf8EncodeChar ++ rest =
        37 :: UInt8.ofNat high.toNat :: UInt8.ofNat low.toNat ::
          (w.flatMap String.utf8EncodeChar ++ rest) := by
      rw [List.flatMap_cons, List.flatMap_cons, List.flatMap_cons,
        utf8EncodeChar_of_lt (toNat_lt_of_digitValue hhigh),
        utf8EncodeChar_of_lt (toNat_lt_of_digitValue hlow)]
      rfl
    rw [hwritten, unescapeBytes_escape (escaped_of_digitValue hhigh hlow), ih]
    rfl

section Escapes

variable {kept : Char → Prop} {cs ds : List Char}

/-- Induction on the text, one character at a time. -/
theorem Escapes.unescapeBytes (hkept : ∀ c, kept c → c ≠ '%') (h : Escapes kept cs ds) :
    unescapeBytes (ds.flatMap String.utf8EncodeChar) = cs.flatMap String.utf8EncodeChar := by
  induction h with
  | nil => rfl
  | @keep c cs ds hc _ ih =>
    -- among the bytes of a kept character there is no mark, for it is not the mark itself
    have hmark : 37 ∉ String.utf8EncodeChar c := fun hmem => by
      have hc37 : c.toNat = 37 := toNat_eq_of_mem_utf8EncodeChar hmem (by decide)
      exact hkept c hc (by rw [← Char.ofNat_toNat c, hc37])
    rw [List.flatMap_cons, unescapeBytes_append hmark, ih, List.flatMap_cons]
  | @escape c cs w ds hw _ ih =>
    rw [List.flatMap_append, hw.unescapeBytes, ih, List.flatMap_cons]

/-- **A text with escapes is read as the text**, if every `%` of it is escaped. -/
theorem percentDecode_of_escapes (hkept : ∀ c, kept c → c ≠ '%') {s t : String}
    (h : Escapes kept s.toList t.toList) : percentDecode t = s := by
  have hbytes : Text.unescapeBytes (encode t) = encode s := h.unescapeBytes hkept
  unfold percentDecode
  rw [hbytes, decodeLossy_encode]

/-! ### What is written -/

theorem EscapedBytes.mem {bs : Bytes} {w : List Char} (h : EscapedBytes bs w) {c : Char}
    (hc : c ∈ w) : c = '%' ∨ IsDigit c := by
  induction h with
  | nil => exact absurd hc List.not_mem_nil
  | cons hhigh hlow _ ih =>
    rcases List.mem_cons.1 hc with rfl | hc
    · exact .inl rfl
    rcases List.mem_cons.1 hc with rfl | hc
    · exact .inr (isDigit_of_digitValue (Nat.le_refl 16) hhigh)
    rcases List.mem_cons.1 hc with rfl | hc
    · exact .inr (isDigit_of_digitValue (Nat.le_refl 16) hlow)
    · exact ih hc

/-- **Only what may be kept, `%` and digits are written.** -/
theorem Escapes.mem (h : Escapes kept cs ds) {c : Char} (hc : c ∈ ds) :
    kept c ∨ c = '%' ∨ IsDigit c := by
  induction h with
  | nil => exact absurd hc List.not_mem_nil
  | keep hkept _ ih =>
    rcases List.mem_cons.1 hc with rfl | hc
    · exact .inl hkept
    · exact ih hc
  | escape hw _ ih =>
    rcases List.mem_append.1 hc with hc | hc
    · exact .inr (hw.mem hc)
    · exact ih hc

/-- No byte is written for a character below the digits that may not be kept, but `%`. -/
theorem Escapes.notMem_encode {s t : String} (h : Escapes kept s.toList t.toList) {c : Char}
    (hc : c.toNat < 48) (hkept : ¬kept c) (hmark : c ≠ '%') :
    UInt8.ofNat c.toNat ∉ encode t := by
  intro hmem
  obtain hk | hm | hd := h.mem (mem_of_mem_encode (by omega) hmem)
  · exact hkept hk
  · exact hmark hm
  · unfold IsDigit at hd
    omega

end Escapes

/-! ### What is no escape -/

/-- An ASCII byte at the beginning of a text is its first character. -/
theorem exists_cons_of_flatMap {cs : List Char} {b : UInt8} {bs : Bytes} (hb : b.toNat < 0x80)
    (h : cs.flatMap String.utf8EncodeChar = b :: bs) :
    ∃ c ds, cs = c :: ds ∧ c.toNat = b.toNat ∧ ds.flatMap String.utf8EncodeChar = bs := by
  rcases cs with _ | ⟨c, ds⟩
  · cases h
  rw [List.flatMap_cons] at h
  obtain ⟨x, xs, hx⟩ := List.exists_cons_of_ne_nil (String.utf8EncodeChar_ne_nil (c := c))
  rw [hx, List.cons_append] at h
  obtain ⟨rfl, -⟩ := List.cons.inj h
  have hc : c.toNat = x.toNat := toNat_eq_of_mem_utf8EncodeChar (hx ▸ List.mem_cons_self) hb
  -- so the character has this byte alone
  have hsingle : String.utf8EncodeChar c = [UInt8.ofNat c.toNat] := utf8EncodeChar_of_lt (by omega)
  rw [← List.cons_append, ← hx, hsingle, List.singleton_append] at h
  exact ⟨c, ds, rfl, hc, (List.cons.inj h).2⟩

theorem isDigit_of_hexValue {c : Char} {b v : UInt8} (hc : c.toNat = b.toNat)
    (h : hexValue b = some v) : IsDigit c := by
  unfold hexValue at h
  simp only [UInt8.le_iff_toNat_le, UInt8.reduceToNat] at h
  unfold IsDigit
  split_ifs at h <;> omega

theorem toNat_lt_of_hexValue {b v : UInt8} (h : hexValue b = some v) : b.toNat < 0x80 := by
  unfold hexValue at h
  simp only [UInt8.le_iff_toNat_le, UInt8.reduceToNat] at h
  split_ifs at h <;> omega

theorem exists_hexValue_of_escaped {high low b : UInt8} (h : escaped high low = some b) :
    (∃ v, hexValue high = some v) ∧ ∃ w, hexValue low = some w := by
  unfold escaped at h
  rcases hhigh : hexValue high with _ | v
  · rw [hhigh] at h
    cases h
  rcases hlow : hexValue low with _ | w
  · rw [hhigh, hlow] at h
    cases h
  exact ⟨⟨v, rfl⟩, w, rfl⟩

/-- Where the text behind a `%` does not begin with two digits, the `%` stands for itself. -/
theorem unescapeBytes_mark {cs : List Char}
    (h : ∀ high low, [high, low] <+: cs → ¬(IsDigit high ∧ IsDigit low)) :
    unescapeBytes (37 :: cs.flatMap String.utf8EncodeChar) =
      37 :: unescapeBytes (cs.flatMap String.utf8EncodeChar) := by
  rcases hbytes : cs.flatMap String.utf8EncodeChar with _ | ⟨high, _ | ⟨low, bs⟩⟩
  · rfl
  · rfl
  rw [unescapeBytes]
  rcases hb : escaped high low with _ | b
  · rfl
  · obtain ⟨⟨v, hhigh⟩, w, hlow⟩ := exists_hexValue_of_escaped hb
    obtain ⟨c, ds, rfl, hc, hds⟩ := exists_cons_of_flatMap (toNat_lt_of_hexValue hhigh) hbytes
    obtain ⟨d, es, rfl, hd, -⟩ := exists_cons_of_flatMap (toNat_lt_of_hexValue hlow) hds
    have hdigits : IsDigit c ∧ IsDigit d :=
      ⟨isDigit_of_hexValue hc hhigh, isDigit_of_hexValue hd hlow⟩
    exact absurd hdigits (h c d (List.prefix_append [c, d] es))

/-- Without escapes the bytes stay as they are. -/
theorem unescapeBytes_of_no_escape {cs : List Char}
    (h : ∀ high low, ['%', high, low] <:+: cs → ¬(IsDigit high ∧ IsDigit low)) :
    unescapeBytes (cs.flatMap String.utf8EncodeChar) = cs.flatMap String.utf8EncodeChar := by
  induction cs with
  | nil => rfl
  | cons c cs ih =>
    have hrest := ih fun high low hin => h high low (hin.trans (List.suffix_cons c cs).isInfix)
    rw [List.flatMap_cons]
    by_cases hc : c = '%'
    · subst hc
      have hmark := unescapeBytes_mark fun high low hpre =>
        h high low (List.cons_prefix_cons.2 ⟨rfl, hpre⟩).isInfix
      exact hmark.trans (congrArg _ hrest)
    · have hplain : 37 ∉ String.utf8EncodeChar c := fun hmem => by
        have hc37 : c.toNat = 37 := toNat_eq_of_mem_utf8EncodeChar hmem (by decide)
        exact hc (by rw [← Char.ofNat_toNat c, hc37])
      rw [unescapeBytes_append hplain, hrest]

/-- **A text without escapes is left as it is.** -/
theorem percentDecode_of_no_escape {s : String}
    (h : ∀ high low, ['%', high, low] <:+: s.toList → ¬(IsDigit high ∧ IsDigit low)) :
    percentDecode s = s := by
  have hbytes : Text.unescapeBytes (encode s) = encode s := unescapeBytes_of_no_escape h
  unfold percentDecode
  rw [hbytes, decodeLossy_encode]

/-! ### Both together -/

/-- However a text is escaped, as long as every `%` of it is, decoding undoes that, once: escapes
that are in the text itself stay. And decoding leaves a text alone in which no `%` has two
hexadecimal digits behind it. -/
theorem escapes_are_undone_once (s : String) :
    (∀ t : String, Escapes (· ≠ '%') s.toList t.toList → percentDecode t = s) ∧
      ((∀ high low, ['%', high, low] <:+: s.toList → ¬(IsDigit high ∧ IsDigit low)) →
        percentDecode s = s) :=
  ⟨fun _ h => percentDecode_of_escapes (fun _ hc => hc) h, percentDecode_of_no_escape⟩

/-- A letter of two bytes is escaped in digits of both cases, and so are three `%` that are no
escapes where they stand: before another one, before a single digit and at the end. -/
theorem escapes_are_undone_once_percent :
    Escapes (· ≠ '%') "é+%%4%".toList "%C3%a9+%25%254%25".toList ∧
      percentDecode "%C3%a9+%25%254%25" = "é+%%4%" ∧
      (∀ high low, ['%', high, low] <:+: "é+%%4%".toList → ¬(IsDigit high ∧ IsDigit low)) ∧
      percentDecode "é+%%4%" = "é+%%4%" := by
  have hlist : "é+%%4%".toList = ['é', '+', '%', '%', '4', '%'] := by decide +kernel
  have hletter : EscapedBytes (String.utf8EncodeChar 'é') ['%', 'C', '3', '%', 'a', '9'] :=
    .cons (by decide +kernel) (by decide +kernel)
      (.cons (by decide +kernel) (by decide +kernel) .nil)
  have hmark : EscapedBytes (String.utf8EncodeChar '%') ['%', '2', '5'] :=
    .cons (by decide +kernel) (by decide +kernel) .nil
  have hescapes : Escapes (· ≠ '%') "é+%%4%".toList "%C3%a9+%25%254%25".toList := by
    rw [hlist, show "%C3%a9+%25%254%25".toList = ['%', 'C', '3', '%', 'a', '9'] ++
      '+' :: (['%', '2', '5'] ++ (['%', '2', '5'] ++ '4' :: (['%', '2', '5'] ++ []))) by
        decide +kernel]
    exact .escape hletter (.keep (by decide) (.escape hmark (.escape hmark
      (.keep (by decide) (.escape hmark .nil)))))
  have hplain : ∀ high low, ['%', high, low] <:+: "é+%%4%".toList →
      ¬(IsDigit high ∧ IsDigit low) := by
    rw [hlist]
    rintro high low hin ⟨hhigh, hlow⟩
    have hplaces : high = '%' ∧ low = '4' ∨ high = '4' ∧ low = '%' := by
      simpa [List.infix_cons_iff] using hin
    obtain ⟨rfl, rfl⟩ | ⟨rfl, rfl⟩ := hplaces
    · simp [IsDigit] at hhigh
    · simp [IsDigit] at hlow
  obtain ⟨hundone, hkept⟩ := escapes_are_undone_once "é+%%4%"
  exact ⟨hescapes, hundone _ hescapes, hplain, hkept hplain⟩

end StorageAdapter.Text
