import Mathlib.Tactic.Common
import StorageAdapter.Proofs.Utf8

/-! # Strict reading

Strict reading accepts exactly the bytes that are written for some text, and yields that text
(`decode?_eq_some_iff`). What remains to be shown of it is that bytes without an ill-formed part are
those of their characters. The ranges of the second byte are what rules out another sequence for the
same character: whatever a lead byte opens is written with that byte first (`begins_of_lead`). -/

namespace StorageAdapter.Text

/-! ### Sequences of two, three and four bytes -/

section Encodes

variable {v : Nat} {b c d e : UInt8}

theorem toNat_ofNat_of_valid (h : v < 0xD800 ∨ 0xDFFF < v ∧ v < 0x110000) :
    (Char.ofNat v).toNat = v := by
  rw [toNat_ofNat, if_pos h]

theorem ofNat_eq_of_toNat {n : Nat} (h : n = b.toNat) : UInt8.ofNat n = b := by
  rw [h, UInt8.ofNat_toNat]

theorem continuation_eq {n : Nat} (h : n % 64 = b.toNat - 0x80)
    (hb : 0x80 ≤ b.toNat) : continuation n = b :=
  ofNat_eq_of_toNat (by omega)

theorem utf8EncodeChar_two (hb : 0xC2 ≤ b.toNat ∧ b.toNat ≤ 0xDF)
    (hc : 0x80 ≤ c.toNat ∧ c.toNat ≤ 0xBF)
    (hv : v = (b.toNat - 0xC0) * 64 + (c.toNat - 0x80)) :
    String.utf8EncodeChar (Char.ofNat v) = [b, c] := by
  have hvalue := toNat_ofNat_of_valid (v := v) (by omega)
  have hlead : UInt8.ofNat (v / 64 % 32 + 0xC0) = b := ofNat_eq_of_toNat (by omega)
  have hlast : continuation v = c := continuation_eq (by omega) hc.1
  rw [utf8EncodeChar_eq, hvalue, if_neg (by omega), if_pos (by omega), hlead, hlast]

theorem utf8EncodeChar_three (hb : 0xE0 ≤ b.toNat ∧ b.toNat ≤ 0xEF)
    (hc : 0x80 ≤ c.toNat ∧ c.toNat ≤ 0xBF) (hd : 0x80 ≤ d.toNat ∧ d.toNat ≤ 0xBF)
    (hv : v = ((b.toNat - 0xE0) * 64 + (c.toNat - 0x80)) * 64 + (d.toNat - 0x80))
    (hleast : 0x800 ≤ v) (hsurrogate : v < 0xD800 ∨ 0xDFFF < v) :
    String.utf8EncodeChar (Char.ofNat v) = [b, c, d] := by
  have hvalue := toNat_ofNat_of_valid (v := v) (by omega)
  have hlead : UInt8.ofNat (v / 4096 % 16 + 0xE0) = b := ofNat_eq_of_toNat (by omega)
  have hmid : continuation (v / 64) = c := continuation_eq (by omega) hc.1
  have hlast : continuation v = d := continuation_eq (by omega) hd.1
  rw [utf8EncodeChar_eq, hvalue, if_neg (by omega), if_neg (by omega), if_pos (by omega), hlead,
    hmid, hlast]

theorem utf8EncodeChar_four (hb : 0xF0 ≤ b.toNat ∧ b.toNat ≤ 0xF7)
    (hc : 0x80 ≤ c.toNat ∧ c.toNat ≤ 0xBF) (hd : 0x80 ≤ d.toNat ∧ d.toNat ≤ 0xBF)
    (he : 0x80 ≤ e.toNat ∧ e.toNat ≤ 0xBF)
    (hv : v = (((b.toNat - 0xF0) * 64 + (c.toNat - 0x80)) * 64 + (d.toNat - 0x80)) * 64 +
      (e.toNat - 0x80))
    (hleast : 0x10000 ≤ v) (hmost : v < 0x110000) :
    String.utf8EncodeChar (Char.ofNat v) = [b, c, d, e] := by
  have hvalue := toNat_ofNat_of_valid (v := v) (by omega)
  have hlead : UInt8.ofNat (v / 262144 % 8 + 0xF0) = b := ofNat_eq_of_toNat (by omega)
  have hhigh : continuation (v / 4096) = c := continuation_eq (by omega) hc.1
  have hmid : continuation (v / 64) = d := continuation_eq (by omega) hd.1
  have hlast : continuation v = e := continuation_eq (by omega) he.1
  rw [utf8EncodeChar_eq, hvalue, if_neg (by omega), if_neg (by omega), if_neg (by omega), hlead,
    hhigh, hmid, hlast]

end Encodes

/-! ### What is open -/

/-- However the character is completed, it is written as the bytes read so far and those that
complete it. -/
def Begins (read : Bytes) (value : Nat) (low high : UInt8) : Nat → Prop
  | 0 => False
  | 1 => ∀ b, low ≤ b → b ≤ high →
    String.utf8EncodeChar (Char.ofNat (value * 64 + (b.toNat - 0x80))) = read ++ [b]
  | n + 2 => ∀ b, low ≤ b → b ≤ high →
    Begins (read ++ [b]) (value * 64 + (b.toNat - 0x80)) 0x80 0xBF (n + 1)

/-- What a lead byte opens is written with that byte first. -/
theorem begins_of_lead {b : UInt8} {p : Open} (h : lead b = some p) :
    Begins [b] p.value p.low p.high p.missing := by
  unfold lead at h
  simp only [UInt8.le_iff_toNat_le, ← UInt8.toNat_inj, UInt8.reduceToNat] at h
  split_ifs at h <;> obtain rfl := Option.some.inj h <;>
    simp only [Begins, UInt8.le_iff_toNat_le, UInt8.reduceToNat]
  · intro c hc hc'
    exact utf8EncodeChar_two ⟨by omega, by omega⟩ ⟨hc, hc'⟩ rfl
  · intro c hc hc' d hd hd'
    exact utf8EncodeChar_three (by omega) (by omega) ⟨hd, hd'⟩ (by omega) (by omega) (by omega)
  · intro c hc hc' d hd hd'
    exact utf8EncodeChar_three (by omega) (by omega) ⟨hd, hd'⟩ (by omega) (by omega) (by omega)
  · intro c hc hc' d hd hd'
    exact utf8EncodeChar_three (by omega) (by omega) ⟨hd, hd'⟩ rfl (by omega) (by omega)
  · intro c hc hc' d hd hd' e he he'
    exact utf8EncodeChar_four (by omega) (by omega) ⟨hd, hd'⟩ ⟨he, he'⟩ (by omega) (by omega)
      (by omega)
  · intro c hc hc' d hd hd' e he he'
    exact utf8EncodeChar_four (by omega) (by omega) ⟨hd, hd'⟩ ⟨he, he'⟩ rfl (by omega) (by omega)
  · intro c hc hc' d hd hd' e he he'
    exact utf8EncodeChar_four (by omega) (by omega) ⟨hd, hd'⟩ ⟨he, he'⟩ (by omega) (by omega)
      (by omega)

/-- Of bytes without an ill-formed part, the first complete what is open. -/
theorem unitsFrom_begins {read bs : Bytes} {p : Open}
    (hp : Begins read p.value p.low p.high p.missing) (h : none ∉ unitsFrom (some p) bs) :
    ∃ c rest, read ++ bs = String.utf8EncodeChar c ++ rest ∧
      unitsFrom (some p) bs = some c :: units rest := by
  induction bs generalizing read p with
  | nil => exact absurd List.mem_cons_self h
  | cons b bs ih =>
    by_cases hb : p.low ≤ b ∧ b ≤ p.high
    · rcases hm : p.missing with _ | _ | n
      · rw [hm] at hp
        exact hp.elim
      · rw [hm] at hp
        refine ⟨_, bs, ?_, unitsFrom_last hb.1 hb.2 (Nat.le_of_eq hm) bs⟩
        rw [hp b hb.1 hb.2, List.append_assoc]
        rfl
      · have hmore := unitsFrom_more hb.1 hb.2 (by omega) bs
        rw [hm, Nat.add_sub_cancel] at hmore
        rw [hm] at hp
        rw [hmore] at h ⊢
        obtain ⟨c, rest, hbytes, hunits⟩ :=
          ih (p := ⟨p.value * 64 + (b.toNat - 0x80), n + 1, 0x80, 0xBF⟩) (hp b hb.1 hb.2) h
        refine ⟨c, rest, ?_, hunits⟩
        rw [← hbytes, List.append_assoc]
        rfl
    · -- a byte out of range leaves an ill-formed part behind
      have hnone : none ∈ (resume p b).1 := by
        unfold resume
        rw [if_neg hb]
        exact List.mem_cons_self
      exact absurd (List.mem_append_left _ hnone) h

/-! ### Whole texts -/

/-- Bytes without an ill-formed part begin with a character. -/
theorem units_cons {b : UInt8} {bs : Bytes} (h : none ∉ units (b :: bs)) :
    ∃ c rest, b :: bs = String.utf8EncodeChar c ++ rest ∧
      units (b :: bs) = some c :: units rest := by
  by_cases hb : b.toNat < 0x80
  · have hvalue : (Char.ofNat b.toNat).toNat = b.toNat := toNat_ofNat_of_valid (.inl (by omega))
    refine ⟨Char.ofNat b.toNat, bs, ?_, unitsFrom_append proper_of_none hb [] bs⟩
    rw [utf8EncodeChar_of_lt (hvalue.symm ▸ hb), hvalue, UInt8.ofNat_toNat]
    rfl
  · rcases hl : lead b with _ | p
    · have hstart : start b = ([none], none) := by
        unfold start
        rw [if_neg (mt UInt8.lt_iff_toNat_lt.1 hb), hl]
      have hunits : units (b :: bs) = none :: units bs := by
        show (start b).1 ++ unitsFrom (start b).2 bs = _
        rw [hstart]
        rfl
      exact absurd (hunits ▸ List.mem_cons_self) h
    · have hunits : units (b :: bs) = unitsFrom (some p) bs := unitsFrom_lead hl bs
      rw [hunits] at h ⊢
      exact unitsFrom_begins (begins_of_lead hl) h

/-- **Bytes without an ill-formed part are those of their characters.** -/
theorem flatMap_utf8EncodeChar_of_units {bs : Bytes} {cs : List Char}
    (h : units bs = cs.map some) : cs.flatMap String.utf8EncodeChar = bs := by
  induction cs generalizing bs with
  | nil =>
    rcases bs with _ | ⟨b, bs⟩
    · rfl
    · have hnone : none ∉ units (b :: bs) := by
        rw [h]
        exact List.not_mem_nil
      obtain ⟨c, rest, -, hunits⟩ := units_cons hnone
      exact nomatch hunits.symm.trans h
  | cons c cs ih =>
    rcases bs with _ | ⟨b, bs⟩
    · exact nomatch h
    · have hnone : none ∉ units (b :: bs) := by
        rw [h]
        simp
      obtain ⟨c', rest, hbytes, hunits⟩ := units_cons hnone
      obtain ⟨hc, hrest⟩ := List.cons.inj (hunits.symm.trans h)
      rw [List.flatMap_cons, hbytes, ih hrest, Option.some.inj hc]

theorem eq_map_some_of_mapM {us : List (Option Char)} {cs : List Char}
    (h : us.mapM id = some cs) : us = cs.map some := by
  induction us generalizing cs with
  | nil =>
    cases h
    rfl
  | cons u us ih =>
    simp only [List.mapM_cons, id_eq, Option.bind_eq_bind, Option.pure_def,
      Option.bind_eq_some_iff, Option.some.injEq] at h
    obtain ⟨c, rfl, cs, hcs, rfl⟩ := h
    rw [ih hcs, List.map_cons]

/-- **Strict reading accepts what is written, and nothing else.** -/
theorem decode?_eq_some_iff {bs : Bytes} {s : String} : decode? bs = some s ↔ encode s = bs := by
  constructor
  · intro h
    obtain ⟨cs, hcs, rfl⟩ := Option.map_eq_some_iff.1 h
    unfold encode
    rw [String.toList_ofList]
    exact flatMap_utf8EncodeChar_of_units (eq_map_some_of_mapM hcs)
  · rintro rfl
    exact decode?_encode s

end StorageAdapter.Text
