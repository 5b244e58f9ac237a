import Mathlib.Tactic.Common
import StorageAdapter.Text.Split
import StorageAdapter.Text.Utf8

/-! # Reading text around ASCII bytes

An ASCII byte is always read as its own character, whatever precedes it, and no other bytes are read
as that character. So it makes no difference whether bytes are split at an ASCII byte before they
are read or their text is split at the character (`splitPath_decodeLossy_append`). This rests on
what may be left open between two bytes (`Open.Proper`). What was written from text is read as that
text (`decodeLossy_encode`). -/

namespace StorageAdapter.Text

/-! ### What may be open -/

/-- The least value that a character has behind `n` more bytes. -/
def leastAfter (value : Nat) : Nat → Nat
  | 0 => value
  | n + 1 => leastAfter (value * 64) n

theorem leastAfter_mono {v w : Nat} (h : v ≤ w) (n : Nat) : leastAfter v n ≤ leastAfter w n := by
  induction n generalizing v w with
  | zero => exact h
  | succ n ih => exact ih (Nat.mul_le_mul_right 64 h)

/-- The next byte is not ASCII, and the character, once it is complete, will not be. -/
structure Open.Proper (p : Open) : Prop where
  low : 0x80 ≤ p.low.toNat
  value : 0x80 ≤ leastAfter (p.value * 64 + (p.low.toNat - 0x80)) (p.missing - 1)

theorem proper_of_ite {c : Prop} [Decidable c] {p q : Open} {x : Option Open}
    (h : (if c then some q else x) = some p) (hq : c → q.Proper) (hx : x = some p → p.Proper) :
    p.Proper := by
  by_cases hc : c
  · rw [if_pos hc] at h
    exact Option.some.inj h ▸ hq hc
  · rw [if_neg hc] at h
    exact hx h

/-- A lead byte opens a character that is not ASCII. The narrower ranges see to that where the lead
byte has no value by itself. -/
theorem proper_of_lead {b : UInt8} {p : Open} (h : lead b = some p) : p.Proper := by
  unfold lead at h
  simp only [UInt8.le_iff_toNat_le, UInt8.reduceToNat] at h
  refine proper_of_ite h (fun hb => ⟨Nat.le_refl 128, ?_⟩) fun h => ?_
  · simp only [UInt8.reduceToNat, Nat.reduceSub, leastAfter]
    omega
  refine proper_of_ite h (fun _ => ⟨by decide, by decide⟩) fun h => ?_
  refine proper_of_ite h (fun _ => ⟨by decide, by decide⟩) fun h => ?_
  refine proper_of_ite h (fun hb => ⟨Nat.le_refl 128, ?_⟩) fun h => ?_
  · simp only [UInt8.reduceToNat, Nat.reduceSub, leastAfter]
    omega
  refine proper_of_ite h (fun _ => ⟨by decide, by decide⟩) fun h => ?_
  refine proper_of_ite h (fun hb => ⟨Nat.le_refl 128, ?_⟩) fun h => ?_
  · simp only [UInt8.reduceToNat, Nat.reduceSub, leastAfter]
    omega
  exact proper_of_ite h (fun _ => ⟨by decide, by decide⟩) nofun

theorem proper_of_start {b : UInt8} {p : Open} (h : (start b).2 = some p) : p.Proper := by
  unfold start at h
  split at h
  · cases h
  · rcases hl : lead b with _ | q <;> rw [hl] at h
    · cases h
    · exact Option.some.inj h ▸ proper_of_lead hl

theorem Open.Proper.resume {p q : Open} (hp : p.Proper) {b : UInt8}
    (h : (Text.resume p b).2 = some q) : q.Proper := by
  unfold Text.resume at h
  split at h
  · next hb =>
    simp only at h
    split at h
    · cases h
    · next hm =>
      obtain rfl := Option.some.inj h
      -- the least value was foreseen with the lowest byte that may stand here
      refine ⟨Nat.le_refl 128, Nat.le_trans hp.value ?_⟩
      have hlow := UInt8.le_iff_toNat_le.1 hb.1
      obtain ⟨n, hn⟩ : ∃ n, p.missing = n + 2 := ⟨p.missing - 2, by omega⟩
      simp only [hn, UInt8.reduceToNat, Nat.sub_self, Nat.add_zero, Nat.add_one_sub_one]
      rw [leastAfter]
      exact leastAfter_mono (Nat.mul_le_mul_right 64 (by omega)) n
  · exact proper_of_start h

theorem proper_of_none (p : Open) (h : none = some p) : p.Proper := by cases h

/-! ### ASCII bytes -/

theorem toNat_ofNat (n : Nat) :
    (Char.ofNat n).toNat = if n.isValidChar then n else 0 := by
  unfold Char.ofNat
  by_cases h : n.isValidChar
  · rw [dif_pos h, if_pos h]
    rfl
  · rw [dif_neg h, if_neg h]
    rfl

/-- An ASCII byte ends what is open and is read as its own character. -/
theorem unitsFrom_append {p : Option Open} (hp : ∀ q, p = some q → q.Proper) {b : UInt8}
    (hb : b.toNat < 0x80) (xs ys : Bytes) :
    unitsFrom p (xs ++ b :: ys) =
      unitsFrom p xs ++ some (Char.ofNat b.toNat) :: unitsFrom none ys := by
  have hstart : start b = ([some (Char.ofNat b.toNat)], none) :=
    if_pos (UInt8.lt_iff_toNat_lt.2 hb)
  -- along the bytes before, what is open changes but stays proper
  induction xs generalizing p with
  | nil =>
    rcases p with _ | p
    · show (start b).1 ++ unitsFrom (start b).2 ys = _
      rw [hstart]
      rfl
    · have hlow := (hp p rfl).low
      have hresume : resume p b = ([none, some (Char.ofNat b.toNat)], none) := by
        unfold resume
        rw [if_neg, hstart]
        rw [UInt8.le_iff_toNat_le]
        omega
      show (resume p b).1 ++ unitsFrom (resume p b).2 ys = _
      rw [hresume]
      rfl
  | cons x xs ih =>
    rcases p with _ | p
    · show (start x).1 ++ unitsFrom (start x).2 (xs ++ b :: ys) = _
      rw [ih fun q hq => proper_of_start hq, ← List.append_assoc]
      rfl
    · show (resume p x).1 ++ unitsFrom (resume p x).2 (xs ++ b :: ys) = _
      rw [ih fun q hq => (hp p rfl).resume hq, ← List.append_assoc]
      rfl

/-- The text on both sides of an ASCII byte is read apart. -/
theorem toList_decodeLossy_append {b : UInt8} (hb : b.toNat < 0x80) (xs ys : Bytes) :
    (decodeLossy (xs ++ b :: ys)).toList =
      (decodeLossy xs).toList ++ Char.ofNat b.toNat :: (decodeLossy ys).toList := by
  unfold decodeLossy units
  rw [unitsFrom_append proper_of_none hb]
  simp only [String.toList_ofList, List.map_append, List.map_cons, Option.getD_some]

theorem utf8EncodeChar_of_lt {c : Char} (h : c.toNat < 0x80) :
    String.utf8EncodeChar c = [UInt8.ofNat c.toNat] := by
  unfold String.utf8EncodeChar
  exact if_pos (Nat.le_of_lt_succ h)

theorem flatMap_utf8EncodeChar_of_lt {cs : List Char} (h : ∀ c ∈ cs, c.toNat < 0x80) :
    cs.flatMap String.utf8EncodeChar = cs.map fun c => UInt8.ofNat c.toNat := by
  induction cs with
  | nil => rfl
  | cons c cs ih =>
    rw [List.flatMap_cons, utf8EncodeChar_of_lt (h c List.mem_cons_self),
      ih fun c hc => h c (List.mem_cons_of_mem _ hc)]
    rfl

section Origin

variable {c : Char} (hc : c.toNat < 0x80) (hn : c.toNat ≠ 0)
include hc

theorem toNat_eq_of_mem_start {b : UInt8} (h : some c ∈ (start b).1) : b.toNat = c.toNat := by
  unfold start at h
  split at h
  · next hb =>
    obtain rfl := Option.some.inj (List.mem_singleton.1 h)
    have hb : b.toNat < 0x80 := UInt8.lt_iff_toNat_lt.1 hb
    rw [toNat_ofNat, if_pos (.inl (by omega))]
  · rcases hl : lead b with _ | q <;> rw [hl] at h
    · cases List.mem_singleton.1 h
    · cases h

include hn

theorem toNat_eq_of_mem_resume {p : Open} (hp : p.Proper) {b : UInt8}
    (h : some c ∈ (resume p b).1) : b.toNat = c.toNat := by
  unfold resume at h
  split at h
  · next hb =>
    simp only at h
    split at h
    · next hm =>
      -- a character that is completed is not ASCII
      have hlow := UInt8.le_iff_toNat_le.1 hb.1
      have hvalue := hp.value
      rw [show p.missing - 1 = 0 by omega, leastAfter] at hvalue
      simp only [List.mem_singleton, Option.some.injEq] at h
      rw [h, toNat_ofNat] at hc hn
      split at hc <;> split at hn <;> omega
    · cases h
  · rcases List.mem_cons.1 h with h | h
    · cases h
    · exact toNat_eq_of_mem_start hc h

/-- An ASCII character other than NUL is only read from its own byte. -/
theorem exists_mem_of_mem_unitsFrom {p : Option Open} (hp : ∀ q, p = some q → q.Proper)
    {xs : Bytes} (h : some c ∈ unitsFrom p xs) : ∃ b ∈ xs, b.toNat = c.toNat := by
  induction xs generalizing p with
  | nil => rcases p with _ | p <;> simp [unitsFrom] at h
  | cons b xs ih =>
    have hrest : ∀ {q : Option Open}, (∀ r, q = some r → r.Proper) → some c ∈ unitsFrom q xs →
        ∃ b' ∈ b :: xs, b'.toNat = c.toNat := fun hq h => by
      obtain ⟨b', hb', he⟩ := ih hq h
      exact ⟨b', List.mem_cons_of_mem b hb', he⟩
    rcases p with _ | p
    · rcases List.mem_append.1 (show some c ∈ (start b).1 ++ _ from h) with h | h
      · exact ⟨b, List.mem_cons_self, toNat_eq_of_mem_start hc h⟩
      · exact hrest (fun q hq => proper_of_start hq) h
    · rcases List.mem_append.1 (show some c ∈ (resume p b).1 ++ _ from h) with h | h
      · exact ⟨b, List.mem_cons_self, toNat_eq_of_mem_resume hc hn (hp p rfl) h⟩
      · exact hrest (fun q hq => (hp p rfl).resume hq) h

theorem exists_mem_of_mem_decodeLossy {xs : Bytes} (h : c ∈ (decodeLossy xs).toList) :
    ∃ b ∈ xs, b.toNat = c.toNat := by
  unfold decodeLossy at h
  rw [String.toList_ofList] at h
  obtain ⟨u, hu, rfl⟩ := List.mem_map.1 h
  rcases u with _ | c
  · exact absurd hc (by decide)
  · exact exists_mem_of_mem_unitsFrom hc hn proper_of_none hu

end Origin

/-! ### Reading back what was written -/

/-- A byte in range that completes a character. -/
theorem unitsFrom_last {p : Open} {b : UInt8} (hlow : p.low ≤ b) (hhigh : b ≤ p.high)
    (hm : p.missing ≤ 1) (bs : Bytes) : unitsFrom (some p) (b :: bs) =
      some (Char.ofNat (p.value * 64 + (b.toNat - 0x80))) :: unitsFrom none bs := by
  show (resume p b).1 ++ unitsFrom (resume p b).2 bs = _
  unfold resume
  rw [if_pos ⟨hlow, hhigh⟩]
  simp only
  rw [if_pos hm]
  rfl

/-- A byte in range after which more are missing. -/
theorem unitsFrom_more {p : Open} {b : UInt8} (hlow : p.low ≤ b) (hhigh : b ≤ p.high)
    (hm : 1 < p.missing) (bs : Bytes) : unitsFrom (some p) (b :: bs) =
      unitsFrom (some ⟨p.value * 64 + (b.toNat - 0x80), p.missing - 1, 0x80, 0xBF⟩) bs := by
  show (resume p b).1 ++ unitsFrom (resume p b).2 bs = _
  unfold resume
  rw [if_pos ⟨hlow, hhigh⟩]
  simp only
  rw [if_neg (Nat.not_le.2 hm)]
  rfl

/-- The byte of a character that has been begun, by the six bits in it. -/
def continuation (n : Nat) : UInt8 := UInt8.ofNat (n % 64 + 0x80)

theorem toNat_continuation (n : Nat) : (continuation n).toNat = n % 64 + 0x80 := by
  unfold continuation
  rw [UInt8.toNat_ofNat']
  omega

theorem continuation_mem (n : Nat) : 0x80 ≤ continuation n ∧ continuation n ≤ 0xBF := by
  simp only [UInt8.le_iff_toNat_le, toNat_continuation, UInt8.reduceToNat]
  omega

theorem lead_of_lt {b : UInt8} (hb : b.toNat < 0x80) : lead b = none := by
  unfold lead
  simp only [UInt8.le_iff_toNat_le, ← UInt8.toNat_inj, UInt8.reduceToNat]
  rw [if_neg (by omega), if_neg (by omega), if_neg (by omega), if_neg (by omega),
    if_neg (by omega), if_neg (by omega), if_neg (by omega)]

theorem unitsFrom_lead {b : UInt8} {p : Open} (h : lead b = some p) (bs : Bytes) :
    unitsFrom none (b :: bs) = unitsFrom (some p) bs := by
  have hb : ¬b < 0x80 := fun hb =>
    nomatch (lead_of_lt (UInt8.lt_iff_toNat_lt.1 hb)).symm.trans h
  show (start b).1 ++ unitsFrom (start b).2 bs = _
  unfold start
  rw [if_neg hb, h]
  rfl

theorem lead_two {v : Nat} (hv : 0x80 ≤ v) (hv' : v < 0x800) :
    lead (UInt8.ofNat (v / 64 % 32 + 0xC0)) = some ⟨v / 64, 1, 0x80, 0xBF⟩ := by
  unfold lead
  have hb : (UInt8.ofNat (v / 64 % 32 + 0xC0)).toNat = v / 64 + 192 := by
    rw [UInt8.toNat_ofNat']
    omega
  simp only [UInt8.le_iff_toNat_le, hb, UInt8.reduceToNat]
  rw [if_pos (by omega), Nat.add_sub_cancel]

theorem lead_three {v : Nat} (hv : 0x800 ≤ v) (hv' : v < 0x10000)
    (hs : v < 0xD800 ∨ 0xDFFF < v) :
    ∃ low high, lead (UInt8.ofNat (v / 4096 % 16 + 0xE0)) = some ⟨v / 4096, 2, low, high⟩ ∧
      low ≤ continuation (v / 64) ∧ continuation (v / 64) ≤ high := by
  unfold lead
  have hb : (UInt8.ofNat (v / 4096 % 16 + 0xE0)).toNat = v / 4096 + 224 := by
    rw [UInt8.toNat_ofNat']
    omega
  simp only [UInt8.le_iff_toNat_le, ← UInt8.toNat_inj, hb, toNat_continuation, UInt8.reduceToNat]
  rw [if_neg (by omega)]
  by_cases h₁ : v / 4096 = 0
  · rw [if_pos (by omega)]
    refine ⟨_, _, by rw [h₁], ?_⟩
    simp only [UInt8.reduceToNat]
    omega
  rw [if_neg (by omega)]
  by_cases h₂ : v / 4096 = 13
  · rw [if_pos (by omega)]
    refine ⟨_, _, by rw [h₂], ?_⟩
    simp only [UInt8.reduceToNat]
    omega
  rw [if_neg (by omega), if_pos (by omega)]
  refine ⟨_, _, by rw [Nat.add_sub_cancel], ?_⟩
  simp only [UInt8.reduceToNat]
  omega

theorem lead_four {v : Nat} (hv : 0x10000 ≤ v) (hv' : v < 0x110000) :
    ∃ low high, lead (UInt8.ofNat (v / 262144 % 8 + 0xF0)) = some ⟨v / 262144, 3, low, high⟩ ∧
      low ≤ continuation (v / 4096) ∧ continuation (v / 4096) ≤ high := by
  unfold lead
  have hb : (UInt8.ofNat (v / 262144 % 8 + 0xF0)).toNat = v / 262144 + 240 := by
    rw [UInt8.toNat_ofNat']
    omega
  simp only [UInt8.le_iff_toNat_le, ← UInt8.toNat_inj, hb, toNat_continuation, UInt8.reduceToNat]
  rw [if_neg (by omega), if_neg (by omega), if_neg (by omega), if_neg (by omega)]
  by_cases h₁ : v / 262144 = 0
  · rw [if_pos (by omega)]
    refine ⟨_, _, by rw [h₁], ?_⟩
    simp only [UInt8.reduceToNat]
    omega
  rw [if_neg (by omega)]
  by_cases h₂ : v / 262144 = 4
  · rw [if_neg (by omega), if_pos (by omega)]
    refine ⟨_, _, by rw [h₂], ?_⟩
    simp only [UInt8.reduceToNat]
    omega
  rw [if_pos (by omega)]
  refine ⟨_, _, by rw [Nat.add_sub_cancel], ?_⟩
  simp only [UInt8.reduceToNat]
  omega

theorem utf8EncodeChar_eq (c : Char) : String.utf8EncodeChar c =
    if c.toNat ≤ 0x7F then [UInt8.ofNat c.toNat]
    else if c.toNat ≤ 0x7FF then [UInt8.ofNat (c.toNat / 64 % 32 + 0xC0), continuation c.toNat]
    else if c.toNat ≤ 0xFFFF then
      [UInt8.ofNat (c.toNat / 4096 % 16 + 0xE0), continuation (c.toNat / 64), continuation c.toNat]
    else [UInt8.ofNat (c.toNat / 262144 % 8 + 0xF0), continuation (c.toNat / 4096),
      continuation (c.toNat / 64), continuation c.toNat] := rfl

/-- A byte below 0x80 stands for a character of its own. -/
theorem toNat_eq_of_mem_utf8EncodeChar {c : Char} {b : UInt8} (h : b ∈ String.utf8EncodeChar c)
    (hb : b.toNat < 0x80) : c.toNat = b.toNat := by
  have hcontinuation (n : Nat) : b ≠ continuation n := by
    rintro rfl
    rw [toNat_continuation] at hb
    omega
  rw [utf8EncodeChar_eq] at h
  split_ifs at h with h₁ h₂ h₃
  · obtain rfl := List.mem_singleton.1 h
    rw [UInt8.toNat_ofNat']
    omega
  -- all bytes of a longer sequence lie above
  all_goals
    simp only [List.mem_cons, List.not_mem_nil, or_false, hcontinuation] at h
    subst h
    rw [UInt8.toNat_ofNat'] at hb
    omega

/-- The byte of an ASCII character is written for that character alone. -/
theorem mem_of_mem_encode {s : String} {c : Char} (hc : c.toNat < 0x80)
    (h : UInt8.ofNat c.toNat ∈ encode s) : c ∈ s.toList := by
  have hb : (UInt8.ofNat c.toNat).toNat = c.toNat := by
    rw [UInt8.toNat_ofNat']
    omega
  obtain ⟨c', hc', hmem⟩ := List.mem_flatMap.1 h
  have heq : c'.toNat = c.toNat := (toNat_eq_of_mem_utf8EncodeChar hmem (hb.symm ▸ hc)).trans hb
  rwa [← Char.ofNat_toNat c, ← heq, Char.ofNat_toNat]

theorem units_utf8EncodeChar (c : Char) (bs : Bytes) :
    units (String.utf8EncodeChar c ++ bs) = some c :: units bs := by
  have hvalid : c.toNat < 0xD800 ∨ 0xDFFF < c.toNat ∧ c.toNat < 0x110000 := c.valid
  have hlast := continuation_mem c.toNat
  rw [utf8EncodeChar_eq]
  unfold units
  by_cases h₁ : c.toNat ≤ 0x7F
  · rw [if_pos h₁]
    have hb : (UInt8.ofNat c.toNat).toNat = c.toNat := by
      rw [UInt8.toNat_ofNat']
      omega
    refine (unitsFrom_append proper_of_none (hb.symm ▸ Nat.lt_succ_of_le h₁) [] bs).trans ?_
    rw [hb, Char.ofNat_toNat]
    rfl
  rw [if_neg h₁]
  by_cases h₂ : c.toNat ≤ 0x7FF
  · rw [if_pos h₂]
    refine (unitsFrom_lead (lead_two (by omega) (by omega)) _).trans ?_
    refine (unitsFrom_last hlast.1 hlast.2 (Nat.le_refl 1) bs).trans ?_
    have hvalue : c.toNat / 64 * 64 + (c.toNat % 64 + 0x80 - 0x80) = c.toNat := by omega
    rw [toNat_continuation, hvalue, Char.ofNat_toNat]
  rw [if_neg h₂]
  by_cases h₃ : c.toNat ≤ 0xFFFF
  · rw [if_pos h₃]
    obtain ⟨low, high, hl, hlow, hhigh⟩ :=
      lead_three (v := c.toNat) (by omega) (by omega) (by omega)
    refine (unitsFrom_lead hl _).trans ?_
    refine (unitsFrom_more hlow hhigh (Nat.lt_add_one 1) _).trans ?_
    refine (unitsFrom_last hlast.1 hlast.2 (Nat.le_refl 1) bs).trans ?_
    have hvalue : (c.toNat / 4096 * 64 + (c.toNat / 64 % 64 + 0x80 - 0x80)) * 64 +
        (c.toNat % 64 + 0x80 - 0x80) = c.toNat := by omega
    simp only [toNat_continuation]
    rw [hvalue, Char.ofNat_toNat]
  rw [if_neg h₃]
  obtain ⟨low, high, hl, hlow, hhigh⟩ := lead_four (v := c.toNat) (by omega) (by omega)
  have hmid := continuation_mem (c.toNat / 64)
  refine (unitsFrom_lead hl _).trans ?_
  refine (unitsFrom_more hlow hhigh (Nat.lt_add_left 1 (Nat.lt_add_one 1)) _).trans ?_
  refine (unitsFrom_more hmid.1 hmid.2 (Nat.lt_add_one 1) _).trans ?_
  refine (unitsFrom_last hlast.1 hlast.2 (Nat.le_refl 1) bs).trans ?_
  have hvalue : ((c.toNat / 262144 * 64 + (c.toNat / 4096 % 64 + 0x80 - 0x80)) * 64 +
      (c.toNat / 64 % 64 + 0x80 - 0x80)) * 64 + (c.toNat % 64 + 0x80 - 0x80) = c.toNat := by omega
  simp only [toNat_continuation]
  rw [hvalue, Char.ofNat_toNat]

theorem units_encode (s : String) : units (encode s) = s.toList.map some := by
  unfold encode
  induction s.toList with
  | nil => rfl
  | cons c cs ih => rw [List.flatMap_cons, units_utf8EncodeChar, ih, List.map_cons]

/-- **What was written is read back.** -/
theorem decodeLossy_encode (s : String) : decodeLossy (encode s) = s := by
  unfold decodeLossy
  rw [units_encode, List.map_map]
  exact (congrArg String.ofList (List.map_id _)).trans String.ofList_toList

theorem decode?_encode (s : String) : decode? (encode s) = some s := by
  unfold decode?
  rw [units_encode]
  have h : (s.toList.map some).mapM id = some s.toList := by
    induction s.toList with
    | nil => rfl
    | cons c cs ih =>
      rw [List.map_cons, List.mapM_cons, ih]
      rfl
  rw [h]
  exact congrArg some String.ofList_toList

/-! ### Splitting -/

section Split

variable {α : Type} [BEq α] [LawfulBEq α] {sep : α} {xs : List α}

theorem splitFirst_append (h : sep ∉ xs) (ys : List α) :
    splitFirst sep (xs ++ sep :: ys) = (xs, ys) := by
  induction xs with
  | nil => simp [splitFirst]
  | cons x xs ih =>
    rw [List.mem_cons, not_or] at h
    simp [splitFirst, ih h.2, Ne.symm h.1]

theorem splitFirst_of_notMem (h : sep ∉ xs) : splitFirst sep xs = (xs, []) := by
  induction xs with
  | nil => rfl
  | cons x xs ih =>
    rw [List.mem_cons, not_or] at h
    simp [splitFirst, ih h.2, Ne.symm h.1]

theorem splitAll_append (h : sep ∉ xs) (ys : List α) :
    splitAll sep (xs ++ sep :: ys) = xs :: splitAll sep ys := by
  induction xs with
  | nil => simp [splitAll]
  | cons x xs ih =>
    rw [List.mem_cons, not_or] at h
    simp [splitAll, ih h.2, Ne.symm h.1]

theorem splitAll_of_notMem (h : sep ∉ xs) : splitAll sep xs = [xs] := by
  induction xs with
  | nil => rfl
  | cons x xs ih =>
    rw [List.mem_cons, not_or] at h
    simp [splitAll, ih h.2, Ne.symm h.1]

omit [LawfulBEq α] in
theorem splitAll_ne_nil (sep : α) (xs : List α) : splitAll sep xs ≠ [] := by
  rcases xs with _ | ⟨x, xs⟩
  · exact List.cons_ne_nil _ _
  · unfold splitAll
    split
    · exact List.cons_ne_nil _ _
    · split <;> exact List.cons_ne_nil _ _

/-- The pieces with the separators between them are the whole again. -/
theorem intercalate_splitAll (sep : α) (xs : List α) :
    [sep].intercalate (splitAll sep xs) = xs := by
  induction xs with
  | nil => rfl
  | cons x xs ih =>
    unfold splitAll
    split
    · next h =>
      rw [List.intercalate_cons_of_ne_nil (splitAll_ne_nil sep xs), ih, eq_of_beq h]
      rfl
    · rcases hs : splitAll sep xs with _ | ⟨piece, _ | ⟨next, pieces⟩⟩
      · exact absurd hs (splitAll_ne_nil sep xs)
      · rw [hs, List.intercalate_singleton] at ih
        rw [List.intercalate_singleton, ih]
      · rw [hs, List.intercalate_cons_cons] at ih
        rw [List.intercalate_cons_cons, List.cons_append, List.cons_append, ih]

end Split

section Path

variable {b : UInt8} (hb : b.toNat < 0x80) (hn : b.toNat ≠ 0) {xs : Bytes} (h : b ∉ xs)
include hb hn h

theorem ofNat_notMem_decodeLossy : Char.ofNat b.toNat ∉ (decodeLossy xs).toList := by
  have hc : (Char.ofNat b.toNat).toNat = b.toNat := by
    rw [toNat_ofNat, if_pos (.inl (by omega))]
  intro hm
  obtain ⟨x, hx, he⟩ := exists_mem_of_mem_decodeLossy (by omega) (by omega) hm
  exact h (UInt8.toNat.inj (he.trans hc) ▸ hx)

/-- A path is split where its bytes are. -/
theorem splitPath_decodeLossy_append (ys : Bytes) :
    splitPath (Char.ofNat b.toNat) (decodeLossy (xs ++ b :: ys)) =
      (String.ofList (dropLastEq '/' (decodeLossy xs).toList), decodeLossy ys) := by
  unfold splitPath
  rw [toList_decodeLossy_append hb, splitFirst_append (ofNat_notMem_decodeLossy hb hn h)]
  exact congrArg _ String.ofList_toList

theorem splitPath_decodeLossy :
    splitPath (Char.ofNat b.toNat) (decodeLossy xs) =
      (String.ofList (dropLastEq '/' (decodeLossy xs).toList), "") := by
  unfold splitPath
  rw [splitFirst_of_notMem (ofNat_notMem_decodeLossy hb hn h)]

end Path

/-! ### Fields -/

theorem beforeNul_of_notMem {xs : Bytes} (h : 0 ∉ xs) : xs.beforeNul = xs := by
  induction xs with
  | nil => rfl
  | cons x xs ih =>
    rw [List.mem_cons, not_or] at h
    unfold Bytes.beforeNul
    rw [List.takeWhile_cons_of_pos (by simpa using Ne.symm h.1)]
    exact congrArg _ (ih h.2)

theorem beforeNul_append {xs : Bytes} (h : 0 ∉ xs) (ys : Bytes) :
    Bytes.beforeNul (xs ++ 0 :: ys) = xs := by
  induction xs with
  | nil => rfl
  | cons x xs ih =>
    rw [List.mem_cons, not_or] at h
    unfold Bytes.beforeNul
    rw [List.cons_append, List.takeWhile_cons_of_pos (by simpa using Ne.symm h.1)]
    exact congrArg _ (ih h.2)

theorem afterNul_append {xs : Bytes} (h : 0 ∉ xs) (ys : Bytes) :
    Bytes.afterNul (xs ++ 0 :: ys) = some ys := by
  induction xs with
  | nil => rfl
  | cons x xs ih =>
    rw [List.mem_cons, not_or] at h
    unfold Bytes.afterNul
    rw [List.cons_append]
    exact (if_neg (Ne.symm h.1)).trans (ih h.2)

theorem afterNul_of_notMem {xs : Bytes} (h : 0 ∉ xs) : xs.afterNul = none := by
  induction xs with
  | nil => rfl
  | cons x xs ih =>
    rw [List.mem_cons, not_or] at h
    exact (if_neg (Ne.symm h.1)).trans (ih h.2)

end StorageAdapter.Text
