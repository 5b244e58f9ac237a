import Mathlib.Data.List.Induction
import Mathlib.Tactic.Common
import StorageAdapter.Text.Numeral

/-! # Digits that are read back

A number is spelled in the digits of its base, perhaps behind zeros and with letters in either case
(`Spells`). However it is spelled, it is read back (`Spells.digits`), and no other run of digits is
read as that number (`digits_eq_some_iff`). -/

namespace StorageAdapter.Text

/-- **The number in the digits of a base**, perhaps behind zeros; letters are in either case. -/
def Spells (base n : Nat) (cs : List Char) : Prop :=
  ∃ zeros, cs.map Char.toLower = List.replicate zeros '0' ++ Nat.toDigits base n

/-- A digit of a base up to sixteen, in either case. -/
def IsDigit (c : Char) : Prop :=
  48 ≤ c.toNat ∧ c.toNat ≤ 57 ∨ 65 ≤ c.toNat ∧ c.toNat ≤ 70 ∨ 97 ≤ c.toNat ∧ c.toNat ≤ 102

/-! ### One digit -/

theorem toNat_toLower (c : Char) :
    c.toLower.toNat = if 65 ≤ c.toNat ∧ c.toNat ≤ 90 then c.toNat + 32 else c.toNat := by
  have hiff : 'A'.val ≤ c.val ∧ c.val ≤ 'Z'.val ↔ 65 ≤ c.toNat ∧ c.toNat ≤ 90 := by
    simp [UInt32.le_iff_toNat_le, ← Char.toNat_val]
  unfold Char.toLower
  by_cases h : 'A'.val ≤ c.val ∧ c.val ≤ 'Z'.val
  · have hc : c.val.toNat ≤ 90 := (hiff.1 h).2
    have hgap : ('a'.val - 'A'.val).toNat = 32 := by decide
    rw [dif_pos (show c.val ≥ 'A'.val ∧ c.val ≤ 'Z'.val from h), if_pos (hiff.1 h)]
    show (c.val + ('a'.val - 'A'.val)).toNat = c.val.toNat + 32
    rw [UInt32.toNat_add]
    omega
  · rw [dif_neg (show ¬(c.val ≥ 'A'.val ∧ c.val ≤ 'Z'.val) from h), if_neg (mt hiff.2 h)]

theorem digitValue_toLower (base : Nat) (c : Char) :
    digitValue base c.toLower = digitValue base c := by
  have hlower := toNat_toLower c
  unfold digitValue
  by_cases h : 65 ≤ c.toNat ∧ c.toNat ≤ 90
  · rw [if_pos h] at hlower
    have hletter : 97 ≤ c.toLower.toNat ∧ c.toLower.toNat ≤ 122 := by omega
    have hdigit : ¬(48 ≤ c.toLower.toNat ∧ c.toLower.toNat ≤ 57) := by omega
    have hdigit' : ¬(48 ≤ c.toNat ∧ c.toNat ≤ 57) := by omega
    have hletter' : ¬(97 ≤ c.toNat ∧ c.toNat ≤ 122) := by omega
    have hvalue : c.toLower.toNat - 87 = c.toNat - 55 := by omega
    simp only [if_neg hdigit, if_pos hletter, if_neg hdigit', if_neg hletter', if_pos h, hvalue]
  · rw [if_neg h] at hlower
    simp only [hlower]

theorem isDigit_of_digitValue {base v : Nat} (hle : base ≤ 16) {c : Char}
    (h : digitValue base c = some v) : IsDigit c := by
  unfold digitValue at h
  obtain ⟨hlt, -⟩ := Option.ite_none_right_eq_some.1 h
  unfold IsDigit
  split_ifs at hlt <;> omega

/-- A digit of a smaller base is one of a larger one. -/
theorem digitValue_of_lt {base base' v : Nat} {c : Char} (h : digitValue base' c = some v)
    (hv : v < base) : digitValue base c = some v := by
  unfold digitValue at h ⊢
  obtain ⟨-, hvalue⟩ := Option.ite_none_right_eq_some.1 h
  obtain rfl := Option.some.inj hvalue
  exact if_pos hv

theorem digitValue_digitChar {base d : Nat} (hd : d < base) (hle : base ≤ 16) :
    digitValue base d.digitChar = some d := by
  have hvalue : ∀ d < 16, digitValue 16 d.digitChar = some d := by decide
  exact digitValue_of_lt (hvalue d (by omega)) hd

theorem digitValue_hexDigit {d : Nat} (hd : d < 16) :
    digitValue 16 (Error.hexDigit d) = some d := by
  have hvalue : ∀ d < 16, digitValue 16 (Error.hexDigit d) = some d := by decide
  exact hvalue d hd

/-- A digit is the one that its value is spelled with. -/
theorem toLower_of_digitValue {base v : Nat} (hle : base ≤ 16) {c : Char}
    (h : digitValue base c = some v) : c.toLower = v.digitChar ∧ v < base := by
  have hspelled : ∀ v < 16, v.digitChar.toNat = if v < 10 then 48 + v else 87 + v := by decide
  have hlower := toNat_toLower c
  unfold digitValue at h
  obtain ⟨hlt, hv⟩ := Option.ite_none_right_eq_some.1 h
  obtain rfl := Option.some.inj hv
  refine ⟨Char.toNat_inj.1 ?_, hlt⟩
  rw [hspelled _ (by omega), hlower]
  split_ifs at hlt ⊢ <;> omega

/-! ### Runs of digits -/

theorem digitsFrom_cons (base acc : Nat) (c : Char) (cs : List Char) :
    digitsFrom base acc (c :: cs) =
      digitValue base c >>= fun v => digitsFrom base (acc * base + v) cs := rfl

theorem digitsFrom_append (base acc : Nat) (xs ys : List Char) :
    digitsFrom base acc (xs ++ ys) = digitsFrom base acc xs >>= fun n => digitsFrom base n ys := by
  induction xs generalizing acc with
  | nil => rfl
  | cons x xs ih =>
    rw [List.cons_append, digitsFrom_cons, digitsFrom_cons]
    rcases digitValue base x with _ | v
    · rfl
    · exact ih (acc * base + v)

theorem digitsFrom_toLower (base acc : Nat) (cs : List Char) :
    digitsFrom base acc (cs.map Char.toLower) = digitsFrom base acc cs := by
  induction cs generalizing acc with
  | nil => rfl
  | cons c cs ih =>
    rw [List.map_cons, digitsFrom_cons, digitsFrom_cons, digitValue_toLower]
    rcases digitValue base c with _ | v
    · rfl
    · exact ih (acc * base + v)

theorem digitsFrom_zeros {base : Nat} (hbase : 0 < base) (hle : base ≤ 16) (zeros : Nat)
    (cs : List Char) :
    digitsFrom base 0 (List.replicate zeros '0' ++ cs) = digitsFrom base 0 cs := by
  have hzero : digitValue base '0' = some 0 := digitValue_digitChar hbase hle
  induction zeros with
  | zero => rfl
  | succ zeros ih =>
    rw [List.replicate_succ, List.cons_append, digitsFrom_cons, hzero, Option.bind_eq_bind,
      Option.bind_some, Nat.zero_mul, Nat.add_zero, ih]

/-- Induction on the number: all digits but the last spell what is left without it. -/
theorem digitsFrom_toDigits {base : Nat} (hbase : 1 < base) (hle : base ≤ 16) (n : Nat) :
    digitsFrom base 0 (Nat.toDigits base n) = some n := by
  induction n using Nat.strongRecOn with
  | _ n ih =>
    rcases Nat.lt_or_ge n base with hn | hn
    · have hvalue := digitValue_digitChar hn hle
      rw [Nat.toDigits_of_lt_base hn]
      simp [digitsFrom, hvalue]
    · have hdiv : n / base < n := Nat.div_lt_self (by omega) hbase
      have hvalue := digitValue_digitChar (Nat.mod_lt n (by omega)) hle
      have hsum : n / base * base + n % base = n := Nat.div_add_mod' n base
      rw [Nat.toDigits_of_base_le hbase hn, digitsFrom_append, ih _ hdiv]
      simp [digitsFrom, hvalue, hsum]

theorem isDigit_of_digitsFrom {base acc n : Nat} (hle : base ≤ 16) {cs : List Char}
    (h : digitsFrom base acc cs = some n) : ∀ c ∈ cs, IsDigit c := by
  induction cs generalizing acc with
  | nil => exact fun c hc => absurd hc List.not_mem_nil
  | cons x cs ih =>
    rw [digitsFrom_cons, Option.bind_eq_bind, Option.bind_eq_some_iff] at h
    obtain ⟨v, hx, hcs⟩ := h
    intro c hc
    rcases List.mem_cons.1 hc with rfl | hc
    · exact isDigit_of_digitValue hle hx
    · exact ih hcs c hc

/-! ### Numbers -/

/-- A number is spelled by its decimal digits. -/
theorem spells_toDigits (n : Nat) : Spells 10 n (Nat.toDigits 10 n) := by
  refine ⟨0, ?_⟩
  have hsame : ∀ c ∈ Nat.toDigits 10 n, c.toLower = c := by
    intro c hc
    have hdigit := Nat.isDigit_of_mem_toDigits (by decide) (by decide) hc
    have hlower := toNat_toLower c
    simp [Char.isDigit, UInt32.le_iff_toNat_le] at hdigit
    rw [if_neg (by omega)] at hlower
    exact Char.toNat_inj.1 hlower
  rw [List.map_congr_left hsame, List.map_id', List.replicate_zero, List.nil_append]

section Spells

variable {base n : Nat} {cs : List Char} (h : Spells base n cs) (hbase : 1 < base)
  (hle : base ≤ 16)
include h hbase hle

theorem Spells.digitsFrom : digitsFrom base 0 cs = some n := by
  obtain ⟨zeros, hz⟩ := h
  rw [← digitsFrom_toLower, hz, digitsFrom_zeros (by omega) hle, digitsFrom_toDigits hbase hle]

theorem Spells.isDigit : ∀ c ∈ cs, IsDigit c :=
  isDigit_of_digitsFrom hle (h.digitsFrom hbase hle)

omit hbase hle in
theorem Spells.ne_nil : cs ≠ [] := by
  rintro rfl
  obtain ⟨zeros, hz⟩ := h
  have hlength := congrArg List.length hz
  have hpos := Nat.length_toDigits_pos (b := base) (n := n)
  simp at hlength
  omega

/-- **A number is read back.** -/
theorem Spells.digits : digits base cs = some n := by
  have hread := h.digitsFrom hbase hle
  rcases cs with _ | ⟨c, cs⟩
  · exact absurd rfl h.ne_nil
  · exact hread

end Spells

/-! ### Numbers that are read -/

section Digits

variable {base n v : Nat} {c : Char} {cs : List Char}

theorem spells_singleton (hle : base ≤ 16) (h : digitValue base c = some v) :
    Spells base v [c] := by
  obtain ⟨hc, hv⟩ := toLower_of_digitValue hle h
  refine ⟨0, ?_⟩
  rw [Nat.toDigits_of_lt_base hv, ← hc]
  rfl

/-- One more digit is one more place, unless there were only zeros before it. -/
theorem Spells.snoc (hbase : 1 < base) (hle : base ≤ 16) (h : Spells base n cs)
    (hc : digitValue base c = some v) : Spells base (n * base + v) (cs ++ [c]) := by
  obtain ⟨zeros, hz⟩ := h
  obtain ⟨hlower, hv⟩ := toLower_of_digitValue hle hc
  have hdigit : [c.toLower] = Nat.toDigits base v := by rw [Nat.toDigits_of_lt_base hv, hlower]
  unfold Spells
  rw [List.map_append, hz, List.map_singleton, hdigit]
  rcases Nat.eq_zero_or_pos n with rfl | hn
  · refine ⟨zeros + 1, ?_⟩
    rw [Nat.toDigits_zero, Nat.zero_mul, Nat.zero_add, List.replicate_succ']
  · refine ⟨zeros, ?_⟩
    rw [List.append_assoc, Nat.toDigits_append_toDigits hbase hn hv, Nat.mul_comm]

/-- Induction on the digits from the last one, as the value is built up. -/
theorem spells_of_digitsFrom (hbase : 1 < base) (hle : base ≤ 16) (hne : cs ≠ [])
    (h : Text.digitsFrom base 0 cs = some n) : Spells base n cs := by
  induction cs using List.reverseRecOn generalizing n with
  | nil => exact absurd rfl hne
  | append_singleton cs c ih =>
    rw [digitsFrom_append, Option.bind_eq_bind, Option.bind_eq_some_iff] at h
    obtain ⟨m, hm, h⟩ := h
    rw [digitsFrom_cons, Option.bind_eq_bind, Option.bind_eq_some_iff] at h
    obtain ⟨v, hv, h⟩ := h
    obtain rfl : m * base + v = n := Option.some.inj h
    rcases eq_or_ne cs [] with rfl | hcs
    · obtain rfl : 0 = m := Option.some.inj hm
      rw [Nat.zero_mul, Nat.zero_add]
      exact spells_singleton hle hv
    · exact (ih hcs hm).snoc hbase hle hv

/-- **A run of digits is read as the number that it spells.** -/
theorem digits_eq_some_iff (hbase : 1 < base) (hle : base ≤ 16) :
    Text.digits base cs = some n ↔ Spells base n cs := by
  refine ⟨fun h => ?_, fun h => h.digits hbase hle⟩
  rcases cs with _ | ⟨c, cs⟩
  · cases h
  · exact spells_of_digitsFrom hbase hle (List.cons_ne_nil c cs) h

end Digits

end StorageAdapter.Text
