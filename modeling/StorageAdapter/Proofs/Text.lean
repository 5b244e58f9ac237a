import Mathlib.Tactic.Common
import StorageAdapter.Text.Clip

/-! # Sizes of texts

A clipped text fits, and a text that fits is not clipped. A field that is read back has at most one
character for each of its bytes. -/

namespace StorageAdapter.Text

/-! ### Clipping -/

theorem size_ofList (cs : List Char) : size (String.ofList cs) = width cs := by
  unfold size encode
  rw [String.toList_ofList]
  induction cs with
  | nil => rfl
  | cons c cs ih =>
    rw [List.flatMap_cons, List.length_append, String.length_utf8EncodeChar, ih]
    rfl

theorem size_eq_width (s : String) : size s = width s.toList := by
  rw [← size_ofList, String.ofList_toList]

theorem width_headWithin_le (n : Nat) (cs : List Char) : width (headWithin n cs) ≤ n := by
  induction cs generalizing n with
  | nil => exact Nat.zero_le n
  | cons c cs ih =>
    unfold headWithin
    by_cases h : c.utf8Size ≤ n
    · rw [if_pos h]
      have := ih (n - c.utf8Size)
      unfold width
      omega
    · rw [if_neg h]
      exact Nat.zero_le n

theorem headWithin_of_width_le {n : Nat} {cs : List Char} (h : width cs ≤ n) :
    headWithin n cs = cs := by
  induction cs generalizing n with
  | nil => rfl
  | cons c cs ih =>
    unfold width at h
    unfold headWithin
    rw [if_pos (by omega), ih (by omega)]

theorem size_clip_le (n : Nat) (s : String) : size (clip n s) ≤ n := by
  unfold clip
  rw [size_ofList]
  exact width_headWithin_le n _

theorem clip_of_size_le {n : Nat} {s : String} (h : size s ≤ n) : clip n s = s := by
  rw [size_eq_width] at h
  unfold clip
  rw [headWithin_of_width_le h, String.ofList_toList]

/-- Where there is room for any character, only the empty text is clipped to nothing. -/
theorem clip_eq_empty_iff {n : Nat} (hn : 4 ≤ n) {s : String} : clip n s = "" ↔ s = "" := by
  constructor
  · intro h
    have h : headWithin n s.toList = [] := by
      have h := congrArg String.toList h
      unfold clip at h
      rw [String.toList_ofList] at h
      exact h
    rcases hs : s.toList with _ | ⟨c, cs⟩
    · exact String.toList_eq_nil_iff.mp hs
    · have := Char.utf8Size_le_four c
      rw [hs] at h
      unfold headWithin at h
      rw [if_pos (by omega)] at h
      exact absurd h (List.cons_ne_nil _ _)
  · rintro rfl
    rfl

/-! ### Reading -/

theorem length_start (b : UInt8) :
    (start b).1.length + (if (start b).2.isSome then 1 else 0) = 1 := by
  unfold start
  split
  · rfl
  · split <;> rfl

theorem length_resume (p : Open) (b : UInt8) :
    (resume p b).1.length + (if (resume p b).2.isSome then 1 else 0) ≤ 2 := by
  unfold resume
  split
  · simp only
    split <;> simp
  · have := length_start b
    simp only [List.length_cons]
    omega

/-- Bytes are read as at most one character each, and one more if a character was open. -/
theorem length_unitsFrom_le (p : Option Open) (bs : Bytes) :
    (unitsFrom p bs).length ≤ bs.length + if p.isSome then 1 else 0 := by
  induction bs generalizing p with
  | nil => cases p <;> simp [unitsFrom]
  | cons b bs ih =>
    rcases p with _ | p
    · have h := ih (start b).2
      have := length_start b
      simp only [unitsFrom, List.length_append, List.length_cons]
      simp only [Option.isSome_none, Bool.false_eq_true, if_false]
      omega
    · have h := ih (resume p b).2
      have := length_resume p b
      simp only [unitsFrom, List.length_append, List.length_cons]
      simp only [Option.isSome_some, if_true]
      omega

theorem width_le (cs : List Char) : width cs ≤ 4 * cs.length := by
  induction cs with
  | nil => exact Nat.le_refl 0
  | cons c cs ih =>
    have := Char.utf8Size_le_four c
    unfold width
    rw [List.length_cons]
    omega

/-- A field is read as a text of at most four times its size. -/
theorem size_ofField_le (field : Bytes) : size (ofField field) ≤ 4 * field.length := by
  unfold ofField decodeLossy units
  rw [size_ofList]
  have h₁ := width_le ((unitsFrom none field.beforeNul).map (·.getD replacement))
  have h₂ := length_unitsFrom_le none field.beforeNul
  have h₃ : field.beforeNul.length ≤ field.length := (List.takeWhile_sublist _).length_le
  simp only [List.length_map, Option.isSome_none, Bool.false_eq_true, if_false] at h₁ h₂
  omega

end StorageAdapter.Text
