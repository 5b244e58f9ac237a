import Mathlib.Data.List.Forall2
import Mathlib.Data.List.Infix
import Mathlib.Tactic.SplitIfs
import StorageAdapter.Text.Pattern

/-! # What patterns describe

Which names a pattern describes is said by recursion on the pattern (`Describes`), and whether it
describes one can be decided by trying all that a star may take (`matchByBacktracking`). The matcher
tries far less: it only ever lets the last star take more. That is enough, for whatever the pattern
up to that star has taken, the star can take what an earlier one would have left it
(`Fits.exists_suffix`). So the matcher ends with the same verdict on all patterns and names
(`patterns_match_exactly`); that it ends at all is the order in which it is defined: the pattern
behind the star gets shorter, or what the star has left, or what is left of the name. -/

namespace StorageAdapter.Text

/-! ### Bytes -/

/-- The bytes are the same, but perhaps for the case of an ASCII letter. -/
def SameLetter (c b : UInt8) : Prop :=
  c = b ∨ (65 ≤ c ∧ c ≤ 90 ∧ b = c + 32) ∨ (65 ≤ b ∧ b ≤ 90 ∧ c = b + 32)

theorem foldCase_eq_iff (c b : UInt8) : foldCase c = foldCase b ↔ SameLetter c b := by
  have hc := c.toNat_lt
  have hb := b.toNat_lt
  unfold foldCase SameLetter
  simp only [UInt8.le_iff_toNat_le, ← UInt8.toNat_inj, apply_ite UInt8.toNat, UInt8.toNat_add,
    UInt8.reduceToNat]
  split_ifs <;> omega

theorem admits_iff (c b : UInt8) : admits c b ↔ c = 63 ∨ SameLetter c b := by
  simp [admits, foldCase_eq_iff]

/-! ### Names that a pattern describes -/

/-- **A pattern describes a name**: a `*` stands for any run of bytes, a `?` for any one byte, and
any other byte for itself in either case. -/
inductive Describes : Bytes → Bytes → Prop
  | nil : Describes [] []
  | star {p rest : Bytes} (run : Bytes) (h : Describes p rest) : Describes (42 :: p) (run ++ rest)
  | any {p n : Bytes} (b : UInt8) (h : Describes p n) : Describes (63 :: p) (b :: n)
  | byte {c b : UInt8} {p n : Bytes} (hstar : c ≠ 42) (hany : c ≠ 63) (hb : SameLetter c b)
      (h : Describes p n) : Describes (c :: p) (b :: n)

section Describes

variable {c b : UInt8} {p q n m : Bytes}

theorem describes_nil_iff : Describes [] n ↔ n = [] := by
  constructor
  · rintro ⟨⟩
    rfl
  · rintro rfl
    exact .nil

theorem describes_star_iff : Describes (42 :: p) n ↔ ∃ rest, rest <:+ n ∧ Describes p rest := by
  constructor
  · intro h
    cases h with
    | star run h => exact ⟨_, List.suffix_append run _, h⟩
    | byte hstar _ _ _ => exact absurd rfl hstar
  · rintro ⟨rest, ⟨run, rfl⟩, h⟩
    exact .star run h

theorem describes_cons_iff (hc : c ≠ 42) :
    Describes (c :: p) n ↔ ∃ b rest, n = b :: rest ∧ admits c b ∧ Describes p rest := by
  constructor
  · intro h
    cases h with
    | star _ _ => exact absurd rfl hc
    | any b h => exact ⟨b, _, rfl, (admits_iff 63 b).2 (.inl rfl), h⟩
    | byte _ _ hb h => exact ⟨_, _, rfl, (admits_iff c _).2 (.inr hb), h⟩
  · rintro ⟨b, rest, rfl, hb, h⟩
    by_cases hany : c = 63
    · subst hany
      exact .any b h
    · exact .byte hc hany (((admits_iff c b).1 hb).resolve_left hany) h

theorem describes_cons_cons_iff (hc : c ≠ 42) :
    Describes (c :: p) (b :: n) ↔ admits c b ∧ Describes p n := by
  simp [describes_cons_iff hc]

/-- Only stars describe the empty name. -/
theorem describes_empty_iff : Describes p [] ↔ p.all (· == 42) := by
  induction p with
  | nil => simp [describes_nil_iff]
  | cons c p ih =>
    by_cases hc : c = 42
    · subst hc
      simp [describes_star_iff, ih]
    · simp [describes_cons_iff hc, hc]

/-- A star takes whatever stands before. -/
theorem Describes.of_suffix (h : Describes (42 :: p) m) (hs : m <:+ n) :
    Describes (42 :: p) n := by
  obtain ⟨rest, hr, h⟩ := describes_star_iff.1 h
  exact describes_star_iff.2 ⟨rest, hr.trans hs, h⟩

/-- If the pattern behind a star does not describe a name, the star has to take the first byte. -/
theorem describes_star_cons_iff (h : ¬Describes p (b :: n)) :
    Describes (42 :: p) (b :: n) ↔ Describes (42 :: p) n := by
  constructor
  · intro hd
    obtain ⟨rest, hs, hd⟩ := describes_star_iff.1 hd
    obtain rfl | hs := List.suffix_cons_iff.1 hs
    · exact absurd hd h
    · exact describes_star_iff.2 ⟨rest, hs, hd⟩
  · intro hd
    exact hd.of_suffix (List.suffix_cons b n)

/-! ### Pieces without stars -/

/-- A piece of a pattern without stars stands for these bytes, one for one. -/
def Fits : Bytes → Bytes → Prop := List.Forall₂ fun c b => c ≠ 42 ∧ admits c b

/-- What a piece without stars takes is settled. -/
theorem Fits.describes_iff (h : Fits q m) : Describes (q ++ p) (m ++ n) ↔ Describes p n := by
  induction h with
  | nil => rfl
  | cons hc _ ih =>
    rw [List.cons_append, List.cons_append, describes_cons_cons_iff hc.1, ih]
    exact and_iff_right hc.2

theorem Fits.exists_rest (h : Fits q m) (hn : Describes (q ++ p) n) :
    ∃ run rest, n = run ++ rest ∧ run.length = q.length ∧ Describes p rest := by
  induction h generalizing n with
  | nil => exact ⟨[], n, rfl, rfl, hn⟩
  | cons hc _ ih =>
    obtain ⟨b, rest, rfl, -, hrest⟩ := (describes_cons_iff hc.1).1 hn
    obtain ⟨run, rest, rfl, hlen, h⟩ := ih hrest
    exact ⟨b :: run, rest, rfl, congrArg Nat.succ hlen, h⟩

/-- **The first place where a piece behind a star fits is as good as any**: wherever else it fits,
what is left of the name for the rest of the pattern is a suffix of what is left here. -/
theorem Fits.exists_suffix (h : Fits q m) (hn : Describes (42 :: (q ++ p)) (m ++ n)) :
    ∃ rest, rest <:+ n ∧ Describes p rest := by
  obtain ⟨s, hs, hd⟩ := describes_star_iff.1 hn
  obtain ⟨run, rest, rfl, hlen, hrest⟩ := h.exists_rest hd
  have hlength := hs.length_le
  rw [List.length_append, List.length_append, hlen, List.Forall₂.length_eq h] at hlength
  have hsuffix : rest <:+ m ++ n := (List.suffix_append run rest).trans hs
  exact ⟨rest, List.suffix_of_suffix_length_le hsuffix (List.suffix_append m n) (by omega), hrest⟩

end Describes

/-! ### The matcher -/

/-- **Behind a star the matcher decides for the star and all that follows.** The pattern that it has
gone through since the star fits the bytes that it has gone through. -/
theorem matchBehindStar_iff (sp sn p n : Bytes) (inside : p.length ≤ sp.length) {q m : Bytes}
    (hsp : sp = q ++ p) (hsn : sn = m ++ n) (hfits : Fits q m) :
    matchBehindStar sp sn p n inside ↔ Describes (42 :: sp) sn := by
  fun_induction matchBehindStar sp sn p n inside generalizing q m with
  | case1 sp sn p inside =>
    subst hsp hsn
    rw [← describes_empty_iff]
    constructor
    · intro h
      exact describes_star_iff.2 ⟨m ++ [], List.suffix_rfl, hfits.describes_iff.2 h⟩
    · intro h
      obtain ⟨rest, hs, hd⟩ := hfits.exists_suffix h
      exact List.suffix_nil.1 hs ▸ hd
  | case2 sp b n inside => exact absurd hsn.symm (by simp)
  | case3 sp b n inside a sn _ ih =>
    -- the pattern has ended too early: the star takes one more byte
    have hmiss : ¬Describes sp (a :: sn) := by
      rw [hsp, hsn, hfits.describes_iff, describes_nil_iff]
      exact List.cons_ne_nil b n
    rw [ih (q := []) (m := []) rfl rfl .nil]
    exact (describes_star_cons_iff hmiss).symm
  | case4 sp sn c p b n _ hc _ ih =>
    -- a star has been met: the one before need not be looked at again
    obtain rfl : c = 42 := by simpa using hc
    subst hsp hsn
    rw [ih (q := []) (m := []) rfl rfl .nil]
    constructor
    · intro h
      have hbehind := hfits.describes_iff.2 h
      exact describes_star_iff.2 ⟨m ++ b :: n, List.suffix_rfl, hbehind⟩
    · intro h
      obtain ⟨rest, hs, hd⟩ := hfits.exists_suffix h
      exact hd.of_suffix hs
  | case5 sp sn c p b n _ hc hb _ ih =>
    have hc : c ≠ 42 := by simpa using hc
    refine ih (q := q ++ [c]) (m := m ++ [b]) ?_ ?_ ?_
    · rw [hsp, List.append_assoc, List.singleton_append]
    · rw [hsn, List.append_assoc, List.singleton_append]
    · exact List.rel_append hfits (.cons ⟨hc, hb⟩ .nil)
  | case6 sp c p b n _ hc hb inside => exact absurd hsn.symm (by simp)
  | case7 sp c p b n _ hc hb a sn _ ih =>
    have hc : c ≠ 42 := by simpa using hc
    have hmiss : ¬Describes sp (a :: sn) := by
      rw [hsp, hsn, hfits.describes_iff, describes_cons_cons_iff hc]
      exact fun h => hb h.1
    rw [ih (q := []) (m := []) rfl rfl .nil]
    exact (describes_star_cons_iff hmiss).symm

theorem matchBytes_iff (p n : Bytes) : matchBytes p n ↔ Describes p n := by
  fun_induction matchBytes p n with
  | case1 p => exact describes_empty_iff.symm
  | case2 b n => simp [describes_nil_iff]
  | case3 c p b n hc =>
    obtain rfl : c = 42 := by simpa using hc
    exact matchBehindStar_iff p (b :: n) p (b :: n) _ (q := []) (m := []) rfl rfl .nil
  | case4 c p b n hc hb ih =>
    have hc : c ≠ 42 := by simpa using hc
    rw [ih, describes_cons_cons_iff hc]
    exact (and_iff_right hb).symm
  | case5 c p b n hc hb =>
    have hc : c ≠ 42 := by simpa using hc
    rw [describes_cons_cons_iff hc]
    simp [hb]

/-! ### Full backtracking -/

/-- Matches a pattern against a name by trying everything that each star may take. -/
def matchByBacktracking : Bytes → Bytes → Bool
  | [], n => n.isEmpty
  | c :: p, n =>
    if c = 42 then n.tails.any (matchByBacktracking p)
    else match n with
      | [] => false
      | b :: n => admits c b && matchByBacktracking p n

theorem matchByBacktracking_iff (p n : Bytes) : matchByBacktracking p n ↔ Describes p n := by
  induction p generalizing n with
  | nil => simp [matchByBacktracking, describes_nil_iff]
  | cons c p ih =>
    by_cases hc : c = 42
    · subst hc
      simp [matchByBacktracking, describes_star_iff, ih]
    · cases n with
      | nil => simp [matchByBacktracking, describes_cons_iff hc, hc]
      | cons b n => simp [matchByBacktracking, describes_cons_cons_iff hc, hc, ih]

/-- Of every name every pattern tells exactly whether it describes it, byte by byte, and so does
full backtracking. -/
theorem patterns_match_exactly (pattern name : String) :
    (matchesPattern pattern name ↔ Describes (encode pattern) (encode name)) ∧
      matchesPattern pattern name = matchByBacktracking (encode pattern) (encode name) := by
  have hmatch := matchBytes_iff (encode pattern) (encode name)
  have hfull := matchByBacktracking_iff (encode pattern) (encode name)
  exact ⟨hmatch, Bool.eq_iff_iff.2 (hmatch.trans hfull.symm)⟩

end StorageAdapter.Text
