import StorageAdapter.Proofs.Text

/-! # Shortened texts

What is kept of a text that does not fit are whole characters of its beginning and of its end. -/

namespace StorageAdapter.Text

/-! ### Both ends -/

theorem width_append (cs ds : List Char) : width (cs ++ ds) = width cs + width ds := by
  induction cs with
  | nil => exact (Nat.zero_add _).symm
  | cons c cs ih =>
    rw [List.cons_append, width, width, ih, Nat.add_assoc]

theorem size_append (s t : String) : size (s ++ t) = size s + size t := by
  rw [size_eq_width, size_eq_width, size_eq_width, String.toList_append, width_append]

theorem headWithin_prefix (n : Nat) (cs : List Char) : headWithin n cs <+: cs := by
  induction cs generalizing n with
  | nil => exact List.nil_prefix
  | cons c cs ih =>
    unfold headWithin
    split
    · exact List.cons_prefix_cons.2 ⟨rfl, ih _⟩
    · exact List.nil_prefix

theorem headWithin_append {n : Nat} {xs : List Char} (h : width xs ≤ n) (rest : List Char) :
    headWithin n (xs ++ rest) = xs ++ headWithin (n - width xs) rest := by
  induction xs generalizing n with
  | nil => rfl
  | cons x xs ih =>
    unfold width at h ⊢
    rw [List.cons_append, headWithin, if_pos (by omega), ih (by omega), List.cons_append,
      Nat.sub_sub]

theorem headWithin_eq_nil_iff {n : Nat} {cs : List Char} :
    headWithin n cs = [] ↔ ∀ c ∈ cs.head?, n < c.utf8Size := by
  cases cs with
  | nil => exact iff_of_true rfl nofun
  | cons c cs =>
    unfold headWithin
    split
    · next h =>
      exact iff_of_false (List.cons_ne_nil _ _) fun hnext => Nat.not_lt.2 h (hnext c rfl)
    · next h =>
      refine iff_of_true rfl fun c' hc' => ?_
      obtain rfl := Option.some.inj hc'
      exact Nat.not_le.1 h

/-- **The beginning that fits**: with the next character it would not fit. -/
theorem headWithin_eq_iff {n : Nat} {xs cs : List Char} : headWithin n cs = xs ↔
    ∃ rest, xs ++ rest = cs ∧ width xs ≤ n ∧ ∀ c ∈ rest.head?, n < width xs + c.utf8Size := by
  constructor
  · rintro rfl
    obtain ⟨rest, hrest⟩ := headWithin_prefix n cs
    have hfits := width_headWithin_le n cs
    refine ⟨rest, hrest, hfits, fun c hc => ?_⟩
    have hagain := headWithin_append hfits rest
    rw [hrest, List.self_eq_append_right, headWithin_eq_nil_iff] at hagain
    have := hagain c hc
    omega
  · rintro ⟨rest, rfl, hfits, hnext⟩
    have hnone : headWithin (n - width xs) rest = [] := headWithin_eq_nil_iff.2 fun c hc => by
      have := hnext c hc
      omega
    rw [headWithin_append hfits, hnone, List.append_nil]

theorem tailWithin_suffix (n : Nat) (cs : List Char) : tailWithin n cs <:+ cs := by
  induction cs with
  | nil => exact List.nil_suffix
  | cons c cs ih =>
    unfold tailWithin
    split
    · exact List.suffix_rfl
    · exact ih.trans (List.suffix_cons c cs)

theorem width_tailWithin_le (n : Nat) (cs : List Char) : width (tailWithin n cs) ≤ n := by
  induction cs with
  | nil => exact Nat.zero_le n
  | cons c cs ih =>
    unfold tailWithin
    split
    · assumption
    · exact ih

/-- **The ends of a text that is longer than both do not overlap.** -/
theorem exists_between {m n : Nat} {cs : List Char} (h : m + n < width cs) :
    ∃ between, headWithin m cs ++ between ++ tailWithin n cs = cs ∧
      width cs ≤ m + n + width between := by
  have hfront := width_headWithin_le m cs
  have hback := width_tailWithin_le n cs
  obtain ⟨behind, hbehind⟩ := headWithin_prefix m cs
  obtain ⟨before, hbefore⟩ := tailWithin_suffix n cs
  rcases List.append_eq_append_iff.1 (hbehind.trans hbefore.symm) with
    ⟨between, rfl, rfl⟩ | ⟨shared, hfronts, hbacks⟩
  · refine ⟨between, by rw [hbefore], ?_⟩
    have hwidth := congrArg width hbefore
    rw [width_append, width_append] at hwidth
    omega
  · -- what both ends have in common would be counted twice
    have hwidth := congrArg width hbehind
    have hends := congrArg width hbacks
    rw [width_append] at hwidth hends
    omega

theorem exists_clip_append (n : Nat) (s : String) : ∃ rest, clip n s ++ rest = s := by
  obtain ⟨rest, hrest⟩ := headWithin_prefix n s.toList
  refine ⟨String.ofList rest, ?_⟩
  unfold clip
  rw [← String.ofList_append, hrest, String.ofList_toList]

theorem exists_append_clipStart (n : Nat) (s : String) : ∃ before, before ++ clipStart n s = s := by
  obtain ⟨before, hbefore⟩ := tailWithin_suffix n s.toList
  refine ⟨String.ofList before, ?_⟩
  unfold clipStart
  rw [← String.ofList_append, hbefore, String.ofList_toList]

/-- What both ends leave of a text that is longer. -/
theorem exists_middle {m n : Nat} {s : String} (h : m + n < size s) :
    ∃ middle, clip m s ++ middle ++ clipStart n s = s ∧ size s ≤ m + n + size middle := by
  rw [size_eq_width] at h
  obtain ⟨between, hs, hwidth⟩ := exists_between h
  refine ⟨String.ofList between, ?_, ?_⟩
  · unfold clip clipStart
    rw [← String.ofList_append, ← String.ofList_append, hs, String.ofList_toList]
  · rwa [size_eq_width, size_ofList]

/-! ### Shortening -/

theorem shorten_of_size_le {limit : Nat} {s : String} (h : size s ≤ limit) :
    shorten limit s = s := if_pos h

theorem shorten_of_lt_five {limit : Nat} {s : String} (h : limit < size s)
    (hshort : limit < 5) : shorten limit s = clip limit s := by
  unfold shorten
  rw [if_neg (Nat.not_le.2 h), if_pos hshort]

theorem shorten_of_five_le {limit : Nat} {s : String} (h : limit < size s) (hroom : 5 ≤ limit) :
    shorten limit s =
      clip ((limit - 3) / 2) s ++ "..." ++ clipStart (limit - 3 - (limit - 3) / 2) s := by
  unfold shorten
  rw [if_neg (Nat.not_le.2 h), if_neg (Nat.not_lt.2 hroom)]

theorem size_clipStart_le (n : Nat) (s : String) : size (clipStart n s) ≤ n := by
  unfold clipStart
  rw [size_ofList]
  exact width_tailWithin_le n _

theorem size_shorten_le (limit : Nat) (s : String) : size (shorten limit s) ≤ limit := by
  unfold shorten
  split
  · assumption
  · split
    · exact size_clip_le limit s
    · have hfront := size_clip_le ((limit - 3) / 2) s
      have hback := size_clipStart_le (limit - 3 - (limit - 3) / 2) s
      have hdots : size "..." = 3 := by decide
      simp only [size_append]
      omega

/-- A text is shown as it is exactly if it fits. -/
theorem shorten_eq_iff {limit : Nat} {s : String} : shorten limit s = s ↔ size s ≤ limit :=
  ⟨fun h => h ▸ size_shorten_le limit s, shorten_of_size_le⟩

/-- What is shown of a text without all of it: its beginning or, around three dots in place of more
than three bytes, its beginning and its end. -/
inductive Abridged (s : String) : String → Prop where
  | cut {front rest : String} (h : front ++ rest = s) (hrest : rest ≠ "") : Abridged s front
  | dotted {front middle back : String} (h : front ++ middle ++ back = s)
      (hmiddle : 3 < size middle) : Abridged s (front ++ "..." ++ back)

theorem abridged_clip {limit : Nat} {s : String} (h : limit < size s) :
    Abridged s (clip limit s) := by
  obtain ⟨rest, hs⟩ := exists_clip_append limit s
  refine .cut hs fun hempty => ?_
  rw [hempty, String.append_empty] at hs
  have hfits := size_clip_le limit s
  rw [hs] at hfits
  omega

/-- **A text that does not fit is abridged.** -/
theorem abridged_shorten {limit : Nat} {s : String} (h : limit < size s) :
    Abridged s (shorten limit s) := by
  rcases Nat.lt_or_ge limit 5 with hshort | hroom
  · rw [shorten_of_lt_five h hshort]
    exact abridged_clip h
  · obtain ⟨middle, hs, hmiddle⟩ := exists_middle (s := s) (m := (limit - 3) / 2)
      (n := limit - 3 - (limit - 3) / 2) (by omega)
    rw [shorten_of_five_le h hroom]
    exact .dotted hs (by omega)

end StorageAdapter.Text
