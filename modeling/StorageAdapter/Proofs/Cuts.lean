import Mathlib.Data.Nat.PSub
import StorageAdapter.Proofs.Shorten

/-! # Cuts at offsets

A text can also be shortened by cuts at offsets into its bytes (`shortenAt`). The offsets that the
limit leads to may lie inside a character; from there the first cut goes back to where a character
begins and the second one goes on to where one ends. Every step and every cut could fail. None does,
and what is cut out is what `shorten` keeps (`shortenAt_eq`): the longest beginning and the longest
end for which there is room. -/

namespace StorageAdapter.Text

/-! ### The longest parts -/

/-- The second text is a beginning of the first one. -/
def IsFront (s t : String) : Prop := ∃ rest, t ++ rest = s

/-- The second text is an end of the first one. -/
def IsBack (s t : String) : Prop := ∃ before, before ++ t = s

/-- **The longest one of some texts within a number of bytes.** -/
structure Longest (IsPart : String → Prop) (n : Nat) (t : String) : Prop where
  isPart : IsPart t
  fits : size t ≤ n
  longest {u : String} (hu : IsPart u) (h : size u ≤ n) : size u ≤ size t

theorem suffix_tailWithin {n : Nat} {xs cs : List Char} (hxs : xs <:+ cs) (h : width xs ≤ n) :
    xs <:+ tailWithin n cs := by
  induction cs with
  | nil => exact hxs
  | cons c cs ih =>
    unfold tailWithin
    split
    · exact hxs
    · next hlong =>
      rcases List.suffix_cons_iff.1 hxs with rfl | hxs
      · exact absurd h hlong
      · exact ih hxs

theorem longest_clip (n : Nat) (s : String) : Longest (IsFront s) n (clip n s) where
  isPart := exists_clip_append n s
  fits := size_clip_le n s
  longest := by
    rintro u ⟨rest, rfl⟩ h
    rw [size_eq_width] at h ⊢
    unfold clip
    rw [size_ofList, String.toList_append, headWithin_append h, width_append]
    exact Nat.le_add_right _ _

theorem longest_clipStart (n : Nat) (s : String) : Longest (IsBack s) n (clipStart n s) where
  isPart := exists_append_clipStart n s
  fits := size_clipStart_le n s
  longest := by
    rintro u ⟨before, rfl⟩ h
    rw [size_eq_width] at h ⊢
    have hu : u.toList <:+ (before ++ u).toList := ⟨before.toList, String.toList_append.symm⟩
    obtain ⟨more, hmore⟩ := suffix_tailWithin hu h
    unfold clipStart
    rw [size_ofList, ← hmore, width_append]
    exact Nat.le_add_left _ _

section Longest

variable {n : Nat} {s t : String}

/-- With one more character, which has at most four bytes, a part would not fit. -/
theorem Longest.gap {IsPart : String → Prop} (h : Longest IsPart n t) {u : String} {c : Char}
    (hu : IsPart u) (hsize : size u = size t + c.utf8Size) : n ≤ size t + 3 := by
  have hfit := mt (h.longest hu)
  have hpos := c.utf8Size_pos
  have hfour := c.utf8Size_le_four
  omega

theorem size_singleton (c : Char) : size (String.ofList [c]) = c.utf8Size := size_ofList [c]

theorem Longest.front_gap (h : Longest (IsFront s) n t) (hlong : n < size s) :
    n ≤ size t + 3 := by
  obtain ⟨rest, rfl⟩ := h.isPart
  have hfits := h.fits
  rw [size_append, size_eq_width rest] at hlong
  rcases hrest : rest.toList with _ | ⟨c, cs⟩
  · rw [hrest, width] at hlong
    omega
  · refine h.gap (u := t ++ String.ofList [c]) (c := c) ⟨String.ofList cs, ?_⟩ ?_
    · rw [String.append_assoc, ← String.ofList_append, List.singleton_append, ← hrest,
        String.ofList_toList]
    · rw [size_append, size_singleton]

theorem Longest.back_gap (h : Longest (IsBack s) n t) (hlong : n < size s) :
    n ≤ size t + 3 := by
  obtain ⟨before, rfl⟩ := h.isPart
  have hfits := h.fits
  rw [size_append, size_eq_width before] at hlong
  rcases List.eq_nil_or_concat before.toList with hbefore | ⟨cs, c, hbefore⟩
  · rw [hbefore, width] at hlong
    omega
  · refine h.gap (u := String.ofList [c] ++ t) (c := c) ⟨String.ofList cs, ?_⟩ ?_
    · rw [← String.append_assoc, ← String.ofList_append, ← List.concat_eq_append, ← hbefore,
        String.ofList_toList]
    · rw [size_append, size_singleton, Nat.add_comm]

end Longest

/-! ### Where a text may be cut -/

/-- **The offsets at which a text may be cut**: neither inside a character nor behind its end. -/
def mayCut (s : String) (i : Nat) : Bool := String.Pos.Raw.isValid s ⟨i⟩

/-- The bytes before an offset, if the text may be cut there. -/
def bytesBefore (s : String) (i : Nat) : Option Bytes :=
  if mayCut s i then some ((encode s).take i) else none

/-- The bytes from an offset on, if the text may be cut there. -/
def bytesBehind (s : String) (i : Nat) : Option Bytes :=
  if mayCut s i then some ((encode s).drop i) else none

/-- The last offset up to `i` at which a text may be cut, found by steps back. -/
def cutBackFrom (s : String) : Nat → Option Nat
  | 0 => if mayCut s 0 then some 0 else none
  | i + 1 => if mayCut s (i + 1) then some (i + 1) else cutBackFrom s i

/-- The first offset from `i` on at which a text may be cut, found by steps on. -/
def cutOnFrom (s : String) (i : Nat) : Option Nat :=
  if mayCut s i then some i else if i < size s then cutOnFrom s (i + 1) else none
termination_by size s - i

theorem utf8ByteSize_eq (s : String) : s.utf8ByteSize = size s := by
  have h : (String.ofList s.toList).utf8ByteSize = (encode s).length := by
    rw [String.utf8ByteSize, String.toByteArray_ofList, List.utf8Encode, List.size_toByteArray]
    rfl
  rwa [String.ofList_toList] at h

/-- A text may be cut where a beginning of it ends. -/
theorem mayCut_iff {s : String} {i : Nat} :
    mayCut s i ↔ ∃ front back, front ++ back = s ∧ size front = i := by
  unfold mayCut
  rw [String.Pos.Raw.isValid_eq_true_iff, String.Pos.Raw.isValid_iff_exists_append]
  simp only [String.Pos.Raw.ext_iff, String.byteIdx_rawEndPos, utf8ByteSize_eq, eq_comm]

theorem cutBackFrom_eq {s : String} {i k : Nat} (hk : mayCut s k) (hki : k ≤ i)
    (hlast : ∀ j, mayCut s j → j ≤ i → j ≤ k) : cutBackFrom s i = some k := by
  induction i with
  | zero =>
    obtain rfl := Nat.le_zero.1 hki
    exact if_pos hk
  | succ i ih =>
    unfold cutBackFrom
    by_cases h : mayCut s (i + 1)
    · obtain rfl := Nat.le_antisymm hki (hlast _ h (Nat.le_refl _))
      exact if_pos h
    · have hne : k ≠ i + 1 := fun heq => h (heq ▸ hk)
      rw [if_neg h]
      exact ih (by omega) fun j hj hji => hlast j hj (by omega)

theorem cutOnFrom_eq {s : String} {i k : Nat} (hk : mayCut s k) (hik : i ≤ k)
    (hfirst : ∀ j, mayCut s j → i ≤ j → k ≤ j) : cutOnFrom s i = some k := by
  induction hn : k - i generalizing i with
  | zero =>
    obtain rfl : i = k := by omega
    unfold cutOnFrom
    exact if_pos hk
  | succ n ih =>
    have hi : ¬mayCut s i := fun h => by
      have := hfirst i h (Nat.le_refl i)
      omega
    have hsize : i < size s := by
      obtain ⟨front, back, rfl, rfl⟩ := mayCut_iff.1 hk
      rw [size_append]
      omega
    unfold cutOnFrom
    rw [if_neg hi, if_pos hsize]
    exact ih (by omega) (fun j hj hij => hfirst j hj (by omega)) (by omega)

theorem encode_append (s t : String) : encode (s ++ t) = encode s ++ encode t := by
  unfold encode
  rw [String.toList_append, List.flatMap_append]

theorem bytesBefore_append (s t : String) : bytesBefore (s ++ t) (size s) = some (encode s) := by
  unfold bytesBefore
  rw [if_pos (mayCut_iff.2 ⟨s, t, rfl, rfl⟩), encode_append]
  exact congrArg some (List.take_left' rfl)

theorem bytesBehind_append (s t : String) : bytesBehind (s ++ t) (size s) = some (encode t) := by
  unfold bytesBehind
  rw [if_pos (mayCut_iff.2 ⟨s, t, rfl, rfl⟩), encode_append]
  exact congrArg some (List.drop_left' rfl)

/-- **The beginning is cut out**: stepping back leads to where it ends. -/
theorem bytesBefore_cutBackFrom (n : Nat) (s : String) :
    (cutBackFrom s n).bind (bytesBefore s) = some (encode (clip n s)) := by
  have hclip := longest_clip n s
  obtain ⟨rest, hs⟩ := hclip.isPart
  have hcut : cutBackFrom s n = some (size (clip n s)) := by
    refine cutBackFrom_eq (mayCut_iff.2 ⟨_, rest, hs, rfl⟩) hclip.fits fun j hj hjn => ?_
    obtain ⟨front, back, hfront, rfl⟩ := mayCut_iff.1 hj
    exact hclip.longest ⟨back, hfront⟩ hjn
  have hbytes := bytesBefore_append (clip n s) rest
  rw [hs] at hbytes
  rw [hcut, Option.bind_some, hbytes]

/-- **The end is cut out**: stepping on leads to where it begins. -/
theorem bytesBehind_cutOnFrom {n : Nat} {s : String} (h : n ≤ size s) :
    (cutOnFrom s (size s - n)).bind (bytesBehind s) = some (encode (clipStart n s)) := by
  have hclip := longest_clipStart n s
  obtain ⟨before, hs⟩ := hclip.isPart
  have hsize : size s = size before + size (clipStart n s) := by rw [← size_append, hs]
  have hcut : cutOnFrom s (size s - n) = some (size before) := by
    have hfits := hclip.fits
    refine cutOnFrom_eq (mayCut_iff.2 ⟨before, _, hs, rfl⟩) (by omega) fun j hj hij => ?_
    obtain ⟨front, back, hback, rfl⟩ := mayCut_iff.1 hj
    have hsum : size s = size front + size back := by rw [← size_append, hback]
    have hlongest := hclip.longest ⟨front, hback⟩ (by omega)
    omega
  have hbytes := bytesBehind_append before (clipStart n s)
  rw [hs] at hbytes
  rw [hcut, Option.bind_some, hbytes]

/-! ### Shortening by cuts -/

/-- **Shortening by cuts at offsets.** Whatever is out of range fails: a difference below zero, a
step beyond either end of the text and a cut inside a character. -/
def shortenAt (limit : Nat) (s : String) : Option Bytes :=
  if size s ≤ limit then some (encode s)
  else if limit < 5 then (cutBackFrom s limit).bind (bytesBefore s)
  else do
    let room ← Nat.psub limit 3
    let back ← Nat.psub room (room / 2)
    let offset ← Nat.psub (size s) back
    let head ← (cutBackFrom s (room / 2)).bind (bytesBefore s)
    let tail ← (cutOnFrom s offset).bind (bytesBehind s)
    return head ++ encode "..." ++ tail

/-- At each end a character of four bytes may be left out for want of one byte. -/
theorem le_size_shorten {limit : Nat} {s : String} (h : limit < size s) :
    limit ≤ size (shorten limit s) + 6 := by
  rcases Nat.lt_or_ge limit 5 with hshort | hroom
  · have hgap := (longest_clip limit s).front_gap h
    rw [shorten_of_lt_five h hshort]
    omega
  · have hfront := (longest_clip ((limit - 3) / 2) s).front_gap (by omega)
    have hback := (longest_clipStart (limit - 3 - (limit - 3) / 2) s).back_gap (by omega)
    have hdots : size "..." = 3 := by decide
    rw [shorten_of_five_le h hroom, size_append, size_append, hdots]
    omega

/-- **No cut fails**, and what is put together is the shortened text. -/
theorem shortenAt_eq (limit : Nat) (s : String) :
    shortenAt limit s = some (encode (shorten limit s)) := by
  unfold shortenAt
  by_cases hfits : size s ≤ limit
  · rw [if_pos hfits, shorten_of_size_le hfits]
  have h : limit < size s := Nat.not_le.1 hfits
  rw [if_neg hfits]
  by_cases hshort : limit < 5
  · rw [if_pos hshort, bytesBefore_cutBackFrom, shorten_of_lt_five h hshort]
  have hback : limit - 3 - (limit - 3) / 2 ≤ size s := by omega
  rw [if_neg hshort, shorten_of_five_le h (Nat.not_lt.1 hshort), encode_append, encode_append,
    Nat.psub_eq_sub (by omega : 3 ≤ limit)]
  simp only [Option.bind_eq_bind, Option.bind_some, Nat.psub_eq_sub (Nat.div_le_self _ 2),
    Nat.psub_eq_sub hback, bytesBefore_cutBackFrom, bytesBehind_cutOnFrom hback]
  rfl

/-- **Shortening keeps the most of both ends**, for every text and limit, and no cut on the way
splits a character or is out of range. The result is within the limit, and it is the text itself
exactly if that fits. Otherwise, without room for dots, it is the longest beginning that fits; with
room for them it is the longest beginning and the longest end that fit into the halves of what the
dots leave, which do not overlap. So a text that does not fit uses all of the limit but six bytes at
most. -/
theorem shorten_keeps_most (limit : Nat) (s : String) :
    shortenAt limit s = some (encode (shorten limit s)) ∧
      size (shorten limit s) ≤ limit ∧
      (shorten limit s = s ↔ size s ≤ limit) ∧
      (limit < size s → limit < 5 → Longest (IsFront s) limit (shorten limit s)) ∧
      (limit < size s → 5 ≤ limit → ∃ front middle back,
        shorten limit s = front ++ "..." ++ back ∧ front ++ middle ++ back = s ∧
          Longest (IsFront s) ((limit - 3) / 2) front ∧
          Longest (IsBack s) (limit - 3 - (limit - 3) / 2) back) ∧
      (limit < size s → limit ≤ size (shorten limit s) + 6) := by
  refine ⟨shortenAt_eq limit s, size_shorten_le limit s, shorten_eq_iff, fun h hshort => ?_,
    fun h hroom => ?_, le_size_shorten⟩
  · rw [shorten_of_lt_five h hshort]
    exact longest_clip limit s
  · obtain ⟨middle, hs, -⟩ := exists_middle (s := s) (m := (limit - 3) / 2)
      (n := limit - 3 - (limit - 3) / 2) (by omega)
    exact ⟨_, middle, _, shorten_of_five_le h hroom, hs, longest_clip _ s, longest_clipStart _ s⟩

/-- The offsets lie inside characters of three bytes, so that of four bytes at either end one is not
used. -/
theorem shorten_keeps_most_multibyte :
    let name := "日本語のディスク"
    11 < size name ∧ shorten 11 name = "日...ク" ∧
      (∃ front middle back,
        shorten 11 name = front ++ "..." ++ back ∧ front ++ middle ++ back = name ∧
          Longest (IsFront name) 4 front ∧ Longest (IsBack name) 4 back) ∧
      11 ≤ size (shorten 11 name) + 6 ∧
      4 < size name ∧ Longest (IsFront name) 4 (shorten 4 name) := by
  intro name
  have hlong : 11 < size name := by decide +kernel
  have hlong' : 4 < size name := by decide +kernel
  obtain ⟨-, -, -, -, hdotted, hgap⟩ := shorten_keeps_most 11 name
  obtain ⟨-, -, -, hcut, -⟩ := shorten_keeps_most 4 name
  exact ⟨hlong, by decide +kernel, hdotted hlong (by decide), hgap hlong, hlong',
    hcut hlong' (by decide)⟩

end StorageAdapter.Text
