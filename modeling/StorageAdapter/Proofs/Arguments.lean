import Mathlib.Data.List.TakeWhile
import StorageAdapter.Proofs.Numeral

/-! # The grammar of arguments

A numeral in a command line is white space, a mark if its base has one, perhaps a sign, digits, and
white space again (`Numeral`). Numbers are read from numerals and from nothing else
(`readsNumerals_decimal`, `readsNumerals_hexadecimal`), and so the arguments of all four kinds
follow the one grammar (`FollowsGrammar`). -/

namespace StorageAdapter.Text

/-! ### White space -/

theorem trim_of_notBlank {cs : List Char} (h : ∀ c ∈ cs, isBlank c = false) : trim cs = cs := by
  have hstart : ∀ {cs : List Char}, (∀ c ∈ cs, isBlank c = false) → trimStart cs = cs := by
    intro cs hcs
    rcases cs with _ | ⟨c, cs⟩
    · rfl
    · have hc := hcs c List.mem_cons_self
      unfold trimStart
      rw [List.dropWhile_cons_of_neg (by simp [hc])]
  unfold trim
  rw [hstart h, hstart fun c hc => h c (List.mem_reverse.1 hc), List.reverse_reverse]

theorem isBlank_of_isDigit {c : Char} (h : IsDigit c) : isBlank c = false := by
  unfold IsDigit at h
  simp [isBlank, blankRanges]
  omega

theorem exists_trim (cs : List Char) : ∃ before after,
    (∀ c ∈ before, isBlank c) ∧ (∀ c ∈ after, isBlank c) ∧ before ++ trim cs ++ after = cs := by
  have hblank {ds : List Char} : ∀ c ∈ ds.takeWhile isBlank, isBlank c :=
    List.all_eq_true.1 List.all_takeWhile
  refine ⟨cs.takeWhile isBlank, ((trimStart cs).reverse.takeWhile isBlank).reverse, hblank,
    fun c hc => hblank c (List.mem_reverse.1 hc), ?_⟩
  unfold trim trimStart
  rw [List.append_assoc, ← List.reverse_append, List.takeWhile_append_dropWhile,
    List.reverse_reverse, List.takeWhile_append_dropWhile]

theorem trim_append {before after : List Char} (hbefore : ∀ c ∈ before, isBlank c)
    (hafter : ∀ c ∈ after, isBlank c) (cs : List Char) :
    trim (before ++ cs ++ after) = trim cs := by
  unfold trim trimStart
  rw [List.append_assoc, List.dropWhile_append_of_pos hbefore, List.dropWhile_append]
  split
  · next hnone =>
    rw [List.isEmpty_iff.1 hnone, List.dropWhile_eq_nil_iff.2 hafter]
  · rw [List.reverse_append,
      List.dropWhile_append_of_pos fun c hc => hafter c (List.mem_reverse.1 hc)]

/-! ### Signs and marks -/

/-- The marks that a hexadecimal numeral may begin with. -/
def marks : List (List Char) := [[], ['0', 'x'], ['0', 'X']]

theorem notBlank_of_mem_marks {mark : List Char} (h : mark ∈ marks) :
    ∀ c ∈ mark, isBlank c = false := by
  have hnone : ∀ mark ∈ marks, ∀ c ∈ mark, isBlank c = false := by
    simp only [marks, List.forall_mem_cons, List.not_mem_nil, false_imp_iff, implies_true]
    decide
  exact hnone mark h

theorem withoutMark_of_isDigit {cs : List Char} (h : ∀ c ∈ cs, IsDigit c) :
    withoutMark cs = cs := by
  unfold withoutMark
  split
  · have := h 'x' (by simp)
    simp [IsDigit] at this
  · have := h 'X' (by simp)
    simp [IsDigit] at this
  · rfl

theorem withoutMark_append {mark cs : List Char} (hmark : mark ∈ marks)
    (h : withoutMark cs = cs) : withoutMark (mark ++ cs) = cs := by
  simp only [marks, List.mem_cons, List.not_mem_nil, or_false] at hmark
  rcases hmark with rfl | rfl | rfl
  · exact h
  · rfl
  · rfl

/-- Digits that spell a number, perhaps behind a plus sign. -/
inductive Signed (base n : Nat) : List Char → Prop
  | plain {cs : List Char} (h : Spells base n cs) : Signed base n cs
  | plus {cs : List Char} (h : Spells base n cs) : Signed base n ('+' :: cs)

section Signed

variable {base limit n : Nat} {cs : List Char} (hbase : 1 < base) (hle : base ≤ 16)
include hbase hle

theorem unsigned_eq_some_iff :
    Text.unsigned base limit cs = some n ↔ Signed base n cs ∧ n ≤ limit := by
  unfold Text.unsigned
  simp only [Option.filter_eq_some_iff, decide_eq_true_iff]
  refine and_congr_left fun _ => ?_
  split
  · rw [digits_eq_some_iff hbase hle]
    refine ⟨.plus, fun h => ?_⟩
    cases h with
    | plain h =>
      -- a sign is no digit
      have := h.isDigit hbase hle '+' List.mem_cons_self
      simp [IsDigit] at this
    | plus h => exact h
  · next hsign =>
    rw [digits_eq_some_iff hbase hle]
    refine ⟨.plain, fun h => ?_⟩
    cases h with
    | plain h => exact h
    | plus h => exact absurd rfl (hsign _)

theorem Signed.notBlank (h : Signed base n cs) : ∀ c ∈ cs, isBlank c = false := by
  cases h with
  | plain h => exact fun c hc => isBlank_of_isDigit (h.isDigit hbase hle c hc)
  | plus h =>
    intro c hc
    rcases List.mem_cons.1 hc with rfl | hc
    · decide
    · exact isBlank_of_isDigit (h.isDigit hbase hle c hc)

/-- What begins with a sign or a digit has no mark. -/
theorem Signed.withoutMark (h : Signed base n cs) : Text.withoutMark cs = cs := by
  cases h with
  | plain h => exact withoutMark_of_isDigit (h.isDigit hbase hle)
  | plus h => rfl

end Signed

theorem exists_mark (cs : List Char) : ∃ mark ∈ marks, mark ++ withoutMark cs = cs := by
  unfold withoutMark
  split
  · exact ⟨['0', 'x'], by simp [marks], rfl⟩
  · exact ⟨['0', 'X'], by simp [marks], rfl⟩
  · exact ⟨[], by simp [marks], rfl⟩

/-! ### The grammar -/

/-- **A numeral in a command line**: a mark, perhaps a sign, and digits, with white space around
them. -/
inductive Numeral (base : Nat) (marks : List (List Char)) (n : Nat) : String → Prop
  | intro {before mark cs after : List Char} (hbefore : ∀ c ∈ before, isBlank c)
      (hmark : mark ∈ marks) (h : Signed base n cs) (hafter : ∀ c ∈ after, isBlank c) :
      Numeral base marks n (String.ofList (before ++ (mark ++ cs) ++ after))

/-- Numbers are read from the numerals of a base and from nothing else, within any limit. -/
def ReadsNumerals (base : Nat) (marks : List (List Char)) (value? : Nat → String → Option Nat) :
    Prop :=
  ∀ limit n token, value? limit token = some n ↔ Numeral base marks n token ∧ n ≤ limit

/-- It is enough that just the marks of the base are taken off before the sign. -/
theorem readsNumerals {base : Nat} {marks : List (List Char)} (unmark : List Char → List Char)
    (hbase : 1 < base) (hle : base ≤ 16) (hblank : ∀ mark ∈ marks, ∀ c ∈ mark, isBlank c = false)
    (hsplit : ∀ cs, ∃ mark ∈ marks, mark ++ unmark cs = cs)
    (hunmark : ∀ mark ∈ marks, ∀ n cs, Signed base n cs → unmark (mark ++ cs) = cs) :
    ReadsNumerals base marks fun limit token =>
      Text.unsigned base limit (unmark (trim token.toList)) := by
  intro limit n token
  rw [unsigned_eq_some_iff hbase hle]
  refine and_congr_left fun _ => ⟨fun h => ?_, ?_⟩
  · obtain ⟨before, after, hbefore, hafter, htoken⟩ := exists_trim token.toList
    obtain ⟨mark, hmark, hcs⟩ := hsplit (trim token.toList)
    have hnumeral := Numeral.intro hbefore hmark h hafter
    rwa [hcs, htoken, String.ofList_toList] at hnumeral
  · rintro @⟨before, mark, cs, after, hbefore, hmark, h, hafter⟩
    have hnot : ∀ c ∈ mark ++ cs, isBlank c = false := fun c hc =>
      (List.mem_append.1 hc).elim (hblank mark hmark c) (h.notBlank hbase hle c)
    rwa [String.toList_ofList, trim_append hbefore hafter, trim_of_notBlank hnot,
      hunmark mark hmark n cs h]

/-- A spelled number is a numeral, behind any mark of its base. -/
theorem numeral_of_spells {base n : Nat} {marks : List (List Char)} {mark cs : List Char}
    (hmark : mark ∈ marks) (h : Spells base n cs) :
    Numeral base marks n (String.ofList (mark ++ cs)) := by
  have hnumeral := @Numeral.intro base marks n [] mark cs [] nofun hmark (.plain h) nofun
  rwa [List.nil_append, List.append_nil] at hnumeral

theorem readsNumerals_decimal : ReadsNumerals 10 [[]] decimal? :=
  readsNumerals id (by decide) (by decide) (by simp) (by simp) (by simp)

theorem readsNumerals_hexadecimal : ReadsNumerals 16 marks hexadecimal? :=
  readsNumerals withoutMark (by decide) (by decide) (fun _ => notBlank_of_mem_marks) exists_mark
    fun _ hmark _ _ h => withoutMark_append hmark (h.withoutMark (by decide) (by decide))

section ReadsNumerals

variable {base limit : Nat} {marks : List (List Char)} {value? : Nat → String → Option Nat}
  {token : String} (h : ReadsNumerals base marks value?)
include h

/-- The larger one of two numbers is a limit within which both are read. -/
theorem ReadsNumerals.unique {m n : Nat} (hm : Numeral base marks m token)
    (hn : Numeral base marks n token) : m = n := by
  have hm := (h _ _ _).2 ⟨hm, Nat.le_max_left m n⟩
  have hn := (h _ _ _).2 ⟨hn, Nat.le_max_right m n⟩
  exact Option.some.inj (hm.symm.trans hn)

theorem ReadsNumerals.eq_none (hno : ¬∃ n ≤ limit, Numeral base marks n token) :
    value? limit token = none := by
  refine Option.eq_none_iff_forall_ne_some.2 fun n hn => ?_
  obtain ⟨hnumeral, hle⟩ := (h _ _ _).1 hn
  exact hno ⟨n, hle, hnumeral⟩

/-- A number is read within a smaller limit if it is read within a larger one and fits. -/
theorem ReadsNumerals.filter {large : Nat} (hle : limit ≤ large) (token : String) :
    value? limit token = (value? large token).filter (· ≤ limit) := by
  refine Option.ext fun n => ?_
  rw [Option.filter_eq_some_iff, h limit n token, h large n token, decide_eq_true_iff, and_assoc]
  exact and_congr_right fun _ => ⟨fun hn => ⟨hn.trans hle, hn⟩, And.right⟩

end ReadsNumerals

/-! ### Arguments -/

/-- **An argument that follows the grammar of a base.** Only numerals succeed, with the number that
they spell, and only up to the limit. A larger number does not wrap around: there is the error that
the caller names, as there is for whatever is no numeral. -/
structure FollowsGrammar {α : Type} (base : Nat) (marks : List (List Char)) (limit : Nat)
    (toNat : α → Nat) (read : String → String → Except Error α) : Prop where
  succeeds_iff (what token : String) (n : Nat) : (∃ a, read what token = .ok a ∧ toNat a = n) ↔
    Numeral base marks n token ∧ n ≤ limit
  refuses (what : String) {token : String} (hno : ¬∃ n ≤ limit, Numeral base marks n token) :
    read what token = .error (.parameter what)
  refuses_large (what : String) {token : String} {n : Nat} (hn : Numeral base marks n token)
    (hlarge : limit < n) : read what token = .error (.parameter what)

/-- It is enough that the number is read by the grammar and then stored in a type that holds it. -/
theorem ReadsNumerals.followsGrammar {α : Type} {base limit : Nat} {marks : List (List Char)}
    {toNat : α → Nat} {ofNat : Nat → α} {value? : Nat → String → Option Nat}
    {read : String → String → Except Error α} (h : ReadsNumerals base marks value?)
    (hof : ∀ n ≤ limit, toNat (ofNat n) = n)
    (hread : ∀ what token, read what token = match value? limit token with
      | some n => .ok (ofNat n)
      | none => .error (.parameter what)) :
    FollowsGrammar base marks limit toNat read where
  succeeds_iff what token n := by
    rw [← h limit n token, hread]
    rcases hv : value? limit token with _ | m
    · exact iff_of_false nofun nofun
    · have hm : toNat (ofNat m) = m := hof m ((h _ _ _).1 hv).2
      simp [hm]
  refuses what {token} hno := by rw [hread, h.eq_none hno]
  refuses_large what {token n} hn hlarge := by
    have hno : ¬∃ m ≤ limit, Numeral base marks m token := by
      rintro ⟨m, hm, hnumeral⟩
      have := h.unique hn hnumeral
      omega
    rw [hread, h.eq_none hno]

theorem FollowsGrammar.eq_ok {α : Type} {base limit : Nat} {marks : List (List Char)}
    {toNat : α → Nat} {read : String → String → Except Error α}
    (h : FollowsGrammar base marks limit toNat read) (hinj : Function.Injective toNat) {a : α}
    (ha : toNat a ≤ limit) {token : String} (hn : Numeral base marks (toNat a) token)
    (what : String) : read what token = .ok a := by
  obtain ⟨a', hread, ha'⟩ := (h.succeeds_iff what token (toNat a)).2 ⟨hn, ha⟩
  rw [hread, hinj ha']

theorem toNat_ofNat_byte {n : Nat} (h : n ≤ 255) : (UInt8.ofNat n).toNat = n :=
  UInt8.toNat_ofNat_of_lt' (Nat.lt_succ_of_le h)

theorem toNat_ofNat_word {n : Nat} (h : n ≤ 65535) : (UInt16.ofNat n).toNat = n :=
  UInt16.toNat_ofNat_of_lt' (Nat.lt_succ_of_le h)

theorem followsGrammar_byte : FollowsGrammar 10 [[]] 255 UInt8.toNat byteArgument :=
  readsNumerals_decimal.followsGrammar (fun _ => toNat_ofNat_byte) fun _ _ => rfl

theorem followsGrammar_word : FollowsGrammar 10 [[]] 65535 UInt16.toNat wordArgument :=
  readsNumerals_decimal.followsGrammar (fun _ => toNat_ofNat_word) fun _ _ => rfl

theorem followsGrammar_hexByte : FollowsGrammar 16 marks 255 UInt8.toNat hexByteArgument :=
  readsNumerals_hexadecimal.followsGrammar (fun _ => toNat_ofNat_byte) fun _ _ => rfl

theorem followsGrammar_hexWord : FollowsGrammar 16 marks 65535 UInt16.toNat hexWordArgument :=
  readsNumerals_hexadecimal.followsGrammar (fun _ => toNat_ofNat_word) fun _ _ => rfl

/-- **A hexadecimal byte is a hexadecimal word that fits.** -/
theorem hexByteArgument_eq (what token : String) : hexByteArgument what token =
    hexWordArgument what token >>= fun w =>
      if w.toNat ≤ 255 then .ok w.toUInt8 else .error (.parameter what) := by
  have hfilter := readsNumerals_hexadecimal.filter (by decide : 255 ≤ 65535) token
  unfold hexByteArgument hexWordArgument
  rcases hword : hexadecimal? 65535 token with _ | n
  · rw [hfilter, hword]
    rfl
  · obtain ⟨-, hlimit⟩ := (readsNumerals_hexadecimal _ _ _).1 hword
    have hn : (UInt16.ofNat n).toNat = n := toNat_ofNat_word hlimit
    show _ = if (UInt16.ofNat n).toNat ≤ 255 then _ else _
    rw [hn]
    by_cases hle : n ≤ 255
    · have hbyte : hexadecimal? 255 token = some n := by
        rw [hfilter, hword]
        exact Option.filter_some_pos (decide_eq_true hle)
      rw [if_pos hle, hbyte, UInt16.toUInt8_ofNat']
    · have hbyte : hexadecimal? 255 token = none := by
        rw [hfilter, hword]
        exact Option.filter_some_neg (by simpa using hle)
      rw [if_neg hle, hbyte]

/-- **The arguments of all four kinds follow one grammar**: white space of any kind around a mark,
an optional plus sign and one or more digits, which may be in either case and behind zeros. Only
hexadecimal numerals may have a mark, and a hexadecimal byte is a hexadecimal word that fits. -/
theorem arguments_follow_grammar :
    FollowsGrammar 10 [[]] 255 UInt8.toNat byteArgument ∧
      FollowsGrammar 10 [[]] 65535 UInt16.toNat wordArgument ∧
      FollowsGrammar 16 [[], ['0', 'x'], ['0', 'X']] 65535 UInt16.toNat hexWordArgument ∧
      FollowsGrammar 16 [[], ['0', 'x'], ['0', 'X']] 255 UInt8.toNat hexByteArgument ∧
      ∀ what token, hexByteArgument what token = hexWordArgument what token >>= fun w =>
        if w.toNat ≤ 255 then .ok w.toUInt8 else .error (.parameter what) :=
  ⟨followsGrammar_byte, followsGrammar_word, followsGrammar_hexWord, followsGrammar_hexByte,
    hexByteArgument_eq⟩

/-- Wide white space, a sign and zeros are no part of the number, but nothing may stand between the
mark and the digits, and a second sign is not one. -/
example : wordArgument "invalid number" "\u3000+007\u00a0" = .ok 7 ∧
    hexWordArgument "invalid number" "0X+bEEf" = .ok 0xBEEF ∧
    hexByteArgument "invalid number" "0x100" = .error (.parameter "invalid number") ∧
    hexByteArgument "invalid number" "0x 1" = .error (.parameter "invalid number") ∧
    byteArgument "invalid number" "++1" = .error (.parameter "invalid number") := by
  decide +kernel

end StorageAdapter.Text
