import StorageAdapter.Proofs.Separator

/-! # The views of a line

A parameter can be read as text, as the bytes that were sent, or as everything from it to the end of
the line. The first two go by the list of fields and the last one by counting commas, but they are
there for the same numbers, and with the bytes of all parameters the line can be put together again
(`viewsAgree`). So a handler that has counted the parameters finds what it asks for in every view,
and writing a key never misses its data (`writeKeyLine_eq`). -/

namespace StorageAdapter

open StorageAdapter.Action StorageAdapter.Device

namespace Line

/-! ### Fields -/

theorem headD_splitAll (sep : UInt8) (bs : Bytes) :
    (Text.splitAll sep bs).headD [] = bs.takeWhile (· != sep) := by
  have hplain {front : Bytes} (h : sep ∉ front) : ∀ b ∈ front, (b != sep) = true := fun b hb =>
    bne_iff_ne.2 (ne_of_mem_of_not_mem hb h)
  by_cases h : sep ∈ bs
  · obtain ⟨front, rest, rfl, hfront⟩ := List.eq_append_cons_of_mem h
    rw [Text.splitAll_append hfront, List.takeWhile_append_of_pos (hplain hfront)]
    simp
  · rw [Text.splitAll_of_notMem h, List.takeWhile_eq_self_iff.2 (hplain h)]
    rfl

/-- Counting commas leads to where the fields begin. -/
theorem afterComma_eq (n : Nat) (bs : Bytes) : afterComma n bs =
    if n < (Text.splitAll comma bs).tail.length then
      some ([comma].intercalate ((Text.splitAll comma bs).tail.drop n))
    else none := by
  induction bs generalizing n with
  | nil => rfl
  | cons b bs ih =>
    by_cases hb : b = comma
    · subst hb
      have hsplit : (Text.splitAll comma (comma :: bs)).tail = Text.splitAll comma bs := by
        simp [Text.splitAll]
      rw [hsplit]
      cases n with
      | zero =>
        have hpos := List.length_pos_iff.2 (Text.splitAll_ne_nil comma bs)
        rw [if_pos hpos, List.drop_zero, Text.intercalate_splitAll]
        rfl
      | succ n =>
        show afterComma n bs = _
        rw [ih, List.length_tail, List.drop_tail]
        exact if_congr (by omega) rfl rfl
    · have hsplit : (Text.splitAll comma (b :: bs)).tail = (Text.splitAll comma bs).tail := by
        rcases hs : Text.splitAll comma bs with _ | ⟨piece, pieces⟩ <;> simp [Text.splitAll, hb, hs]
      rw [hsplit, ← ih]
      simp [afterComma, hb]

theorem filterMap_getElem?_range' {α : Type} (xs : List α) (i : Nat) :
    (List.range' i (xs.length - i)).filterMap (xs[·]?) = xs.drop i := by
  induction hn : xs.length - i generalizing i with
  | zero =>
    rw [List.drop_eq_nil_of_le (by omega)]
    rfl
  | succ n ih =>
    have hi : i < xs.length := by omega
    rw [List.range'_succ, List.filterMap_cons, List.getElem?_eq_getElem hi, ih (i + 1) (by omega),
      List.drop_eq_getElem_cons hi]

/-! ### The views -/

/-- The parameters as they were sent, asked for one by one from parameter `i` on. -/
def paramsFrom (l : Line) (i : Nat) : List Bytes :=
  (List.range' i (l.paramCount - i)).filterMap l.paramBytes

/-- **The views of a line agree and lose nothing.** -/
structure ViewsAgree (l : Line) : Prop where
  param_isSome (i : Nat) : (l.param i).isSome ↔ i < l.paramCount
  paramBytes_isSome (i : Nat) : (l.paramBytes i).isSome ↔ i < l.paramCount
  bytesFrom_isSome (i : Nat) : (l.bytesFrom i).isSome ↔ i < l.paramCount
  param_eq (i : Nat) : l.param i = (l.paramBytes i).map Text.decodeLossy
  bytesFrom_eq {i : Nat} (h : i < l.paramCount) :
    l.bytesFrom i = some ([comma].intercalate (l.paramsFrom i))
  keyword_eq : l.keyword = Text.decodeLossy (l.raw.takeWhile (· != comma))
  raw_eq : [comma].intercalate (l.raw.takeWhile (· != comma) :: l.paramsFrom 0) = l.raw
  /-- Nothing but the keyword tells the command. -/
  command_eq : l.command = Command.ofKeyword? l.keyword

theorem length_tail_fields (l : Line) : l.fields.tail.length = l.paramCount :=
  (List.length_map _).symm

theorem paramsFrom_eq (l : Line) (i : Nat) : l.paramsFrom i = l.fields.tail.drop i := by
  unfold paramsFrom
  rw [← length_tail_fields]
  exact filterMap_getElem?_range' l.fields.tail i

theorem bytesFrom_eq_ite (l : Line) (i : Nat) : l.bytesFrom i =
    if i < l.paramCount then some ([comma].intercalate (l.paramsFrom i)) else none := by
  rw [paramsFrom_eq, ← length_tail_fields]
  exact afterComma_eq i l.raw

theorem viewsAgree (l : Line) : l.ViewsAgree where
  param_isSome i := by
    unfold param
    rw [isSome_getElem?]
    rfl
  paramBytes_isSome i := by
    unfold paramBytes
    rw [isSome_getElem?, length_tail_fields]
  bytesFrom_isSome i := by
    rw [bytesFrom_eq_ite]
    split <;> simp [*]
  param_eq i := List.getElem?_map
  bytesFrom_eq h := by rw [bytesFrom_eq_ite, if_pos h]
  keyword_eq := by
    unfold keyword fields
    rw [headD_splitAll]
  raw_eq := by
    have hjoin : [comma].intercalate l.fields = l.raw := Text.intercalate_splitAll comma l.raw
    obtain ⟨word, params, hfields⟩ :=
      List.exists_cons_of_ne_nil (Text.splitAll_ne_nil comma l.raw)
    have hfields : l.fields = word :: params := hfields
    have hword : l.raw.takeWhile (· != comma) = word := by
      rw [← headD_splitAll]
      exact congrArg (List.headD · []) hfields
    rw [paramsFrom_eq, List.drop_zero, hword, hfields, List.tail_cons, ← hfields, hjoin]
  command_eq := rfl

/-! ### What is read of a payload -/

/-- A line told from its payload: what stands before the carriage returns and line feeds at its end,
with the first colon, if there is one, made a comma. -/
def IsLineOf (payload raw : Bytes) : Prop :=
  ∃ body ending, payload = body ++ ending ∧ Unended body ∧ IsEnd ending ∧
    (colon ∉ body ∧ raw = body ∨ ∃ before after, colon ∉ before ∧
      body = before ++ colon :: after ∧ raw = before ++ comma :: after)

theorem isLineOf_parse (payload : Bytes) : IsLineOf payload (parse payload).raw := by
  obtain ⟨ending, hend, hpayload⟩ := exists_end payload
  refine ⟨withoutEnd payload, ending, hpayload, unended_withoutEnd payload, hend, ?_⟩
  by_cases h : colon ∈ withoutEnd payload
  · obtain ⟨before, after, hbody, hbefore⟩ := List.eq_append_cons_of_mem h
    refine .inr ⟨before, after, hbefore, hbody, ?_⟩
    unfold parse
    rw [hbody]
    exact replaceFirst_append hbefore after
  · exact .inl ⟨h, replaceFirst_of_notMem h⟩

end Line

section Device

variable {W R D : Type} [KeyStorage W]

/-- With two parameters there is no way left to miss the data. -/
theorem writeKeyLine_eq {l : Line} (h : 2 ≤ l.paramCount) : ∃ length data,
    l.paramBytes 0 = some length ∧ l.bytesFrom 1 = some data ∧
      (writeKeyLine l : Action (Device W R D) Unit) = (do
        let n ← Text.byteArgument "invalid key length" (Text.decodeLossy length)
        let _ ← onKeySession (KeySession.write (data.take (min n.toNat AppKey.limit)))
        reply "ok") := by
  have hviews := l.viewsAgree
  obtain ⟨length, hlength⟩ := Option.isSome_iff_exists.1 ((hviews.paramBytes_isSome 0).2 (by omega))
  obtain ⟨data, hdata⟩ := Option.isSome_iff_exists.1 ((hviews.bytesFrom_isSome 1).2 h)
  have hcount : atLeast 2 l = .ok () := if_neg (Nat.not_lt.2 h)
  have hparam : parameter l 0 = .ok (Text.decodeLossy length) := by
    unfold parameter
    rw [hviews.param_eq, hlength]
    rfl
  refine ⟨length, data, hlength, hdata, ?_⟩
  unfold writeKeyLine
  rw [hcount, hparam, hdata]
  rfl

/-- Of every payload the line is read that is left without its end, with its first colon made a
comma, and all views of it agree. So a key is written, if two parameters are there, without the
error for missing data: only the length may be refused, or the writing may fail. -/
theorem line_views_agree [HostStorage W R] [SettingsStore W] [DriveBay D] (payload : Bytes) :
    let l := Line.parse payload
    Line.IsLineOf payload l.raw ∧ l.ViewsAgree ∧
      (2 ≤ l.paramCount → ∃ length data,
        l.paramBytes 0 = some length ∧ l.bytesFrom 1 = some data ∧
          (runLine .writeAppKey l : Action (Device W R D) Unit) = do
            let n ← Text.byteArgument "invalid key length" (Text.decodeLossy length)
            let _ ← onKeySession (KeySession.write (data.take (min n.toNat AppKey.limit)))
            reply "ok") := by
  intro l
  exact ⟨Line.isLineOf_parse payload, l.viewsAgree, writeKeyLine_eq⟩

/-- The data of a key holds a comma and a colon behind the first one. -/
theorem line_views_agree_key :
    let l := Line.parse (Text.encode "WRITEAPPKEY:5,a,b:c\r\n")
    2 ≤ l.paramCount ∧ l.param 2 = some "b:c" ∧ ∃ length data,
      l.paramBytes 0 = some length ∧ l.bytesFrom 1 = some data ∧
        (runLine .writeAppKey l : Action Memory.Adapter Unit) = (do
          let n ← Text.byteArgument "invalid key length" (Text.decodeLossy length)
          let _ ← onKeySession (KeySession.write (data.take (min n.toNat AppKey.limit)))
          reply "ok") := by
  intro l
  have hcount : 2 ≤ l.paramCount := by decide +kernel
  obtain ⟨-, -, hwrite⟩ := line_views_agree (W := Memory.Storage) (R := String)
    (D := Memory.Drives) (Text.encode "WRITEAPPKEY:5,a,b:c\r\n")
  exact ⟨hcount, by decide +kernel, hwrite hcount⟩

end Device

end StorageAdapter
