import Mathlib.Data.List.Basic
import StorageAdapter.Line
import StorageAdapter.Proofs.Arguments
import StorageAdapter.Proofs.Utf8

/-! # Lines that are written

A first word and parameters are written as a line with a colon and with commas, perhaps with a line
end behind them, and read back as they were (`fields_spell`), whatever bytes they are made of but
these two; the last parameter may hold commas and is read as it was sent (`bytesFrom_spell`). A
number in digits is read back, too. -/

namespace StorageAdapter.Line

/-! ### Line ends -/

/-- The last byte is neither a carriage return nor a line feed. -/
def Unended (bs : Bytes) : Prop := ∀ b, bs.getLast? = some b → b ≠ 13 ∧ b ≠ 10

/-- Nothing but carriage returns and line feeds. -/
def IsEnd (ending : Bytes) : Prop := ∀ b ∈ ending, b = 13 ∨ b = 10

theorem withoutEnd_of_unended {bs : Bytes} (h : Unended bs) : withoutEnd bs = bs := by
  unfold withoutEnd
  rcases hr : bs.reverse with _ | ⟨b, rest⟩
  · exact (List.reverse_eq_nil_iff.1 hr).symm
  · obtain ⟨hcr, hlf⟩ := h b (by rw [← List.head?_reverse, hr, List.head?_cons])
    rw [List.dropWhile_cons_of_neg (by simp [hcr, hlf]), ← hr, List.reverse_reverse]

theorem withoutEnd_append {ending : Bytes} (h : IsEnd ending) (bs : Bytes) :
    withoutEnd (bs ++ ending) = withoutEnd bs := by
  have hend : ∀ b ∈ ending.reverse, (b == 13 || b == 10) = true := by
    intro b hb
    simpa using h b (List.mem_reverse.1 hb)
  unfold withoutEnd
  rw [List.reverse_append, List.dropWhile_append_of_pos hend]

/-- A line end makes no difference. -/
theorem parse_append {ending : Bytes} (h : IsEnd ending) (bs : Bytes) :
    parse (bs ++ ending) = parse bs := by
  unfold parse
  rw [withoutEnd_append h]

theorem Unended.append {xs ys : Bytes} (hx : Unended xs) (hy : Unended ys) :
    Unended (xs ++ ys) := by
  intro b hb
  rw [List.getLast?_append] at hb
  rcases hl : ys.getLast? with _ | c <;> rw [hl] at hb
  · exact hx b hb
  · exact hy b (hl.trans hb)

theorem Unended.append_cons (xs : Bytes) {c : UInt8} (hc : c ≠ 13 ∧ c ≠ 10) :
    Unended (xs ++ [c]) := by
  intro b hb
  rw [List.getLast?_concat] at hb
  exact Option.some.inj hb ▸ hc

/-! ### Words and parameters -/

/-- The line of a first word and its parameters. -/
def spell (word : Bytes) (args : List Bytes) : Bytes := word ++ colon :: [comma].intercalate args

/-- The line of a keyword and its parameters. -/
def write (keyword : String) (args : List Bytes) : Bytes :=
  Text.encode keyword ++ colon :: [comma].intercalate args

theorem intercalate_concat (args : List Bytes) (a : Bytes) :
    [comma].intercalate (args ++ [a]) = args.flatMap (· ++ [comma]) ++ a := by
  induction args with
  | nil => rw [List.nil_append, List.intercalate_singleton, List.flatMap_nil, List.nil_append]
  | cons b args ih =>
    obtain ⟨c, rest, hc⟩ : ∃ c rest, args ++ [a] = c :: rest :=
      List.exists_cons_of_ne_nil (List.append_ne_nil_of_right_ne_nil args (List.cons_ne_nil a []))
    rw [List.cons_append, hc, List.intercalate_cons_cons, ← hc, ih, List.flatMap_cons,
      List.append_assoc, List.append_assoc, List.append_assoc]

/-- The last parameter ends the line. -/
theorem unended_spell {a : Bytes} (ha : Unended a) (word : Bytes) (args : List Bytes) :
    Unended (spell word (args ++ [a])) := by
  have hfront : Unended (word ++ colon :: args.flatMap (· ++ [comma])) := by
    rcases List.eq_nil_or_concat args with rfl | ⟨args, b, rfl⟩
    · exact Unended.append_cons word (by decide)
    · have hcomma : word ++ colon :: (args ++ [b]).flatMap (· ++ [comma]) =
          word ++ colon :: (args.flatMap (· ++ [comma]) ++ b) ++ [comma] := by
        simp
      rw [List.concat_eq_append, hcomma]
      exact Unended.append_cons _ (by decide)
  have hline : spell word (args ++ [a]) =
      word ++ colon :: args.flatMap (· ++ [comma]) ++ a := by
    unfold spell
    rw [intercalate_concat, List.append_assoc, List.cons_append]
  rw [hline]
  exact hfront.append ha

section Replacing

variable {x y : UInt8} {xs : Bytes} (h : x ∉ xs) (ys : Bytes)
include h

theorem replaceFirst_append_of_notMem :
    replaceFirst x y (xs ++ ys) = xs ++ replaceFirst x y ys := by
  induction xs with
  | nil => rfl
  | cons b xs ih =>
    rw [List.mem_cons, not_or] at h
    simp [replaceFirst, ih h.2, Ne.symm h.1]

theorem replaceFirst_append : replaceFirst x y (xs ++ x :: ys) = xs ++ y :: ys := by
  rw [replaceFirst_append_of_notMem h]
  simp [replaceFirst]

theorem replaceFirst_of_notMem : replaceFirst x y xs = xs := by
  have hnil := replaceFirst_append_of_notMem (y := y) h []
  rwa [List.append_nil, show replaceFirst x y [] = [] from rfl, List.append_nil] at hnil

end Replacing

/-- Parameters without commas are told apart by the commas between them; the last one may be split
further. -/
theorem splitAll_intercalate {args : List Bytes} (hc : ∀ a ∈ args, comma ∉ a) (a : Bytes) :
    Text.splitAll comma ([comma].intercalate (args ++ [a])) = args ++ Text.splitAll comma a := by
  rw [intercalate_concat]
  induction args with
  | nil => rfl
  | cons b args ih =>
    have hb := hc b List.mem_cons_self
    have hargs := ih fun x hx => hc x (List.mem_cons_of_mem _ hx)
    rw [List.flatMap_cons, List.append_assoc, List.append_assoc, List.singleton_append,
      Text.splitAll_append hb, hargs, List.cons_append]

theorem afterComma_append {xs : Bytes} (h : comma ∉ xs) (n : Nat) (ys : Bytes) :
    afterComma n (xs ++ ys) = afterComma n ys := by
  induction xs with
  | nil => rfl
  | cons b xs ih =>
    rw [List.mem_cons, not_or] at h
    simp [afterComma, ih h.2, Ne.symm h.1]

theorem afterComma_intercalate {word : Bytes} (hword : comma ∉ word) {args : List Bytes}
    (hargs : ∀ a ∈ args, comma ∉ a) (a : Bytes) :
    afterComma args.length (word ++ comma :: [comma].intercalate (args ++ [a])) = some a := by
  rw [intercalate_concat]
  induction args generalizing word with
  | nil =>
    rw [afterComma_append hword]
    rfl
  | cons b args ih =>
    have hb := hargs b List.mem_cons_self
    have hrest := ih hb fun x hx => hargs x (List.mem_cons_of_mem _ hx)
    rw [afterComma_append hword, List.flatMap_cons, List.append_assoc, List.append_assoc]
    exact hrest

section Spell

variable {word : Bytes} (hcolon : colon ∉ word) {args : List Bytes} {a : Bytes} (ha : Unended a)
  {ending : Bytes} (he : IsEnd ending)
include hcolon ha he

theorem raw_spell : (parse (spell word (args ++ [a]) ++ ending)).raw =
    word ++ comma :: [comma].intercalate (args ++ [a]) := by
  have hend := unended_spell ha word args
  rw [parse_append he]
  unfold parse
  rw [withoutEnd_of_unended hend]
  exact replaceFirst_append hcolon _

variable (hcomma : comma ∉ word) (hargs : ∀ a ∈ args, comma ∉ a)
include hcomma hargs

/-- **A line that is written is read back**, but for the commas in its last parameter. -/
theorem fields_spell : (parse (spell word (args ++ [a]) ++ ending)).fields =
    word :: (args ++ Text.splitAll comma a) := by
  unfold fields
  rw [raw_spell hcolon ha he, Text.splitAll_append hcomma, splitAll_intercalate hargs]

/-- **The last parameter is read as it was sent**, commas included. -/
theorem bytesFrom_spell :
    (parse (spell word (args ++ [a]) ++ ending)).bytesFrom args.length = some a := by
  unfold bytesFrom
  rw [raw_spell hcolon ha he, afterComma_intercalate hcomma hargs]

end Spell

/-- The keyword and the parameters can be told apart again. -/
structure Legible (keyword : String) (args : List Bytes) : Prop where
  colon_notMem : colon ∉ Text.encode keyword
  comma_notMem : comma ∉ Text.encode keyword
  ne_nil : args ≠ []
  plain : ∀ a ∈ args, comma ∉ a
  unended : Unended (write keyword args)

namespace Legible

variable {keyword : String} {args : List Bytes} (h : Legible keyword args)
include h

/-- **A line that is written is read back.** -/
theorem fields_write : (parse (write keyword args)).fields = Text.encode keyword :: args := by
  have hsplit : Text.splitAll comma ([comma].intercalate args) = args := by
    have hlast := h.plain _ (List.getLast_mem h.ne_nil)
    have hinit : ∀ a ∈ args.dropLast, comma ∉ a := fun a ha =>
      h.plain a (args.dropLast_sublist.subset ha)
    have hread := splitAll_intercalate hinit (args.getLast h.ne_nil)
    rwa [Text.splitAll_of_notMem hlast, List.dropLast_concat_getLast] at hread
  unfold parse fields
  rw [withoutEnd_of_unended h.unended]
  unfold write
  rw [replaceFirst_append h.colon_notMem, Text.splitAll_append h.comma_notMem, hsplit]

theorem command_write : (parse (write keyword args)).command =
    Command.ofKeyword? (Text.decodeLossy (Text.encode keyword)) := by
  unfold command Line.keyword
  rw [h.fields_write]
  rfl

theorem params_write : (parse (write keyword args)).params = args.map Text.decodeLossy := by
  unfold params
  rw [h.fields_write]
  rfl

end Legible

/-! ### Numbers as parameters -/

/-- A parameter: a number in decimal or hexadecimal digits, or bytes as they are. -/
inductive Parameter where
  | decimal (n : Nat)
  | hexadecimal (n : Nat)
  | text (bs : Bytes)
deriving DecidableEq, Repr

/-- **The bytes that a parameter is written as.** Numbers may stand behind zeros, hexadecimal ones
behind their mark, too, and with letters in either case. -/
inductive Parameter.Written : Parameter → Bytes → Prop
  | decimal {n : Nat} {cs : List Char} (h : Text.Spells 10 n cs) :
    Written (.decimal n) (Text.encode (String.ofList cs))
  | hexadecimal {n : Nat} {mark cs : List Char} (hmark : mark ∈ Text.marks)
      (h : Text.Spells 16 n cs) :
    Written (.hexadecimal n) (Text.encode (String.ofList (mark ++ cs)))
  | text (bs : Bytes) : Written (.text bs) bs

/-- The characters that numbers are written with. -/
theorem bounds_of_isDigit {c : Char} (h : Text.IsDigit c) : 48 ≤ c.toNat ∧ c.toNat < 0x80 := by
  unfold Text.IsDigit at h
  omega

theorem bounds_of_mem_hexadecimal {n : Nat} {mark cs : List Char} (hmark : mark ∈ Text.marks)
    (h : Text.Spells 16 n cs) : ∀ c ∈ mark ++ cs, 48 ≤ c.toNat ∧ c.toNat < 0x80 := by
  intro c hc
  rcases List.mem_append.1 hc with hc | hc
  · have hmarks : ∀ mark ∈ Text.marks, ∀ c ∈ mark, 48 ≤ c.toNat ∧ c.toNat < 0x80 := by
      simp [Text.marks]
    exact hmarks mark hmark c hc
  · exact bounds_of_isDigit (h.isDigit (by decide) (by decide) c hc)

theorem le_of_mem_digits {cs : List Char} (h : ∀ c ∈ cs, 48 ≤ c.toNat ∧ c.toNat < 0x80) :
    ∀ x ∈ Text.encode (String.ofList cs), 48 ≤ x.toNat := by
  intro x hx
  have hascii : ∀ c ∈ cs, c.toNat < 0x80 := fun c hc => (h c hc).2
  unfold Text.encode at hx
  rw [String.toList_ofList, Text.flatMap_utf8EncodeChar_of_lt hascii] at hx
  obtain ⟨c, hc, rfl⟩ := List.mem_map.1 hx
  have hbounds := h c hc
  rw [UInt8.toNat_ofNat']
  omega

namespace Parameter.Written

variable {token : Bytes}

theorem numeral_decimal {n : Nat} (h : (Parameter.decimal n).Written token) :
    Text.Numeral 10 [[]] n (Text.decodeLossy token) := by
  cases h with
  | decimal h =>
    rw [Text.decodeLossy_encode]
    exact Text.numeral_of_spells (List.mem_singleton_self []) h

theorem numeral_hexadecimal {n : Nat} (h : (Parameter.hexadecimal n).Written token) :
    Text.Numeral 16 Text.marks n (Text.decodeLossy token) := by
  cases h with
  | hexadecimal hmark h =>
    rw [Text.decodeLossy_encode]
    exact Text.numeral_of_spells hmark h

/-- **A byte in decimal digits is read back**, and so are words and hexadecimal numbers. -/
theorem byteArgument {b : UInt8} (h : (Parameter.decimal b.toNat).Written token) (what : String) :
    Text.byteArgument what (Text.decodeLossy token) = .ok b :=
  Text.followsGrammar_byte.eq_ok (fun _ _ => UInt8.toNat_inj.1) (Nat.le_of_lt_succ b.toNat_lt)
    h.numeral_decimal what

theorem wordArgument {w : UInt16} (h : (Parameter.decimal w.toNat).Written token) (what : String) :
    Text.wordArgument what (Text.decodeLossy token) = .ok w :=
  Text.followsGrammar_word.eq_ok (fun _ _ => UInt16.toNat_inj.1) (Nat.le_of_lt_succ w.toNat_lt)
    h.numeral_decimal what

theorem hexByteArgument {b : UInt8} (h : (Parameter.hexadecimal b.toNat).Written token)
    (what : String) : Text.hexByteArgument what (Text.decodeLossy token) = .ok b :=
  Text.followsGrammar_hexByte.eq_ok (fun _ _ => UInt8.toNat_inj.1) (Nat.le_of_lt_succ b.toNat_lt)
    h.numeral_hexadecimal what

theorem hexWordArgument {w : UInt16} (h : (Parameter.hexadecimal w.toNat).Written token)
    (what : String) : Text.hexWordArgument what (Text.decodeLossy token) = .ok w :=
  Text.followsGrammar_hexWord.eq_ok (fun _ _ => UInt16.toNat_inj.1) (Nat.le_of_lt_succ w.toNat_lt)
    h.numeral_hexadecimal what

theorem isEmpty_trim {n : Nat} (h : (Parameter.decimal n).Written token) :
    (Text.trim (Text.decodeLossy token).toList).isEmpty = false := by
  cases h with
  | @decimal _ cs h =>
    have hdigit := h.isDigit (by decide) (by decide)
    have htrim : Text.trim cs = cs :=
      Text.trim_of_notBlank fun c hc => Text.isBlank_of_isDigit (hdigit c hc)
    rw [Text.decodeLossy_encode, String.toList_ofList, htrim]
    simpa using h.ne_nil

/-- Numbers are written without the bytes between parameters and at the end of lines. -/
theorem le_of_mem {p : Parameter} (h : p.Written token) (hp : ∀ bs, p ≠ .text bs) :
    ∀ x ∈ token, 48 ≤ x.toNat := by
  cases h with
  | decimal h =>
    exact le_of_mem_digits fun c hc => bounds_of_isDigit (h.isDigit (by decide) (by decide) c hc)
  | hexadecimal hmark h => exact le_of_mem_digits (bounds_of_mem_hexadecimal hmark h)
  | text => exact absurd rfl (hp _)

theorem comma_notMem {p : Parameter} (h : p.Written token) (hp : ∀ bs, p ≠ .text bs) :
    comma ∉ token := fun hc => absurd (h.le_of_mem hp comma hc) (by decide)

theorem unended {p : Parameter} (h : p.Written token) (hp : ∀ bs, p ≠ .text bs) :
    Unended token := by
  intro x hx
  have hle := h.le_of_mem hp x (List.mem_of_getLast? hx)
  constructor <;> rintro rfl <;> simp at hle

end Parameter.Written

/-! ### Bytes in decimal digits -/

/-- A byte in decimal digits. -/
def decimal (b : UInt8) : Bytes := Text.encode (toString b.toNat)

theorem written_decimal (b : UInt8) : (Parameter.decimal b.toNat).Written (decimal b) := by
  have htoList : (toString b.toNat).toList = Nat.toDigits 10 b.toNat := Nat.toList_repr
  have hspells : Text.Spells 10 b.toNat (toString b.toNat).toList := by
    rw [htoList]
    exact Text.spells_toDigits _
  have h := Parameter.Written.decimal hspells
  rwa [String.ofList_toList] at h

theorem byteArgument_decimal (what : String) (b : UInt8) :
    Text.byteArgument what (Text.decodeLossy (decimal b)) = .ok b :=
  (written_decimal b).byteArgument what

theorem comma_notMem_decimal (b : UInt8) : comma ∉ decimal b :=
  (written_decimal b).comma_notMem nofun

theorem unended_decimal (b : UInt8) : Unended (decimal b) := (written_decimal b).unended nofun

end StorageAdapter.Line
