import StorageAdapter.Proofs.Quoted
import StorageAdapter.Toml.Document
import StorageAdapter.Toml.SettingsFile

/-! # Keys and values that are read back

Each kind of value that settings are made of is read back from its text: strings, numbers of a byte,
truth values and lists of them. A value is tried as each kind in turn, so for every kind it is also
shown which texts are refused. -/

namespace StorageAdapter.Toml

open Reader

variable {c : Char} {cs rest : List Char}

/-! ### Keys -/

/-- A key without quotes is read with the spaces behind it. -/
theorem reads_keyPart {name : List Char} (gap : List Char) (hne : name ≠ [])
    (hname : ∀ c ∈ name, isBareKeyChar c = true) (hgap : ∀ c ∈ gap, isSpace c = true)
    (hend : NotBefore isBareKeyChar (gap ++ rest)) (hrest : NotBefore isSpace rest) :
    Reads keyPart (name ++ (gap ++ rest)) (String.ofList name) rest := by
  rcases name with _ | ⟨c, name⟩
  · exact absurd rfl hne
  have hc := hname c List.mem_cons_self
  have hspace : isSpace c = false := by
    rw [Bool.eq_false_iff]
    intro h
    simp only [isSpace, Bool.or_eq_true, beq_iff_eq] at h
    rcases h with rfl | rfl <;> exact absurd hc (by decide)
  have hquoted : Refuses Quoted.readLine (c :: name ++ (gap ++ rest)) := by
    unfold Refuses Quoted.readLine
    split
    · next heq => exact absurd hc (by rw [(List.cons.inj heq).1]; decide)
    · next heq => exact absurd hc (by rw [(List.cons.inj heq).1]; decide)
    · rfl
  have hbare : Reads bareKey (c :: name ++ (gap ++ rest)) (String.ofList (c :: name))
      (gap ++ rest) :=
    (reads_run1 hne hname hend).bind (reads_pure _ _)
  exact (reads_spaces (notBefore_cons hspace _)).bind
    ((hquoted.orElse_reads hbare).bind ((reads_gap hgap hrest).bind (reads_pure _ _)))

/-- A key that is not dotted. -/
theorem reads_key {part : String} (h : Reads keyPart cs part rest)
    (hrest : NotBefore (· == '.') rest) : Reads key cs ([], part) rest := by
  have hmore : Refuses nextKeyPart rest := hrest.char.bind
  refine h.bind (hmore.many.bind ?_)
  rw [if_neg (by decide)]
  exact reads_pure _ _

/-! ### Kinds of values that are refused -/

theorem digitsFrom_none {base acc : Nat} (hc : c ∈ cs) (h : Text.digitValue base c = none) :
    Text.digitsFrom base acc cs = none := by
  induction cs generalizing acc with
  | nil => exact absurd hc List.not_mem_nil
  | cons d cs ih =>
    rw [Text.digitsFrom_cons]
    rcases List.mem_cons.1 hc with rfl | hc
    · rw [h]
      rfl
    · rcases Text.digitValue base d with _ | v
      · rfl
      · exact ih hc

theorem refuses_number {width low high : Nat} (hc : c ∈ cs.take width)
    (h : Text.digitValue 10 c = none) : Refuses (Moment.number width low high) cs := by
  have hnone : Text.digits 10 (cs.take width) = none := by
    rcases hcs : cs.take width with _ | ⟨d, ds⟩
    · rfl
    · exact digitsFrom_none (hcs ▸ hc) h
  show (Text.digits 10 (cs.take width)).bind _ = none
  rw [hnone]
  rfl

/-- A number that is read takes its width off the text. -/
theorem number_cases (width low high : Nat) (cs : List Char) :
    Refuses (Moment.number width low high) cs ∨
      ∃ n, Reads (Moment.number width low high) cs n (cs.drop width) := by
  unfold Refuses Reads Moment.number
  rcases Text.digits 10 (cs.take width) with _ | n
  · exact .inl rfl
  · by_cases hfit : (cs.take width).length = width ∧ low ≤ n ∧ n ≤ high
    · exact .inr ⟨n, if_pos hfit⟩
    · exact .inl (if_neg hfit)

/-- What has another character than a digit among its first four is no date, and what has one among
its first two or no colon behind them is no time. -/
theorem refuses_moment (hfour : ∃ c ∈ cs.take 4, Text.digitValue 10 c = none)
    (htwo : (∃ c ∈ cs.take 2, Text.digitValue 10 c = none) ∨ NotBefore (· == ':') (cs.drop 2)) :
    Refuses Moment.read cs := by
  have hdate : Refuses Moment.dateAndTime cs := by
    obtain ⟨c, hc, hnone⟩ := hfour
    exact (refuses_number hc hnone).bind.bind
  have htime : Refuses Moment.time cs := by
    rcases htwo with ⟨c, hc, hnone⟩ | hcolon
    · exact (refuses_number hc hnone).bind
    · rcases number_cases 2 0 23 cs with hrefuses | ⟨n, hread⟩
      · exact hrefuses.bind
      · exact hread.bind_refuses hcolon.char.bind
  exact hdate.orElse htime

theorem refuses_quoted (h : NotBefore Quoted.isQuote cs) : Refuses Quoted.read cs := by
  unfold Refuses Quoted.read
  split
  · exact nomatch h '"' rfl
  · exact nomatch h '\'' rfl
  · unfold Quoted.readLine
    split
    · exact nomatch h '"' rfl
    · exact nomatch h '\'' rfl
    · rfl

theorem reads_sign (hminus : c ≠ '-') (hplus : c ≠ '+') (cs : List Char) :
    Reads Number.sign (c :: cs) false (c :: cs) := by
  unfold Reads Number.sign
  split
  · next heq => exact absurd (List.cons.inj heq).1 hminus
  · next heq => exact absurd (List.cons.inj heq).1 hplus
  · rfl

/-- No string, number, date or time begins with the character. -/
structure OtherStart (c : Char) : Prop where
  digit : Text.digitValue 10 c = none
  quote : Quoted.isQuote c = false
  sign : c ≠ '-' ∧ c ≠ '+'
  word : c ≠ 'i' ∧ c ≠ 'n'

namespace OtherStart

variable (hc : OtherStart c) (cs : List Char)
include hc

theorem refuses_plainDigits : Refuses Number.plainDigits (c :: cs) := by
  have hdigit : Number.isDigit 10 c = false := by
    unfold Number.isDigit
    rw [hc.digit]
    rfl
  unfold Refuses Number.plainDigits
  split
  · next heq => exact absurd hc.digit (by rw [(List.cons.inj heq).1]; decide)
  · exact (notBefore_cons hdigit cs).one.bind

theorem refuses_float : Refuses Number.float (c :: cs) := by
  have hdecimal : Refuses Number.decimal (c :: cs) :=
    (reads_sign hc.sign.1 hc.sign.2 cs).bind_refuses (hc.refuses_plainDigits cs).bind
  have hspecial : Refuses Number.special (c :: cs) :=
    (reads_sign hc.sign.1 hc.sign.2 cs).bind_refuses
      ((refuses_word hc.word.1 _ _).orElse (refuses_word hc.word.2 _ _))
  exact hdecimal.orElse hspecial

theorem refuses_integer : Refuses Number.integer (c :: cs) := by
  have hzero : c ≠ '0' := by
    rintro rfl
    exact absurd hc.digit (by decide)
  unfold Refuses Number.integer
  split
  · next heq => exact absurd (List.cons.inj heq).1 hzero
  · next heq => exact absurd (List.cons.inj heq).1 hzero
  · next heq => exact absurd (List.cons.inj heq).1 hzero
  · exact (reads_sign hc.sign.1 hc.sign.2 cs).bind_refuses (hc.refuses_plainDigits cs).bind

/-- Only a truth value may begin like this. -/
theorem scalar_eq :
    scalar (c :: cs) = (Node.boolean <$> boolean : Reader Node) (c :: cs) := by
  have hquoted : Refuses Quoted.read (c :: cs) := refuses_quoted (notBefore_cons hc.quote cs)
  have hmoment : Refuses Moment.read (c :: cs) :=
    refuses_moment ⟨c, List.mem_cons_self, hc.digit⟩ (.inl ⟨c, List.mem_cons_self, hc.digit⟩)
  rcases hboolean : (Node.boolean <$> boolean : Reader Node) (c :: cs) with _ | ⟨n, rest⟩
  · exact hquoted.map.orElse (hmoment.map.orElse
      ((hc.refuses_float cs).map.orElse ((hc.refuses_integer cs).map.orElse hboolean)))
  · exact hquoted.map.orElse_reads (hmoment.map.orElse_reads
      ((hc.refuses_float cs).map.orElse_reads ((hc.refuses_integer cs).map.orElse_reads hboolean)))

end OtherStart

/-! ### Single values -/

theorem reads_value {n : Node} (h : Reads scalar cs n rest) (depth : Nat) :
    Reads (value depth) cs n rest := by
  cases depth with
  | zero => exact h
  | succ depth => exact h.orElse

theorem reads_string (s : String) (hrest : NotBefore Quoted.isQuote rest) :
    Reads scalar ((Quoted.write s).toList ++ rest) (.string s) rest :=
  (Quoted.reads_write s hrest).map.orElse

theorem reads_boolean (b : Bool) (rest : List Char) :
    Reads scalar ((boolText b).toList ++ rest) (.boolean b) rest := by
  rcases b with _ | _
  · have hstart : OtherStart 'f' := ⟨by decide, by decide, by decide, by decide⟩
    have hread : Reads boolean ("false".toList ++ rest) false rest :=
      (refuses_word (by decide) _ _).bind.orElse_reads
        ((reads_word _ rest).bind (reads_pure false rest))
    exact (hstart.scalar_eq _).trans hread.map
  · have hstart : OtherStart 't' := ⟨by decide, by decide, by decide, by decide⟩
    have hread : Reads boolean ("true".toList ++ rest) true rest :=
      ((reads_word _ rest).bind (reads_pure true rest)).orElse
    exact (hstart.scalar_eq _).trans hread.map

/-! ### Numbers -/

section Numbers

variable {n : Nat}

theorem isDigit_of_mem_toDigits (hc : c ∈ Nat.toDigits 10 n) : Number.isDigit 10 c = true := by
  by_contra hdigit
  have hnone : Text.digitValue 10 c = none := by
    unfold Number.isDigit at hdigit
    simpa using hdigit
  have hread : Text.digitsFrom 10 0 (Nat.toDigits 10 n) = some n :=
    Text.digitsFrom_toDigits (by decide) (by decide) n
  rw [digitsFrom_none hc hnone] at hread
  exact nomatch hread

/-- Only zero is written with a zero at the beginning. -/
theorem toDigits_eq_cons (n : Nat) :
    ∃ c cs, Nat.toDigits 10 n = c :: cs ∧ (c = '0' → cs = []) := by
  induction n using Nat.strongRecOn with
  | _ n ih =>
    rcases Nat.lt_or_ge n 10 with hn | hn
    · exact ⟨n.digitChar, [], Nat.toDigits_of_lt_base hn, fun _ => rfl⟩
    · obtain ⟨c, cs, hcs, hzero⟩ := ih (n / 10) (by omega)
      refine ⟨c, cs ++ [(n % 10).digitChar], ?_, fun hc => ?_⟩
      · rw [Nat.toDigits_of_base_le (by decide) hn, hcs]
        rfl
      · -- the number without its last digit is not zero
        have hvalue : Text.digitsFrom 10 0 (Nat.toDigits 10 (n / 10)) = some (n / 10) :=
          Text.digitsFrom_toDigits (by decide) (by decide) (n / 10)
        rw [hcs, hc, hzero hc] at hvalue
        have hdiv : 0 = n / 10 := Option.some.inj hvalue
        omega

theorem digitsAndRest_append (hcs : ∀ c ∈ cs, Number.isDigit 10 c = true) (rest : List Char) :
    Number.digitsAndRest 10 (cs ++ '\n' :: rest) = (cs, '\n' :: rest) := by
  have hline : Number.isDigit 10 '\n' = false := rfl
  induction cs with
  | nil => cases rest <;> simp [Number.digitsAndRest, hline]
  | cons c cs ih =>
    rw [List.forall_mem_cons] at hcs
    have hmore := ih hcs.2
    rcases cs with _ | ⟨d, cs⟩
    · rw [List.nil_append] at hmore
      simp [Number.digitsAndRest, hcs.1, hmore]
    · rw [List.cons_append] at hmore
      simp [Number.digitsAndRest, hcs.1, hmore]

theorem ne_of_isDigit {d : Char} (hc : Number.isDigit 10 c = true)
    (hd : Number.isDigit 10 d = false) : c ≠ d := by
  rintro rfl
  exact Bool.false_ne_true (hd.symm.trans hc)

/-- The digits of a number are read to the end of the line. -/
theorem reads_plainDigits (n : Nat) (rest : List Char) :
    Reads Number.plainDigits (Nat.toDigits 10 n ++ '\n' :: rest) (Nat.toDigits 10 n)
      ('\n' :: rest) := by
  have hall : ∀ c ∈ Nat.toDigits 10 n, Number.isDigit 10 c = true :=
    fun c hc => isDigit_of_mem_toDigits hc
  obtain ⟨c, cs, hcs, hzero⟩ := toDigits_eq_cons n
  rw [hcs, List.forall_mem_cons] at hall
  rw [hcs]
  unfold Reads Number.plainDigits
  split
  · next heq =>
    obtain ⟨rfl, hrest⟩ := List.cons.inj heq
    obtain rfl := hzero rfl
    rw [← hrest]
    rfl
  · have hmore : Reads (fun cs => some (Number.digitsAndRest 10 cs)) (cs ++ '\n' :: rest) cs
        ('\n' :: rest) :=
      congrArg some (digitsAndRest_append hall.2 rest)
    exact (reads_one hall.1 _).bind (hmore.bind (reads_pure _ _))

/-- A number has no sign. -/
theorem reads_sign_toDigits (n : Nat) (rest : List Char) :
    Reads Number.sign (Nat.toDigits 10 n ++ rest) false (Nat.toDigits 10 n ++ rest) := by
  obtain ⟨c, cs, hcs, -⟩ := toDigits_eq_cons n
  have hc : Number.isDigit 10 c = true := isDigit_of_mem_toDigits (hcs ▸ List.mem_cons_self)
  rw [hcs]
  exact reads_sign (ne_of_isDigit hc rfl) (ne_of_isDigit hc rfl) _

/-- A number at the end of a line has neither a fraction nor an exponent. -/
theorem refuses_float (n : Nat) (rest : List Char) :
    Refuses Number.float (Nat.toDigits 10 n ++ '\n' :: rest) := by
  obtain ⟨c, cs, hcs, -⟩ := toDigits_eq_cons n
  have hc : Number.isDigit 10 c = true := isDigit_of_mem_toDigits (hcs ▸ List.mem_cons_self)
  have hsign := reads_sign_toDigits n ('\n' :: rest)
  have hfraction : Refuses Number.fraction ('\n' :: rest) := (refuses_char (by decide) rest).bind
  have hexponent : Refuses Number.exponent ('\n' :: rest) :=
    (notBefore_cons (by decide) rest).one.bind
  have hdecimal : Refuses Number.decimal (Nat.toDigits 10 n ++ '\n' :: rest) := by
    refine hsign.bind_refuses ((reads_plainDigits n rest).bind_refuses
      (hfraction.optional.bind_refuses (hexponent.optional.bind_refuses ?_)))
    exact (refuses_failure _).bind
  have hspecial : Refuses Number.special (Nat.toDigits 10 n ++ '\n' :: rest) := by
    rw [hcs] at hsign ⊢
    exact hsign.bind_refuses ((refuses_word (ne_of_isDigit hc rfl) _ _).orElse
      (refuses_word (ne_of_isDigit hc rfl) _ _))
  exact hdecimal.orElse hspecial

theorem reads_integer {n : Nat} (hn : n ≤ 9223372036854775807) (rest : List Char) :
    Reads Number.integer (Nat.toDigits 10 n ++ '\n' :: rest) n ('\n' :: rest) := by
  obtain ⟨c, cs, hcs, hzero⟩ := toDigits_eq_cons n
  have hvalue : Number.valueOf 10 (Nat.toDigits 10 n) = n := by
    unfold Number.valueOf
    rw [Text.digitsFrom_toDigits (by decide) (by decide)]
    rfl
  have hfit : Reads (Number.fitting (n : Int)) ('\n' :: rest) n ('\n' :: rest) := by
    unfold Number.fitting
    rw [if_pos (by omega)]
    exact reads_pure _ _
  have hread : Reads (do
      let negative ← Number.sign
      let n : Nat := Number.valueOf 10 (← Number.plainDigits)
      Number.fitting (if negative then -n else n)) (Nat.toDigits 10 n ++ '\n' :: rest) (n : Int)
      ('\n' :: rest) := by
    refine (reads_sign_toDigits n _).bind ((reads_plainDigits n rest).bind ?_)
    rw [hvalue]
    exact hfit
  -- what stands behind a zero is the end of the line, so the number is in no other base
  have hbase : ∀ d ds, d ≠ '\n' → Nat.toDigits 10 n ++ '\n' :: rest ≠ '0' :: d :: ds := by
    intro d ds hd heq
    rw [hcs] at heq
    obtain ⟨rfl, hrest⟩ := List.cons.inj heq
    obtain rfl := hzero rfl
    exact hd (List.cons.inj hrest).1.symm
  unfold Reads Number.integer
  split
  · next heq => exact absurd heq (hbase 'x' _ (by decide))
  · next heq => exact absurd heq (hbase 'o' _ (by decide))
  · next heq => exact absurd heq (hbase 'b' _ (by decide))
  · exact hread

/-- A number of at most three digits is too short for a year, and no colon stands behind it. -/
theorem refuses_moment_toDigits {n : Nat} (hn : n < 1000) (rest : List Char) :
    Refuses Moment.read (Nat.toDigits 10 n ++ '\n' :: rest) := by
  have hlength : (Nat.toDigits 10 n).length ≤ 3 :=
    (Nat.length_toDigits_le_iff (by decide) (by decide)).2 hn
  have hall : ∀ c ∈ Nat.toDigits 10 n, Number.isDigit 10 c = true :=
    fun c hc => isDigit_of_mem_toDigits hc
  have hline : Text.digitValue 10 '\n' = none := rfl
  obtain ⟨c, cs, hcs, -⟩ := toDigits_eq_cons n
  rw [hcs] at hlength hall ⊢
  rcases cs with _ | ⟨d, _ | ⟨e, _ | ⟨f, cs⟩⟩⟩
  · exact refuses_moment ⟨'\n', by simp, hline⟩ (.inl ⟨'\n', by simp, hline⟩)
  · exact refuses_moment ⟨'\n', by simp, hline⟩ (.inr (notBefore_cons rfl _))
  · have he : e ≠ ':' := ne_of_isDigit (hall e (by simp)) rfl
    exact refuses_moment ⟨'\n', by simp, hline⟩ (.inr (notBefore_cons (by simpa using he) _))
  · simp only [List.length_cons] at hlength
    omega

/-- A number of a byte is read to the end of the line. -/
theorem reads_byte (b : UInt8) (rest : List Char) :
    Reads scalar ((toString b.toNat).toList ++ '\n' :: rest) (.integer b.toNat) ('\n' :: rest) := by
  have hb := b.toNat_lt
  have htext : (toString b.toNat).toList = Nat.toDigits 10 b.toNat := String.toList_ofList
  obtain ⟨c, cs, hcs, -⟩ := toDigits_eq_cons b.toNat
  have hc : Number.isDigit 10 c = true := isDigit_of_mem_toDigits (hcs ▸ List.mem_cons_self)
  have hquote : Quoted.isQuote c = false := by
    simp [Quoted.isQuote, ne_of_isDigit hc (d := '"') rfl, ne_of_isDigit hc (d := '\'') rfl]
  have hquoted : Refuses Quoted.read (Nat.toDigits 10 b.toNat ++ '\n' :: rest) := by
    rw [hcs]
    exact refuses_quoted (notBefore_cons hquote _)
  rw [htext]
  exact hquoted.map.orElse_reads ((refuses_moment_toDigits (by omega) rest).map.orElse_reads
    ((refuses_float b.toNat rest).map.orElse_reads (reads_integer (by omega) rest).map.orElse))

end Numbers

/-! ### Lists of switches -/

theorem length_dropGap_le (inComment : Bool) (cs : List Char) :
    (dropGap inComment cs).length ≤ cs.length := by
  fun_induction dropGap inComment cs <;> simp_all <;> omega

/-- The line of a switch. -/
def switchLine (b : Bool) : String := "    " ++ boolText b ++ ",\n"

theorem dropGap_switchLine (b : Bool) (cs : List Char) :
    dropGap false ((switchLine b).toList ++ cs) = (boolText b).toList ++ ',' :: '\n' :: cs := by
  cases b <;> rfl

/-- A switch is read with the comma behind it and the blanks before the next line. -/
theorem reads_switch (depth : Nat) (b : Bool) (cs : List Char) :
    Reads (arrayItem (value depth)) ((boolText b).toList ++ ',' :: '\n' :: cs) (.boolean b)
      (dropGap false cs) := by
  have hvalue := reads_value (reads_boolean b (',' :: '\n' :: cs)) depth
  have hgap : Reads gap (',' :: '\n' :: cs) () (',' :: '\n' :: cs) := rfl
  have hnext : Reads next (',' :: '\n' :: cs) ',' (',' :: '\n' :: cs) := rfl
  have hseparator : Reads (separator ']' gap) (',' :: '\n' :: cs) () (dropGap false cs) :=
    hnext.bind ((reads_char ',' _).bind rfl)
  exact hvalue.bind (hgap.bind (hseparator.bind (reads_pure _ _)))

theorem reads_switches_items (depth : Nat) (bs : List Bool) (rest : List Char) :
    Reads (untilClosed (char ']') (arrayItem (value depth)))
      (dropGap false ((bs.flatMap fun b => (switchLine b).toList) ++ ']' :: rest))
      (bs.map Node.boolean, ()) rest := by
  induction bs with
  | nil => exact reads_untilClosed (reads_char ']' rest)
  | cons b bs ih =>
    rw [List.flatMap_cons, List.append_assoc, dropGap_switchLine]
    have hopen : Refuses (char ']') ((boolText b).toList ++ ',' :: '\n' ::
        ((bs.flatMap fun b => (switchLine b).toList) ++ ']' :: rest)) := by
      cases b <;> exact refuses_char (by decide) _
    refine hopen.untilClosed (reads_switch depth b _) ?_ ih
    have hle := length_dropGap_le false
      ((bs.flatMap fun b => (switchLine b).toList) ++ ']' :: rest)
    simp only [List.length_append, List.length_cons] at hle ⊢
    omega

/-- **A list of switches is read back.** -/
theorem reads_switches (depth : Nat) (bs : List Bool) (rest : List Char) :
    Reads (value (depth + 1)) ((switchesText bs).toList ++ rest) (.array (bs.map .boolean))
      rest := by
  set body := (bs.flatMap fun b => (switchLine b).toList) ++ ']' :: rest with hbody
  have htext : (switchesText bs).toList ++ rest = '[' :: '\n' :: body := by
    unfold switchesText
    rw [String.toList_append, String.toList_append, String.toList_join, List.flatMap_map,
      List.append_assoc, List.append_assoc]
    rfl
  have hstart : OtherStart '[' := ⟨by decide, by decide, by decide, by decide⟩
  have hboolean : ∀ cs, Refuses boolean ('[' :: cs) := fun cs =>
    (refuses_word (by decide) _ cs).bind.orElse (refuses_word (by decide) _ cs).bind
  have hscalar : ∀ cs, Refuses scalar ('[' :: cs) := fun cs =>
    (hstart.scalar_eq cs).trans (hboolean cs).map
  have hgap : Reads gap ('\n' :: body) () (dropGap false body) := rfl
  have harray : Reads (array (value depth)) ('[' :: '\n' :: body) (.array (bs.map .boolean)) rest :=
    (reads_char '[' _).bind
      (hgap.bind ((reads_switches_items depth bs rest).bind (reads_pure _ rest)))
  rw [htext]
  exact (hscalar _).orElse_reads harray.orElse

end StorageAdapter.Toml
