import StorageAdapter.Proofs.Numeral
import StorageAdapter.Proofs.Reader
import StorageAdapter.Toml.Quoted

/-! # Quoted strings that are read back

Every string is written so that it is read back as it was (`reads_write`), whatever characters are
in it and whichever quotes are chosen. Between single or double quotes the characters are read back
one at a time (`Contains`). Three quotes also end a string where one or two quotes of the string
stand before them, so what is written between three quotes never has three in a row
(`quotesBefore_le`), and those at its end are read with what ends it. -/

namespace StorageAdapter.Toml.Quoted

open Reader

/-! ### Contents piece by piece -/

section Contents

variable {close piece : Reader (List Char)} {text mid cs ds rest : List Char}

/-- What stands up to the end of a string is read as the characters. -/
def Contains (close piece : Reader (List Char)) (text cs rest : List Char) : Prop :=
  ∃ pieces last, Reads (untilClosed close piece) text (pieces, last) rest ∧
    pieces.flatten ++ last = cs

theorem Contains.contents (h : Contains close piece text cs rest) :
    Reads (contents close piece) text (String.ofList cs) rest := by
  obtain ⟨pieces, last, hread, rfl⟩ := h
  exact hread.bind (reads_pure _ rest)

theorem contains_of_close (h : Reads close text cs rest) : Contains close piece text cs rest :=
  ⟨[], cs, reads_untilClosed h, rfl⟩

theorem Contains.cons (hclose : Refuses close text) (hpiece : Reads piece text cs mid)
    (hlt : mid.length < text.length) (h : Contains close piece mid ds rest) :
    Contains close piece text (cs ++ ds) rest := by
  obtain ⟨pieces, last, hread, rfl⟩ := h
  refine ⟨cs :: pieces, last, hclose.untilClosed hpiece hlt hread, ?_⟩
  rw [List.flatten_cons, List.append_assoc]

end Contents

/-! ### Escapes -/

/-- A character below 128 is read from the four digits of its code point. -/
theorem charOfDigits_hexDigit {c : Char} (hc : c.toNat < 128) :
    charOfDigits ['0', '0', Error.hexDigit (c.toNat / 16), Error.hexDigit (c.toNat % 16)] =
      some c := by
  have hzero : Text.digitValue 16 '0' = some 0 := rfl
  have hhigh := Text.digitValue_hexDigit (d := c.toNat / 16) (by omega)
  have hlow := Text.digitValue_hexDigit (d := c.toNat % 16) (by omega)
  have hvalue : c.toNat / 16 * 16 + c.toNat % 16 = c.toNat := by omega
  have hvalid : c.toNat.isValidChar := c.valid
  have hdigits : Text.digitsFrom 16 0
      ['0', '0', Error.hexDigit (c.toNat / 16), Error.hexDigit (c.toNat % 16)] =
      some c.toNat := by
    simp [Text.digitsFrom, hzero, hhigh, hlow, hvalue]
  unfold charOfDigits
  rw [hdigits]
  show (if h : c.toNat.isValidChar then some (Char.ofNatAux c.toNat h) else none) = some c
  rw [dif_pos hvalid]
  exact congrArg some (Char.toNat_inj.1 rfl)

theorem toNat_lt_of_not_isPlain {c : Char} (h : isPlain c = false) : c.toNat < 128 := by
  simp [isPlain] at h
  omega

/-- An escape is read as its character, and a line does not go on behind its backslash. -/
theorem exists_writeEscape {c : Char} (h : needsEscape c = true) :
    ∃ e, writeEscape c = '\\' :: e ∧
      ∀ rest, Reads escape (e ++ rest) c rest ∧ Refuses continuation (e ++ rest) := by
  have hcontinuation : ∀ {d : Char} {cs : List Char}, isSpace d = false → d ≠ '\n' → d ≠ '\r' →
      Refuses continuation (d :: cs) := fun hspace hn hr =>
    (reads_spaces (notBefore_cons hspace _)).bind_refuses (refuses_newline hn hr _).bind
  unfold writeEscape
  split_ifs with h₁ h₂ h₃ h₄ h₅ h₆
  · subst h₁
    exact ⟨['b'], rfl, fun rest => ⟨rfl, hcontinuation rfl (by decide) (by decide)⟩⟩
  · subst h₂
    exact ⟨['t'], rfl, fun rest => ⟨rfl, hcontinuation rfl (by decide) (by decide)⟩⟩
  · subst h₃
    exact ⟨['n'], rfl, fun rest => ⟨rfl, hcontinuation rfl (by decide) (by decide)⟩⟩
  · subst h₄
    exact ⟨['f'], rfl, fun rest => ⟨rfl, hcontinuation rfl (by decide) (by decide)⟩⟩
  · subst h₅
    exact ⟨['r'], rfl, fun rest => ⟨rfl, hcontinuation rfl (by decide) (by decide)⟩⟩
  · subst h₆
    exact ⟨['\\'], rfl, fun rest => ⟨rfl, hcontinuation rfl (by decide) (by decide)⟩⟩
  · have hplain : isPlain c = false := by simpa [needsEscape, h₂, h₆] using h
    have hdigits := charOfDigits_hexDigit (toNat_lt_of_not_isPlain hplain)
    refine ⟨_, rfl, fun rest => ⟨?_, hcontinuation rfl (by decide) (by decide)⟩⟩
    show (charOfDigits _).map (·, rest) = some (c, rest)
    rw [hdigits]
    rfl

theorem not_isPlain_of_needsEscape {c : Char} (h : needsEscape c = false) :
    c ≠ '\\' ∧ isPlain c = true := by
  simp [needsEscape] at h
  exact ⟨h.1.1, h.2⟩

/-! ### Between two quotes -/

section TwoQuotes

variable {c : Char} {cs rest : List Char}

/-- A character that is neither a quote nor escaped stands for itself. -/
theorem reads_basicPiece (hquote : c ≠ '"') (h : needsEscape c = false) (rest : List Char) :
    Reads basicPiece (c :: rest) [c] rest := by
  obtain ⟨hslash, hplain⟩ := not_isPlain_of_needsEscape h
  unfold Reads basicPiece
  split
  · next heq => exact absurd (List.cons.inj heq).1 hslash
  · next heq =>
    obtain ⟨rfl, rfl⟩ := List.cons.inj heq
    simp [hplain, hquote]
  · next heq => exact nomatch heq

theorem refuses_closeOne {q : Char} (h : c ≠ q) (cs : List Char) :
    Refuses (closeOne q) (c :: cs) := if_neg h

theorem reads_closeOne (q : Char) (cs : List Char) : Reads (closeOne q) (q :: cs) [] cs :=
  if_pos rfl

theorem contains_writeBasic (cs rest : List Char) :
    Contains (closeOne '"') basicPiece (writeBasic cs ++ '"' :: rest) cs rest := by
  induction cs with
  | nil => exact contains_of_close (reads_closeOne '"' rest)
  | cons c cs ih =>
    show Contains (closeOne '"') basicPiece
      ((_ ++ writeBasic cs) ++ '"' :: rest) ([c] ++ cs) rest
    rw [List.append_assoc]
    split_ifs with hquote hescape
    · subst hquote
      exact ih.cons (refuses_closeOne (by decide) _) rfl (length_lt_cons_append '\\' ['"'] _)
    · obtain ⟨e, he, hread⟩ := exists_writeEscape hescape
      rw [he]
      refine ih.cons (refuses_closeOne (by decide) _) ?_ (length_lt_cons_append '\\' e _)
      show (escape (e ++ _)).map _ = _
      rw [(hread _).1]
      rfl
    · exact ih.cons (refuses_closeOne hquote _)
        (reads_basicPiece hquote (by simpa using hescape) _) (length_lt_cons_append c [] _)

theorem contains_literal (hplain : ∀ c ∈ cs, isPlain c = true) (hquote : '\'' ∉ cs)
    (rest : List Char) :
    Contains (closeOne '\'') literalPiece (cs ++ '\'' :: rest) cs rest := by
  induction cs with
  | nil => exact contains_of_close (reads_closeOne '\'' rest)
  | cons c cs ih =>
    rw [List.forall_mem_cons] at hplain
    rw [List.mem_cons, not_or] at hquote
    have hne : c ≠ '\'' := Ne.symm hquote.1
    have hpiece : Reads literalPiece (c :: (cs ++ '\'' :: rest)) [c] (cs ++ '\'' :: rest) :=
      if_pos (by simp [hplain.1, hne])
    exact (ih hplain.2 hquote.2).cons (refuses_closeOne hne _) hpiece
      (length_lt_cons_append c [] _)

end TwoQuotes

/-! ### Between three quotes -/

/-- Text that pieces read as the characters and in which no three quotes stand in a row; `quotes` of
them stand at its beginning. -/
inductive Spelled (q : Char) (piece : Reader (List Char)) :
    (quotes : Nat) → (text cs : List Char) → Prop where
  | nil : Spelled q piece 0 [] []
  | quote {quotes : Nat} {text cs : List Char} (hlt : quotes < 2)
      (h : Spelled q piece quotes text cs) : Spelled q piece (quotes + 1) (q :: text) (q :: cs)
  | other {quotes : Nat} {text cs : List Char} {c d : Char} (ds : List Char) (hquote : d ≠ q)
      (hreturn : d ≠ '\r') (hline : d = '\n' → c = '\n')
      (hread : ∀ rest, Reads piece (d :: ds ++ rest) [c] rest)
      (h : Spelled q piece quotes text cs) : Spelled q piece 0 (d :: ds ++ text) (c :: cs)

section ThreeQuotes

variable {q : Char} {piece : Reader (List Char)} {quotes : Nat} {text cs rest : List Char}

theorem refuses_closeThree {k : Nat} {d : Char} (hk : k ≤ 2) (hd : d ≠ q) (cs : List Char) :
    Refuses (closeThree q) (List.replicate k q ++ d :: cs) := by
  have hcases : k = 0 ∨ k = 1 ∨ k = 2 := by omega
  unfold Refuses closeThree
  rcases hcases with rfl | rfl | rfl <;> split <;> simp_all

theorem reads_closeThree {k : Nat} (hk : k ≤ 2) (hrest : NotBefore (· == q) rest) :
    Reads (closeThree q) (List.replicate k q ++ q :: q :: q :: rest) (List.replicate k q) rest := by
  have hnone : rest.takeWhile (· == q) = [] := by
    rcases rest with _ | ⟨d, rest⟩
    · rfl
    · exact List.takeWhile_cons_of_neg (by simpa using hrest d rfl)
  have hcases : k = 0 ∨ k = 1 ∨ k = 2 := by omega
  unfold Reads closeThree
  rcases hcases with rfl | rfl | rfl <;> simp [List.replicate, hnone]

theorem Spelled.le_two (h : Spelled q piece quotes text cs) : quotes ≤ 2 := by
  cases h <;> omega

/-- Either there are only quotes, or another character stands behind the first ones. -/
theorem Spelled.cases (h : Spelled q piece quotes text cs) :
    (text = List.replicate quotes q ∧ cs = List.replicate quotes q) ∨
      ∃ d ds, text = List.replicate quotes q ++ d :: ds ∧ d ≠ q := by
  induction h with
  | nil => exact .inl ⟨rfl, rfl⟩
  | quote hlt h ih =>
    rcases ih with ⟨rfl, rfl⟩ | ⟨d, ds, rfl, hd⟩
    · exact .inl ⟨rfl, rfl⟩
    · exact .inr ⟨d, ds, rfl, hd⟩
  | other _ hquote => exact .inr ⟨_, _, rfl, hquote⟩

/-- What is spelled is read up to three quotes. -/
theorem Spelled.contains (hquote : ∀ rest, Reads piece (q :: rest) [q] rest)
    (hrest : NotBefore (· == q) rest) (h : Spelled q piece quotes text cs) :
    Contains (closeThree q) piece (text ++ q :: q :: q :: rest) cs rest := by
  induction h with
  | nil => exact contains_of_close (reads_closeThree (Nat.zero_le 2) hrest)
  | @quote quotes text cs hlt h ih =>
    rcases h.cases with ⟨rfl, rfl⟩ | ⟨d, ds, rfl, hd⟩
    · exact contains_of_close (reads_closeThree (k := quotes + 1) hlt hrest)
    · have hopen : Refuses (closeThree q)
          (q :: (List.replicate quotes q ++ d :: ds) ++ q :: q :: q :: rest) := by
        rw [List.cons_append, List.append_assoc]
        exact refuses_closeThree (k := quotes + 1) hlt hd (ds ++ q :: q :: q :: rest)
      exact ih.cons hopen (hquote _) (length_lt_cons_append q [] _)
  | other ds hne hreturn hline hread h ih =>
    rw [List.append_assoc]
    exact ih.cons (refuses_closeThree (k := 0) (Nat.zero_le 2) hne _) (hread _)
      (length_lt_cons_append _ ds _)

/-- Only a line feed is spelled with the end of a line. -/
theorem Spelled.refuses_newline (hn : q ≠ '\n') (hr : q ≠ '\r')
    (h : Spelled q piece quotes text cs) (hcs : '\n' ∉ cs) (rest : List Char) :
    Refuses newline (text ++ q :: rest) := by
  cases h with
  | nil => exact Reader.refuses_newline hn hr rest
  | quote => exact Reader.refuses_newline hn hr _
  | other _ _ hreturn hline =>
    rw [List.mem_cons, not_or] at hcs
    exact Reader.refuses_newline (fun h => hcs.1 (hline h).symm) hreturn _

/-- A string between three quotes is read, whether or not it begins on a line of its own. -/
theorem Spelled.multilineContents (hn : q ≠ '\n') (hr : q ≠ '\r')
    (hquote : ∀ rest, Reads piece (q :: rest) [q] rest) (hrest : NotBefore (· == q) rest)
    (h : Spelled q piece quotes text cs) :
    Reads (multilineContents (closeThree q) piece)
      ((if '\n' ∈ cs then ['\n'] else []) ++ (text ++ q :: q :: q :: rest))
      (String.ofList cs) rest := by
  have hcontents := (h.contains hquote hrest).contents
  split_ifs with hline
  · exact (reads_newline _).optional.bind hcontents
  · exact (h.refuses_newline hn hr hline _).optional.bind hcontents

/-! ### What is written between three quotes -/

theorem isPlain_of_isControl {c : Char} (h : isControl c = false) :
    isPlain c = true ∨ c = '\n' := by
  rw [isControl, Bool.and_eq_false_iff, Bool.not_eq_false', bne_eq_false_iff_eq] at h
  exact h

theorem ne_of_isPlain {c : Char} (h : isPlain c = true) : c ≠ '\n' ∧ c ≠ '\r' := by
  constructor <;> rintro rfl <;> exact nomatch h

theorem reads_linePiece {c : Char} (h : isPlain c = true) (rest : List Char) :
    Reads linePiece (c :: rest) [c] rest := by
  obtain ⟨hn, hr⟩ := ne_of_isPlain h
  have hnewline : newline (c :: rest) = none := Reader.refuses_newline hn hr rest
  unfold Reads linePiece
  simp only [hnewline, h, if_true]

theorem reads_multilinePiece {c : Char} (hslash : c ≠ '\\') (rest cs : List Char) {ds : List Char}
    (h : Reads linePiece (c :: rest) cs ds) : Reads multilinePiece (c :: rest) cs ds := by
  unfold Reads multilinePiece
  split
  · next heq => exact absurd (List.cons.inj heq).1 hslash
  · exact h

theorem reads_multilinePiece_escape {e cs rest : List Char} {c : Char}
    (hcontinuation : Refuses continuation (e ++ cs)) (hread : Reads escape (e ++ cs) c rest) :
    Reads multilinePiece ('\\' :: e ++ cs) [c] rest := by
  have hnone : continuation (e ++ cs) = none := hcontinuation
  have hsome : escape (e ++ cs) = some (c, rest) := hread
  show multilinePiece ('\\' :: (e ++ cs)) = _
  unfold multilinePiece
  simp only [hnone, hsome, Option.map_some]

/-- Behind two quotes the next one is escaped, so together there are never three. -/
theorem exists_spelled_writeMultiline (quotes : Nat) (cs : List Char) (hle : quotes ≤ 2) :
    ∃ n, quotes + n ≤ 2 ∧ Spelled '"' multilinePiece n (writeMultiline quotes cs) cs := by
  induction cs generalizing quotes with
  | nil => exact ⟨0, hle, .nil⟩
  | cons c cs ih =>
    obtain ⟨n, -, hrest⟩ := ih 0 (Nat.zero_le 2)
    unfold writeMultiline
    split_ifs with hquote hlt hline hescape
    · obtain ⟨m, hm, hmore⟩ := ih (quotes + 1) hlt
      subst hquote
      exact ⟨m + 1, by omega, hmore.quote (by omega)⟩
    · subst hquote
      refine ⟨0, hle, hrest.other (d := '\\') ['"'] (by decide) (by decide) (by decide) ?_⟩
      exact fun rest => reads_multilinePiece_escape rfl rfl
    · subst hline
      exact ⟨0, hle, hrest.other [] (by decide) (by decide) (fun _ => rfl) fun _ => rfl⟩
    · obtain ⟨e, he, hread⟩ := exists_writeEscape hescape
      rw [he]
      refine ⟨0, hle, hrest.other e (by decide) (by decide) (fun h => absurd h (by decide)) ?_⟩
      exact fun rest => reads_multilinePiece_escape (hread rest).2 (hread rest).1
    · obtain ⟨hslash, hplain⟩ := not_isPlain_of_needsEscape (by simpa using hescape)
      refine ⟨0, hle, hrest.other [] hquote (ne_of_isPlain hplain).2
        (fun h => absurd h hline) ?_⟩
      exact fun rest => reads_multilinePiece hslash rest _ (reads_linePiece hplain rest)

/-- Characters without three quotes in a row spell themselves. -/
theorem exists_spelled_self {cs : List Char} (hcontrol : ∀ c ∈ cs, isControl c = false)
    (htriple : hasTriple '\'' cs = false) : ∃ n, Spelled '\'' linePiece n cs cs := by
  induction cs with
  | nil => exact ⟨0, .nil⟩
  | cons c cs ih =>
    rw [List.forall_mem_cons] at hcontrol
    have htail : hasTriple '\'' cs = false := by
      rcases cs with _ | ⟨a, _ | ⟨b, cs⟩⟩
      · rfl
      · rfl
      · exact (Bool.or_eq_false_iff.1 htriple).2
    obtain ⟨n, h⟩ := ih hcontrol.2 htail
    have hle := h.le_two
    by_cases hquote : c = '\''
    · subst hquote
      refine ⟨n + 1, h.quote (Nat.lt_of_le_of_ne hle ?_)⟩
      rintro rfl
      -- with two more quotes behind it, this would be the first of three
      rcases h.cases with ⟨rfl, -⟩ | ⟨d, ds, rfl, -⟩
      · exact absurd htriple (by decide)
      · simp [hasTriple, List.replicate] at htriple
    · rcases isPlain_of_isControl hcontrol.1 with hplain | rfl
      · obtain ⟨hn, hr⟩ := ne_of_isPlain hplain
        exact ⟨0, h.other [] hquote hr (fun h => absurd h hn) (reads_linePiece hplain)⟩
      · exact ⟨0, h.other [] hquote (by decide) (fun _ => rfl) fun _ => rfl⟩

end ThreeQuotes

/-! ### Whole strings -/

section Strings

variable {cs rest : List Char}

/-- Whether a character is one that strings begin and end with. -/
def isQuote (c : Char) : Bool := c == '"' || c == '\''

theorem notBefore_quote {q : Char} (hq : isQuote q = true) (hrest : NotBefore isQuote rest) :
    NotBefore (· == q) rest := by
  intro c hc
  have hne := hrest c hc
  rw [beq_eq_false_iff_ne]
  rintro rfl
  exact absurd hq (by rw [hne]; exact Bool.false_ne_true)

/-- A quote that two others do not follow begins a string of one line. -/
theorem read_quote {q : Char} {text : List Char} (h : ∀ ds, text ≠ q :: q :: ds) :
    read (q :: text) = readLine (q :: text) := by
  unfold read
  split
  · next heq =>
    obtain ⟨rfl, rfl⟩ := List.cons.inj heq
    exact absurd rfl (h _)
  · next heq =>
    obtain ⟨rfl, rfl⟩ := List.cons.inj heq
    exact absurd rfl (h _)
  · rfl

theorem reads_basic (cs : List Char) (hrest : NotBefore isQuote rest) :
    Reads read ('"' :: writeBasic cs ++ ['"'] ++ rest) (String.ofList cs) rest := by
  have hone : ∀ ds, writeBasic cs ++ '"' :: rest ≠ '"' :: '"' :: ds := by
    rcases cs with _ | ⟨c, cs⟩
    · rintro ds h
      obtain rfl := (List.cons.inj h).2
      exact nomatch hrest '"' rfl
    · rintro ds h
      unfold writeBasic at h
      split_ifs at h with hquote hescape
      · exact absurd (List.cons.inj h).1 (by decide)
      · obtain ⟨e, he, -⟩ := exists_writeEscape hescape
        rw [he] at h
        exact absurd (List.cons.inj h).1 (by decide)
      · exact hquote (List.cons.inj h).1
  have hread := (contains_writeBasic cs rest).contents
  rw [List.append_assoc]
  exact (read_quote hone).trans hread

theorem reads_literal (hcontrol : ∀ c ∈ cs, isControl c = false) (hline : '\n' ∉ cs)
    (hquote : '\'' ∉ cs) (hrest : NotBefore isQuote rest) :
    Reads read ('\'' :: cs ++ ['\''] ++ rest) (String.ofList cs) rest := by
  have hplain : ∀ c ∈ cs, isPlain c = true := by
    intro c hc
    exact (isPlain_of_isControl (hcontrol c hc)).resolve_right fun h => hline (h ▸ hc)
  have hone : ∀ ds, cs ++ '\'' :: rest ≠ '\'' :: '\'' :: ds := by
    rcases cs with _ | ⟨c, cs⟩
    · rintro ds h
      obtain rfl := (List.cons.inj h).2
      exact nomatch hrest '\'' rfl
    · rintro ds h
      exact hquote (List.mem_cons.2 (.inl (List.cons.inj h).1.symm))
  have hread := (contains_literal hplain hquote rest).contents
  rw [List.append_assoc]
  exact (read_quote hone).trans hread

theorem reads_multiline (cs : List Char) (hrest : NotBefore isQuote rest) :
    Reads read (between ['"', '"', '"'] cs (writeMultiline 0 cs) ++ rest) (String.ofList cs)
      rest := by
  obtain ⟨n, -, hspelled⟩ := exists_spelled_writeMultiline 0 cs (Nat.zero_le 2)
  have hread := hspelled.multilineContents (by decide) (by decide)
    (fun rest => reads_multilinePiece (by decide) rest _ (reads_linePiece rfl rest))
    (notBefore_quote rfl hrest)
  unfold between
  rw [List.append_assoc, List.append_assoc, List.append_assoc]
  exact hread

theorem reads_multilineLiteral (hcontrol : ∀ c ∈ cs, isControl c = false)
    (htriple : hasTriple '\'' cs = false) (hrest : NotBefore isQuote rest) :
    Reads read (between ['\'', '\'', '\''] cs cs ++ rest) (String.ofList cs) rest := by
  obtain ⟨n, hspelled⟩ := exists_spelled_self hcontrol htriple
  have hread := hspelled.multilineContents (by decide) (by decide) (reads_linePiece rfl)
    (notBefore_quote rfl hrest)
  unfold between
  rw [List.append_assoc, List.append_assoc, List.append_assoc]
  exact hread

/-- **Every string is read back**, in front of anything but another quote. -/
theorem reads_write (s : String) (hrest : NotBefore isQuote rest) :
    Reads read ((write s).toList ++ rest) s rest := by
  suffices h : Reads read (writeChars s.toList ++ rest) (String.ofList s.toList) rest by
    rw [String.ofList_toList] at h
    unfold write
    rwa [String.toList_ofList]
  unfold writeChars
  split_ifs with h₁ h₂ h₃ h₄ h₅
  · exact reads_basic s.toList hrest
  · simp only [Bool.and_eq_true, Bool.not_eq_true', List.any_eq_false, Bool.or_eq_true, not_or,
      beq_iff_eq] at h₂
    exact reads_literal (fun c hc => by simpa using h₂.1 c hc) (fun hc => (h₂.2 _ hc).1 rfl)
      (fun hc => (h₂.2 _ hc).2 rfl) hrest
  · exact reads_multiline s.toList hrest
  · simp only [Bool.and_eq_true, Bool.not_eq_true', List.any_eq_false] at h₄
    exact reads_multilineLiteral (fun c hc => by simpa using h₄.1 c hc) h₄.2 hrest
  · exact reads_multiline s.toList hrest
  · exact reads_basic s.toList hrest

end Strings

end StorageAdapter.Toml.Quoted
