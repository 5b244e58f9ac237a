import Mathlib.Tactic.Common
import StorageAdapter.Toml.Reader

/-! # What readers take off a text

A reader is described by what it takes off a text (`Reads`) and by the texts that it refuses
(`Refuses`). There is one lemma for each way to put readers together, so that what a compound reader
does is derived from its parts in the order in which they are tried. Repeated readers are described
step by step, since their recursion is on the length of the text. -/

namespace StorageAdapter.Toml.Reader

variable {α β : Type}

/-- Takes `a` off a text and leaves the rest. -/
def Reads (x : Reader α) (cs : List Char) (a : α) (rest : List Char) : Prop :=
  x cs = some (a, rest)

/-- Refuses a text. -/
def Refuses (x : Reader α) (cs : List Char) : Prop := x cs = none

/-- The text does not begin with a character of the class. -/
def NotBefore (p : Char → Bool) (cs : List Char) : Prop := ∀ c ∈ cs.head?, p c = false

/-! ### Combinations -/

section Combinations

variable {x y : Reader α} {f : α → Reader β} {g : α → β} {a : α} {b : β}
  {cs mid rest : List Char}

theorem Reads.bind (hx : Reads x cs a mid) (hf : Reads (f a) mid b rest) :
    Reads (x >>= f) cs b rest := by
  show (x cs).bind _ = _
  rw [hx]
  exact hf

theorem Reads.bind_refuses (hx : Reads x cs a mid) (hf : Refuses (f a) mid) :
    Refuses (x >>= f) cs := by
  show (x cs).bind _ = _
  rw [hx]
  exact hf

theorem Refuses.bind (hx : Refuses x cs) : Refuses (x >>= f) cs := by
  show (x cs).bind _ = _
  rw [hx]
  rfl

theorem reads_pure (a : α) (cs : List Char) : Reads (pure a) cs a cs := rfl

theorem refuses_failure (cs : List Char) : Refuses (failure : Reader α) cs := rfl

theorem Reads.map (hx : Reads x cs a rest) : Reads (g <$> x) cs (g a) rest := by
  show (x cs).bind _ = _
  rw [hx]
  rfl

theorem Refuses.map (hx : Refuses x cs) : Refuses (g <$> x) cs := by
  show (x cs).bind _ = _
  rw [hx]
  rfl

theorem Reads.orElse (hx : Reads x cs a rest) : Reads (x <|> y) cs a rest := by
  show (x cs).orElse _ = _
  rw [hx]
  rfl

theorem Refuses.orElse_reads (hx : Refuses x cs) (hy : Reads y cs a rest) :
    Reads (x <|> y) cs a rest := by
  show (x cs).orElse _ = _
  rw [hx]
  exact hy

theorem Refuses.orElse (hx : Refuses x cs) (hy : Refuses y cs) : Refuses (x <|> y) cs := by
  show (x cs).orElse _ = _
  rw [hx]
  exact hy

theorem Reads.optional (hx : Reads x cs a rest) : Reads (optional x) cs (some a) rest :=
  hx.map.orElse

theorem Refuses.optional (hx : Refuses x cs) : Reads (optional x) cs none cs :=
  hx.map.orElse_reads (reads_pure none cs)

end Combinations

/-! ### Characters -/

section Characters

variable {p : Char → Bool} {c d : Char} {cs rest : List Char}

theorem notBefore_cons (h : p c = false) (cs : List Char) : NotBefore p (c :: cs) := by
  rintro _ ⟨⟩
  exact h

theorem notBefore_nil (p : Char → Bool) : NotBefore p [] := by
  rintro _ ⟨⟩

theorem NotBefore.append (hcs : NotBefore p cs) (hrest : NotBefore p rest) :
    NotBefore p (cs ++ rest) := by
  rcases cs with _ | ⟨c, cs⟩
  · exact hrest
  · exact notBefore_cons (hcs c rfl) _

theorem reads_one (h : p c = true) (cs : List Char) : Reads (one p) (c :: cs) c cs :=
  if_pos h

theorem NotBefore.one (h : NotBefore p cs) : Refuses (one p) cs := by
  rcases cs with _ | ⟨c, cs⟩
  · rfl
  · exact if_neg (by rw [h c rfl]; exact Bool.false_ne_true)

theorem reads_char (c : Char) (cs : List Char) : Reads (char c) (c :: cs) () cs :=
  (reads_one (p := (· == c)) (BEq.refl c) cs).bind (reads_pure () cs)

theorem NotBefore.char (h : NotBefore (· == c) cs) : Refuses (char c) cs := h.one.bind

theorem refuses_char (h : d ≠ c) (cs : List Char) : Refuses (char c) (d :: cs) :=
  NotBefore.char (notBefore_cons (p := (· == c)) (beq_false_of_ne h) cs)

theorem reads_word (cs rest : List Char) : Reads (word cs) (cs ++ rest) () rest := by
  induction cs with
  | nil => exact reads_pure () rest
  | cons c cs ih => exact (reads_char c (cs ++ rest)).bind ih

theorem refuses_word (h : d ≠ c) (cs rest : List Char) : Refuses (word (c :: cs)) (d :: rest) :=
  (refuses_char h rest).bind

/-- The longest run of a class is what stands before the first other character. -/
theorem reads_run (hcs : ∀ c ∈ cs, p c = true) (hrest : NotBefore p rest) :
    Reads (run p) (cs ++ rest) cs rest := by
  have hnone : rest.takeWhile p = [] ∧ rest.dropWhile p = rest := by
    rcases rest with _ | ⟨d, rest⟩
    · exact ⟨rfl, rfl⟩
    · have hd := hrest d rfl
      exact ⟨List.takeWhile_cons_of_neg (by simp [hd]), List.dropWhile_cons_of_neg (by simp [hd])⟩
  unfold Reads run
  rw [List.takeWhile_append_of_pos hcs, List.dropWhile_append_of_pos hcs, hnone.1, hnone.2,
    List.append_nil]

theorem reads_run1 (hne : cs ≠ []) (hcs : ∀ c ∈ cs, p c = true) (hrest : NotBefore p rest) :
    Reads (run1 p) (cs ++ rest) cs rest := by
  refine (reads_run hcs hrest).bind ?_
  rw [if_neg (by simpa using hne)]
  exact reads_pure cs rest

/-! ### Spaces and ends of lines -/

theorem reads_gap {gap : List Char} (hgap : ∀ c ∈ gap, isSpace c = true)
    (hrest : NotBefore isSpace rest) : Reads spaces (gap ++ rest) () rest :=
  (reads_run hgap hrest).bind (reads_pure () rest)

theorem reads_spaces (h : NotBefore isSpace cs) : Reads spaces ([] ++ cs) () cs :=
  reads_gap (by simp) h

theorem reads_space (h : NotBefore isSpace cs) : Reads spaces ([' '] ++ cs) () cs :=
  reads_gap (by simp [isSpace]) h

theorem reads_newline (cs : List Char) : Reads newline ('\n' :: cs) () cs := rfl

theorem refuses_newline (hn : c ≠ '\n') (hr : c ≠ '\r') (cs : List Char) :
    Refuses newline (c :: cs) := by
  unfold Refuses newline
  split <;> simp_all

theorem reads_lineRest (cs : List Char) : Reads lineRest ('\n' :: cs) () cs := by
  have hcomment : Refuses comment ('\n' :: cs) := (refuses_char (by decide) cs).bind
  exact (reads_spaces (notBefore_cons rfl cs)).bind
    (hcomment.optional.bind (reads_newline cs).orElse)

end Characters

/-! ### Repetition -/

/-- What is left behind at least one character is shorter. -/
theorem length_lt_cons_append (c : Char) (cs rest : List Char) :
    rest.length < (c :: cs ++ rest).length := by
  rw [List.length_append, List.length_cons]
  omega

section Repetition

variable {close : Reader β} {item : Reader α} {items : List α} {a : α} {b : β}
  {cs mid rest : List Char}

theorem reads_untilClosed (h : Reads close cs b rest) :
    Reads (untilClosed close item) cs ([], b) rest := by
  unfold Reads
  rw [untilClosed, h]

/-- An item before the end, behind which the reading goes on. -/
theorem Refuses.untilClosed (hclose : Refuses close cs) (hitem : Reads item cs a mid)
    (hlt : mid.length < cs.length) (h : Reads (untilClosed close item) mid (items, b) rest) :
    Reads (untilClosed close item) cs (a :: items, b) rest := by
  unfold Reads at h ⊢
  rw [Reader.untilClosed, hclose, hitem]
  simp only
  rw [if_pos hlt, h]

theorem Refuses.many (h : Refuses item cs) : Reads (many item) cs [] cs := by
  unfold Reads
  rw [Reader.many, h]

end Repetition

end StorageAdapter.Toml.Reader
